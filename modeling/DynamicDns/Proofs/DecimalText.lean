import Mathlib.Data.List.Induction

/-! # Decimal texts

Which number a text of ASCII digits denotes, said digit by digit, and that this is
the number that is computed from it. Zeros in front are digits like all others.
-/

namespace DynamicDns

/-- The number that a text of digits denotes, the last digit counting once. -/
inductive Decimal : List Char → Nat → Prop where
  | digit {d : Nat} : d < 10 → Decimal [d.digitChar] d
  | append {digits : List Char} {n d : Nat} :
      Decimal digits n → d < 10 → Decimal (digits ++ [d.digitChar]) (10 * n + d)

theorem exists_digitChar {c : Char} (digit : c.isDigit) : ∃ d < 10, d.digitChar = c := by
  simp only [Char.isDigit, Bool.and_eq_true, decide_eq_true_eq, ge_iff_le,
    UInt32.le_iff_toNat_le] at digit
  have low : 48 ≤ c.toNat := digit.1
  have high : c.toNat ≤ 57 := digit.2
  have small : c.toNat - 48 < 10 := by omega
  refine ⟨c.toNat - 48, small, ?_⟩
  apply Char.toNat_inj.mp
  rw [Nat.toNat_digitChar_of_lt_ten small]
  omega

theorem ofDigitChars_digitChar {d : Nat} (small : d < 10) (init : Nat) :
    Nat.ofDigitChars 10 [d.digitChar] init = 10 * init + d := by
  have zero : '0'.toNat = 48 := rfl
  rw [Nat.ofDigitChars_cons, Nat.toNat_digitChar_of_lt_ten small, zero, Nat.add_sub_cancel_left]
  rfl

namespace Decimal

variable {digits : List Char} {n : Nat}

theorem ne_nil (decimal : Decimal digits n) : digits ≠ [] := by
  cases decimal with
  | digit => exact List.cons_ne_nil _ _
  | append => exact List.append_ne_nil_of_right_ne_nil _ (List.cons_ne_nil _ _)

theorem isDigit (decimal : Decimal digits n) : ∀ c ∈ digits, c.isDigit := by
  induction decimal with
  | digit small => simp [Nat.isDigit_digitChar, small]
  | append _ small ih =>
      rw [List.forall_mem_append]
      exact ⟨ih, by simp [Nat.isDigit_digitChar, small]⟩

theorem not_mem (decimal : Decimal digits n) {c : Char} (other : c.isDigit = false) :
    c ∉ digits := by
  intro member
  rw [decimal.isDigit c member] at other
  cases other

theorem value (decimal : Decimal digits n) : Nat.ofDigitChars 10 digits 0 = n := by
  induction decimal with
  | digit small => rw [ofDigitChars_digitChar small, Nat.mul_zero, Nat.zero_add]
  | append _ small ih => rw [Nat.ofDigitChars_append, ih, ofDigitChars_digitChar small]

/-- Any text of digits denotes a number. -/
theorem ofDigits (some : digits ≠ []) (all : ∀ c ∈ digits, c.isDigit) :
    Decimal digits (Nat.ofDigitChars 10 digits 0) := by
  induction digits using List.reverseRecOn with
  | nil => exact (some rfl).elim
  | append_singleton front c ih =>
      rw [List.forall_mem_append, List.forall_mem_singleton] at all
      obtain ⟨d, small, rfl⟩ := exists_digitChar all.2
      rw [Nat.ofDigitChars_append, ofDigitChars_digitChar small]
      cases front with
      | nil =>
          rw [Nat.ofDigitChars_nil, Nat.mul_zero, Nat.zero_add]
          exact .digit small
      | cons first others => exact (ih (List.cons_ne_nil _ _) all.1).append small

theorem iff_value : Decimal digits n ↔
    digits ≠ [] ∧ (∀ c ∈ digits, c.isDigit) ∧ Nat.ofDigitChars 10 digits 0 = n := by
  constructor
  · intro decimal
    exact ⟨decimal.ne_nil, decimal.isDigit, decimal.value⟩
  · rintro ⟨some, all, rfl⟩
    exact ofDigits some all

/-- The digits that a number is written with denote it. -/
theorem toString (n : Nat) : Decimal (ToString.toString n).toList n := by
  have written : (ToString.toString n).toList = Nat.toDigits 10 n := Nat.toList_repr
  rw [written, iff_value]
  exact ⟨Nat.toDigits_ne_nil, fun c => Nat.isDigit_of_mem_toDigits (by omega) (by omega),
    Nat.ofDigitChars_ten_toDigits⟩

end Decimal

end DynamicDns
