import DynamicDns.Base64
import Mathlib.Data.List.Basic

/-! # Base64 texts

Reading a Base64 text gives the bytes it was written from, and the text that was written is the
only one that reads as these bytes. It consists of characters of the standard alphabet, with at
most two `=` at its end that make its length a multiple of four.
-/

namespace DynamicDns.Base64

/-! ## The alphabet -/

/-- The characters of the standard alphabet, each at the number it stands for. -/
def alphabet : List Char :=
  "ABCDEFGHIJKLMNOPQRSTUVWXYZabcdefghijklmnopqrstuvwxyz0123456789+/".toList

theorem getElem?_alphabet : ∀ n < 64, alphabet[n]? = some (digit n) := by decide

theorem digit_mem_alphabet {n : Nat} (small : n < 64) : digit n ∈ alphabet :=
  List.mem_of_getElem? (getElem?_alphabet n small)

theorem pad_not_mem_alphabet : '=' ∉ alphabet := by decide

theorem digit_ne_pad {n : Nat} (small : n < 64) : digit n ≠ '=' :=
  ne_of_mem_of_not_mem (digit_mem_alphabet small) pad_not_mem_alphabet

theorem value_digit {n : Nat} (small : n < 64) : value (digit n) = some n := by
  revert n
  decide

theorem ofNat_toNat_sub {c : Char} {first : Nat} (least : first ≤ c.toNat) :
    Char.ofNat (c.toNat - first + first) = c := by
  rw [Nat.sub_add_cancel least, Char.ofNat_toNat]

/-- A character that stands for a number is the one that is written for it. -/
theorem digit_of_value {c : Char} {n : Nat} (worth : value c = some n) : n < 64 ∧ digit n = c := by
  unfold value at worth
  split at worth
  · rename_i upper
    obtain ⟨low, high⟩ : 65 ≤ c.toNat ∧ c.toNat ≤ 90 := upper
    cases worth
    refine ⟨by omega, ?_⟩
    rw [digit, if_pos (by omega), ofNat_toNat_sub low]
  split at worth
  · rename_i lower
    obtain ⟨low, high⟩ : 97 ≤ c.toNat ∧ c.toNat ≤ 122 := lower
    cases worth
    refine ⟨by omega, ?_⟩
    rw [digit, if_neg (by omega), if_pos (by omega), Nat.add_sub_cancel, ofNat_toNat_sub low]
  split at worth
  · rename_i decimal
    obtain ⟨low, high⟩ : 48 ≤ c.toNat ∧ c.toNat ≤ 57 := decimal
    cases worth
    refine ⟨by omega, ?_⟩
    rw [digit, if_neg (by omega), if_neg (by omega), if_pos (by omega), Nat.add_sub_cancel,
      ofNat_toNat_sub low]
  split at worth
  · rename_i plus
    cases worth
    exact ⟨by decide, plus.symm⟩
  split at worth
  · rename_i slash
    cases worth
    exact ⟨by decide, slash.symm⟩
  · cases worth

/-! ## Groups

Three bytes and four digits write the same number below `2 ^ 24`, the bytes to base 256 and the
digits to base 64. In a last group that is not full the bits to the right of the bytes are zero. -/

theorem ofNat_eq {n : Nat} {a : UInt8} (same : n % 256 = a.toNat) : UInt8.ofNat n = a := by
  apply UInt8.toNat.inj
  rw [UInt8.toNat_ofNat', same]

theorem two_digits (n : Nat) : n / 64 * 64 + n % 64 = n := by omega

theorem three_digits (n : Nat) : (n / 4096 * 64 + n / 64 % 64) * 64 + n % 64 = n := by omega

theorem four_digits (n : Nat) :
    ((n / 262144 * 64 + n / 4096 % 64) * 64 + n / 64 % 64) * 64 + n % 64 = n := by omega

theorem one_byte {n : Nat} (small : n < 4096) (clear : n % 16 = 0) :
    (UInt8.ofNat (n / 16)).toNat * 16 = n := by
  rw [UInt8.toNat_ofNat']
  omega

theorem two_bytes {n : Nat} (small : n < 262144) (clear : n % 4 = 0) :
    ((UInt8.ofNat (n / 1024)).toNat * 256 + (UInt8.ofNat (n / 4)).toNat) * 4 = n := by
  rw [UInt8.toNat_ofNat', UInt8.toNat_ofNat']
  omega

theorem three_bytes {n : Nat} (small : n < 16777216) :
    ((UInt8.ofNat (n / 65536)).toNat * 256 + (UInt8.ofNat (n / 256)).toNat) * 256 +
      (UInt8.ofNat n).toNat = n := by
  rw [UInt8.toNat_ofNat', UInt8.toNat_ofNat', UInt8.toNat_ofNat']
  omega

/-! ## Reading what was written -/

theorem decode_encode (bytes : List UInt8) : decode (encode bytes) = some bytes := by
  induction bytes using encode.induct with
  | case1 => rfl
  | case2 a =>
    have := a.toNat_lt
    simp only [encode, decode]
    rw [value_digit (by omega), value_digit (by omega)]
    simp only [Option.bind_eq_bind, Option.bind_some, two_digits]
    rw [if_pos (by omega), ofNat_eq (a := a) (by omega)]
  | case3 a b =>
    have := a.toNat_lt
    have := b.toNat_lt
    rw [encode, decode.eq_3 _ _ _ (digit_ne_pad (by omega)), value_digit (by omega),
      value_digit (by omega), value_digit (by omega)]
    simp only [Option.bind_eq_bind, Option.bind_some, three_digits]
    rw [if_pos (by omega), ofNat_eq (a := a) (by omega), ofNat_eq (a := b) (by omega)]
  | case4 a b c rest ih =>
    have := a.toNat_lt
    have := b.toNat_lt
    have := c.toNat_lt
    have full : digit (((a.toNat * 256 + b.toNat) * 256 + c.toNat) % 64) ≠ '=' :=
      digit_ne_pad (by omega)
    rw [encode, decode.eq_4 _ _ _ _ _ (fun _ last _ => full last) (fun last _ => full last),
      value_digit (by omega), value_digit (by omega), value_digit (by omega),
      value_digit (by omega), ih]
    simp only [Option.bind_eq_bind, Option.bind_some, four_digits]
    rw [ofNat_eq (a := a) (by omega), ofNat_eq (a := b) (by omega), ofNat_eq (a := c) (by omega)]

theorem encode_of_decode {text : List Char} {bytes : List UInt8}
    (read : decode text = some bytes) : encode bytes = text := by
  induction text using decode.induct generalizing bytes with
  | case1 =>
    cases read
    rfl
  | case2 w x =>
    simp only [decode, Option.bind_eq_bind, Option.bind_eq_some_iff,
      Option.ite_none_right_eq_some, Option.some.injEq] at read
    obtain ⟨i, first, j, second, clear, rfl⟩ := read
    obtain ⟨_, rfl⟩ := digit_of_value first
    obtain ⟨_, rfl⟩ := digit_of_value second
    have top : (i * 64 + j) / 64 = i := by omega
    have last : (i * 64 + j) % 64 = j := by omega
    simp only [encode, one_byte (by omega) clear, top, last]
  | case3 w x y full =>
    rw [decode.eq_3 _ _ _ full] at read
    simp only [Option.bind_eq_bind, Option.bind_eq_some_iff,
      Option.ite_none_right_eq_some, Option.some.injEq] at read
    obtain ⟨i, first, j, second, k, third, clear, rfl⟩ := read
    obtain ⟨_, rfl⟩ := digit_of_value first
    obtain ⟨_, rfl⟩ := digit_of_value second
    obtain ⟨_, rfl⟩ := digit_of_value third
    have top : ((i * 64 + j) * 64 + k) / 4096 = i := by omega
    have middle : ((i * 64 + j) * 64 + k) / 64 % 64 = j := by omega
    have last : ((i * 64 + j) * 64 + k) % 64 = k := by omega
    simp only [encode, two_bytes (by omega) clear, top, middle, last]
  | case4 w x y z rest short full ih =>
    rw [decode.eq_4 _ _ _ _ _ short full] at read
    simp only [Option.bind_eq_bind, Option.bind_eq_some_iff, Option.some.injEq] at read
    obtain ⟨i, first, j, second, k, third, l, fourth, tail, readTail, rfl⟩ := read
    obtain ⟨_, rfl⟩ := digit_of_value first
    obtain ⟨_, rfl⟩ := digit_of_value second
    obtain ⟨_, rfl⟩ := digit_of_value third
    obtain ⟨_, rfl⟩ := digit_of_value fourth
    have small : ((i * 64 + j) * 64 + k) * 64 + l < 16777216 := by omega
    have top : (((i * 64 + j) * 64 + k) * 64 + l) / 262144 = i := by omega
    have upper : (((i * 64 + j) * 64 + k) * 64 + l) / 4096 % 64 = j := by omega
    have lower : (((i * 64 + j) * 64 + k) * 64 + l) / 64 % 64 = k := by omega
    have last : (((i * 64 + j) * 64 + k) * 64 + l) % 64 = l := by omega
    simp only [encode, three_bytes small, top, upper, lower, last, ih readTail]
  | case5 text nil one two three =>
    rw [decode.eq_5 _ nil one two three] at read
    cases read

/-- The text that is written for some bytes is the only one that reads as them. -/
theorem decode_eq_some_iff {text : List Char} {bytes : List UInt8} :
    decode text = some bytes ↔ text = encode bytes := by
  constructor
  · intro read
    exact (encode_of_decode read).symm
  · rintro rfl
    exact decode_encode bytes

/-! ## Padding -/

/-- Standard Base64 text: whole groups of four characters, all of them in the alphabet up to the
    padding of at most two characters at the end. -/
structure Padded (text : List Char) : Prop where
  groups : 4 ∣ text.length
  padding : ∃ digits pad, pad ≤ 2 ∧ text = digits ++ List.replicate pad '=' ∧
    ∀ c ∈ digits, c ∈ alphabet

theorem Padded.prepend {w x y z : Char} {text : List Char} (padded : Padded text)
    (digits : ∀ c ∈ [w, x, y, z], c ∈ alphabet) : Padded (w :: x :: y :: z :: text) := by
  obtain ⟨groups, rest, pad, few, rfl, restDigits⟩ := padded
  refine ⟨?_, [w, x, y, z] ++ rest, pad, few, rfl, ?_⟩
  · simp only [List.length_cons] at groups ⊢
    omega
  · intro c member
    exact (List.mem_append.mp member).elim (digits c) (restDigits c)

theorem padded_encode (bytes : List UInt8) : Padded (encode bytes) := by
  induction bytes using encode.induct with
  | case1 => exact ⟨⟨0, rfl⟩, [], 0, by decide, rfl, by simp⟩
  | case2 a =>
    have := a.toNat_lt
    refine ⟨⟨1, rfl⟩, [_, _], 2, by decide, rfl, ?_⟩
    rw [List.forall_mem_cons, List.forall_mem_singleton]
    exact ⟨digit_mem_alphabet (by omega), digit_mem_alphabet (by omega)⟩
  | case3 a b =>
    have := a.toNat_lt
    have := b.toNat_lt
    refine ⟨⟨1, rfl⟩, [_, _, _], 1, by decide, rfl, ?_⟩
    rw [List.forall_mem_cons, List.forall_mem_cons, List.forall_mem_singleton]
    exact ⟨digit_mem_alphabet (by omega), digit_mem_alphabet (by omega),
      digit_mem_alphabet (by omega)⟩
  | case4 a b c rest ih =>
    have := a.toNat_lt
    have := b.toNat_lt
    have := c.toNat_lt
    apply ih.prepend
    rw [List.forall_mem_cons, List.forall_mem_cons, List.forall_mem_cons,
      List.forall_mem_singleton]
    exact ⟨digit_mem_alphabet (by omega), digit_mem_alphabet (by omega),
      digit_mem_alphabet (by omega), digit_mem_alphabet (by omega)⟩

end DynamicDns.Base64
