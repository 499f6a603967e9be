import DynamicDns.Proofs.DecimalText
import DynamicDns.Proofs.EndpointShape

/-! # The grammar of servers

What a server text means, said without the steps that read it: its host is what
stands before the first colon, and its port is spelled after that colon, by
digits, with a plus sign in front and blanks around them at will. Every other
text after the colon, and no colon at all, mean the HTTP port. Reading refuses a
server for the size of its host alone, and otherwise has the endpoint that the
grammar tells.
-/

namespace DynamicDns

namespace Text

/-- A text is what is left of it without the blanks at its ends, between these blanks. -/
theorem exists_blanks (text : List Char) : ∃ before after, text = before ++ trim text ++ after ∧
    (∀ c ∈ before, isBlank c) ∧ ∀ c ∈ after, isBlank c := by
  let rest := text.dropWhile isBlank
  have ends : trim text ++ (rest.reverse.takeWhile isBlank).reverse = rest := by
    rw [trim, ← List.reverse_append, List.takeWhile_append_dropWhile, List.reverse_reverse]
  refine ⟨text.takeWhile isBlank, (rest.reverse.takeWhile isBlank).reverse, ?_, ?_, ?_⟩
  · rw [List.append_assoc, ends, List.takeWhile_append_dropWhile]
  · exact fun c => List.mem_takeWhile_imp
  · intro c member
    exact List.mem_takeWhile_imp (List.mem_reverse.mp member)

theorem dropWhile_blanks {blanks rest : List Char} (all : ∀ c ∈ blanks, isBlank c)
    (starts : ∀ c ∈ rest.head?, ¬ isBlank c) : (blanks ++ rest).dropWhile isBlank = rest := by
  rw [List.dropWhile_append_of_pos all]
  cases rest with
  | nil => rfl
  | cons c rest => exact List.dropWhile_cons_of_neg (starts c rfl)

/-- Blanks around a text without blanks are what is taken from it. -/
theorem trim_blanks {before core after : List Char} (blankBefore : ∀ c ∈ before, isBlank c)
    (solid : ∀ c ∈ core, ¬ isBlank c) (some : core ≠ []) (blankAfter : ∀ c ∈ after, isBlank c) :
    trim (before ++ core ++ after) = core := by
  have front : (before ++ (core ++ after)).dropWhile isBlank = core ++ after := by
    apply dropWhile_blanks blankBefore
    obtain ⟨first, others, rfl⟩ := List.exists_cons_of_ne_nil some
    intro c head
    exact solid c (List.mem_of_mem_head? head)
  have back : (after.reverse ++ core.reverse).dropWhile isBlank = core.reverse := by
    apply dropWhile_blanks
    · exact fun c member => blankAfter c (List.mem_reverse.mp member)
    · exact fun c last => solid c (List.mem_reverse.mp (List.mem_of_mem_head? last))
  rw [trim, List.append_assoc, front, List.reverse_append, back, List.reverse_reverse]

theorem trim_eq_nil_iff {text : List Char} : trim text = [] ↔ ∀ c ∈ text, isBlank c := by
  constructor
  · intro nothing
    obtain ⟨before, after, parts, blankBefore, blankAfter⟩ := exists_blanks text
    rw [parts, nothing, List.append_nil, List.forall_mem_append]
    exact ⟨blankBefore, blankAfter⟩
  · intro all
    rw [trim, List.dropWhile_eq_nil_iff.mpr all]
    rfl

theorem not_isBlank_of_isDigit {c : Char} (digit : c.isDigit) : ¬ isBlank c := by
  obtain ⟨d, small, rfl⟩ := exists_digitChar digit
  have all : ∀ d < 10, ¬ isBlank d.digitChar := by decide
  exact all d small

end Text

namespace Endpoint

/-- A server taken apart at its first colon: what stands before it, and what comes after it. -/
inductive FirstColon : String → String → Option String → Prop where
  | absent {server : String} : ':' ∉ server.toList → FirstColon server server none
  | present {host after : String} :
      ':' ∉ host.toList → FirstColon (host ++ ":" ++ after) host (some after)

/-- A text that spells a port: digits after at most one plus sign, between blanks. -/
inductive SpellsPort : List Char → Nat → Prop where
  | intro {before sign digits after : List Char} {port : Nat} :
      (∀ c ∈ before, Text.isBlank c) → sign = [] ∨ sign = ['+'] → Decimal digits port →
      (∀ c ∈ after, Text.isBlank c) → 1 ≤ port → port ≤ 65535 →
      SpellsPort (before ++ sign ++ digits ++ after) port

/-- The port of a server, by what comes after its first colon. -/
inductive PortOf : Option String → Nat → Prop where
  | spelled {after : String} {port : Nat} : SpellsPort after.toList port → PortOf (some after) port
  | unusable {after : String} : (∀ port, ¬ SpellsPort after.toList port) → PortOf (some after) 80
  | absent : PortOf none 80

namespace FirstColon

theorem exists_parts (server : String) : ∃ host after, FirstColon server host after := by
  by_cases colon : ':' ∈ server.toList
  · obtain ⟨host, after, parts, first⟩ := List.eq_append_cons_of_mem colon
    have joined : server = String.ofList host ++ ":" ++ String.ofList after := by
      apply String.toList_inj.mp
      simp [String.toList_append, parts]
    rw [joined]
    exact ⟨_, _, .present (by rwa [String.toList_ofList])⟩
  · exact ⟨server, none, .absent colon⟩

variable {server host : String} {after : Option String}

theorem toList_present (host after : String) :
    (host ++ ":" ++ after).toList = host.toList ++ ':' :: after.toList := by
  simp [String.toList_append]

theorem hostPart_eq (parts : FirstColon server host after) : hostPart server = host := by
  apply String.toList_inj.mp
  rw [hostPart, String.toList_ofList]
  cases parts with
  | absent none => exact List.takeWhile_eq_self_iff.mpr (ne_mark none)
  | present first => rw [toList_present, takeWhile_mark first]

theorem portPart_eq (parts : FirstColon server host after) :
    portPart server = (after.getD "").toList := by
  rw [portPart]
  cases parts with
  | absent none =>
      rw [List.dropWhile_eq_nil_iff.mpr (ne_mark none)]
      rfl
  | present first =>
      rw [toList_present, dropWhile_mark first]
      rfl

end FirstColon

/-! ## Ports -/

/-- The port that digits denote, if it is one. -/
def portOfDigits? (digits : List Char) : Option Nat :=
  let port := Nat.ofDigitChars 10 digits 0
  if digits ≠ [] ∧ digits.all Char.isDigit ∧ 0 < port ∧ port < 65536 then some port else none

theorem portOfDigits?_eq_some_iff {digits : List Char} {port : Nat} :
    portOfDigits? digits = some port ↔ Decimal digits port ∧ 1 ≤ port ∧ port ≤ 65535 := by
  simp only [portOfDigits?, Option.ite_none_right_eq_some, Option.some.injEq, List.all_eq_true,
    Decimal.iff_value]
  constructor
  · rintro ⟨⟨some, all, positive, small⟩, rfl⟩
    exact ⟨⟨some, all, rfl⟩, positive, Nat.le_of_lt_succ small⟩
  · rintro ⟨⟨some, all, rfl⟩, positive, small⟩
    exact ⟨⟨some, all, positive, Nat.lt_succ_of_le small⟩, rfl⟩

theorem readPort_of_plus {text digits : List Char} (trimmed : Text.trim text = '+' :: digits) :
    readPort text = portOfDigits? digits := by
  simp only [readPort, trimmed, portOfDigits?]

theorem readPort_of_bare {text : List Char} (bare : (Text.trim text).head? ≠ some '+') :
    readPort text = portOfDigits? (Text.trim text) := by
  cases trimmed : Text.trim text with
  | nil => simp only [readPort, trimmed, portOfDigits?]
  | cons c digits =>
      have unsigned : c ≠ '+' := by
        rintro rfl
        exact bare (by rw [trimmed, List.head?_cons])
      simp [readPort, trimmed, unsigned, portOfDigits?]

theorem spellsPort_of_readPort {text : List Char} {port : Nat} (read : readPort text = some port) :
    SpellsPort text port := by
  obtain ⟨before, after, parts, blankBefore, blankAfter⟩ := Text.exists_blanks text
  by_cases plus : (Text.trim text).head? = some '+'
  · obtain ⟨digits, trimmed⟩ := List.head?_eq_some_iff.mp plus
    rw [readPort_of_plus trimmed, portOfDigits?_eq_some_iff] at read
    obtain ⟨decimal, positive, small⟩ := read
    rw [parts, trimmed, List.append_cons]
    exact .intro blankBefore (.inr rfl) decimal blankAfter positive small
  · rw [readPort_of_bare plus, portOfDigits?_eq_some_iff] at read
    obtain ⟨decimal, positive, small⟩ := read
    rw [parts, ← List.append_nil before]
    exact .intro blankBefore (.inl rfl) decimal blankAfter positive small

theorem readPort_of_spellsPort {text : List Char} {port : Nat} (spells : SpellsPort text port) :
    readPort text = some port := by
  cases spells with
  | @intro before sign digits after _ blankBefore signed decimal blankAfter positive small =>
      -- Neither the sign nor a digit is a blank, so trimming stops at them.
      have solid : ∀ c ∈ digits, ¬ Text.isBlank c :=
        fun c member => Text.not_isBlank_of_isDigit (decimal.isDigit c member)
      have value := portOfDigits?_eq_some_iff.mpr ⟨decimal, positive, small⟩
      rcases signed with rfl | rfl
      · have trimmed : Text.trim (before ++ [] ++ digits ++ after) = digits := by
          rw [List.append_nil]
          exact Text.trim_blanks blankBefore solid decimal.ne_nil blankAfter
        have bare : (Text.trim (before ++ [] ++ digits ++ after)).head? ≠ some '+' := by
          rw [trimmed]
          intro plus
          exact decimal.not_mem rfl (List.mem_of_mem_head? plus)
        rw [readPort_of_bare bare, trimmed, value]
      · have trimmed : Text.trim (before ++ ['+'] ++ digits ++ after) = '+' :: digits := by
          rw [List.append_assoc before]
          apply Text.trim_blanks blankBefore _ (List.cons_ne_nil _ _) blankAfter
          exact List.forall_mem_cons.mpr ⟨by decide, solid⟩
        rw [readPort_of_plus trimmed, value]

theorem portOf_some_iff {after : String} {port : Nat} :
    PortOf (some after) port ↔ (readPort after.toList).getD Limits.httpPort = port := by
  cases read : readPort after.toList with
  | some spelled =>
      constructor
      · intro portOf
        cases portOf with
        | spelled spells =>
            exact Option.some_inj.mp (read.symm.trans (readPort_of_spellsPort spells))
        | unusable unspelled => exact (unspelled spelled (spellsPort_of_readPort read)).elim
      · rintro rfl
        exact .spelled (spellsPort_of_readPort read)
  | none =>
      constructor
      · intro portOf
        cases portOf with
        | spelled spells => cases read.symm.trans (readPort_of_spellsPort spells)
        | unusable => rfl
      · rintro rfl
        apply PortOf.unusable
        intro port spells
        cases read.symm.trans (readPort_of_spellsPort spells)

theorem portOf_none_iff {port : Nat} :
    PortOf none port ↔ (readPort []).getD Limits.httpPort = port := by
  constructor
  · rintro ⟨⟩
    rfl
  · rintro rfl
    exact .absent

/-! ## Endpoints -/

namespace FirstColon

variable {server host : String} {after : Option String}

theorem portOf_iff (parts : FirstColon server host after) {port : Nat} :
    PortOf after port ↔ (readPort (portPart server)).getD Limits.httpPort = port := by
  rw [parts.portPart_eq]
  cases after with
  | none => exact portOf_none_iff
  | some after => exact portOf_some_iff

theorem resolve_eq_error_iff (parts : FirstColon server host after) {error : EndpointError} :
    resolve server = .error error ↔
      255 < host.utf8ByteSize ∧ error = .tooLong ⟨host.utf8ByteSize, 255⟩ := by
  rw [← parts.hostPart_eq]
  by_cases long : 255 < (hostPart server).utf8ByteSize
  · rw [resolve_of_long long, Except.error.injEq, and_iff_right long]
    exact eq_comm
  · simp only [resolve_of_short long, reduceCtorEq, long, false_and]

theorem resolve_eq_ok_iff (parts : FirstColon server host after) {e : Endpoint} :
    resolve server = .ok e ↔
      host.utf8ByteSize ≤ 255 ∧ e.name.text = host ∧ PortOf after e.port := by
  rw [parts.portOf_iff, ← parts.hostPart_eq]
  by_cases long : 255 < (hostPart server).utf8ByteSize
  · simp only [resolve_of_long long, reduceCtorEq, Nat.not_le.mpr long, false_and]
  · obtain ⟨⟨text, fits⟩, port⟩ := e
    simp only [resolve_of_short long, Except.ok.injEq, mk.injEq, BoundedString.mk.injEq,
      Nat.not_lt.mp long, true_and, eq_comm]

end FirstColon

/-- A server names an endpoint by the host before its first colon and the port after it. -/
def Names (server : String) (e : Endpoint) : Prop :=
  ∃ host after, FirstColon server host after ∧ e.name.text = host ∧ PortOf after e.port

/-- The name of an endpoint is never too long, so a server that names one is not refused. -/
theorem names_iff {server : String} {e : Endpoint} : Names server e ↔ resolve server = .ok e := by
  constructor
  · rintro ⟨host, after, parts, named, port⟩
    have fits : host.utf8ByteSize ≤ 255 := named ▸ e.name.size_le
    exact parts.resolve_eq_ok_iff.mpr ⟨fits, named, port⟩
  · intro resolved
    obtain ⟨host, after, parts⟩ := FirstColon.exists_parts server
    obtain ⟨-, named, port⟩ := parts.resolve_eq_ok_iff.mp resolved
    exact ⟨host, after, parts, named, port⟩

theorem Names.unique {server : String} {e e' : Endpoint} (named : Names server e)
    (named' : Names server e') : e = e' :=
  Except.ok.inj ((names_iff.mp named).symm.trans (names_iff.mp named'))

/-- Reading a server refuses it exactly for the size of its host, and else has the host as it stands
    and the port that the text after the first colon spells, or the HTTP port. -/
theorem resolve_accepts_grammar (server : String) :
    ∃ host after, FirstColon server host after ∧
      (∀ error, resolve server = .error error ↔
        255 < host.utf8ByteSize ∧ error = .tooLong ⟨host.utf8ByteSize, 255⟩) ∧
      ∀ e, resolve server = .ok e ↔
        host.utf8ByteSize ≤ 255 ∧ e.name.text = host ∧ PortOf after e.port := by
  obtain ⟨host, after, parts⟩ := FirstColon.exists_parts server
  exact ⟨host, after, parts, fun _ => parts.resolve_eq_error_iff, fun _ => parts.resolve_eq_ok_iff⟩

end Endpoint

end DynamicDns
