import DynamicDns.Json
import Mathlib.Data.Option.Basic

/-! # Reading JSON texts

A reader for the format, token by token, with the open arrays and objects on a
stack. It takes any layout and any escapes, and of numbers the natural ones. What
it makes of a value written over several lines is this value again.
-/

namespace DynamicDns.Json

/-! ## Texts between quotes -/

/-- The value of a digit in base sixteen, in either case. -/
def hexDigit? (c : Char) : Option Nat :=
  if c.isDigit then some (c.toNat - 48)
  else if 'a' ≤ c ∧ c ≤ 'f' then some (c.toNat - 87)
  else if 'A' ≤ c ∧ c ≤ 'F' then some (c.toNat - 55)
  else none

/-- The number that four digits in base sixteen denote, and what comes after them. -/
def codeUnit? : List Char → Option (Nat × List Char)
  | a :: b :: c :: d :: rest => do
    let a ← hexDigit? a
    let b ← hexDigit? b
    let c ← hexDigit? c
    let d ← hexDigit? d
    return (((a * 16 + b) * 16 + c) * 16 + d, rest)
  | _ => none

/-- What a single character after a backslash stands for. -/
def unescaped? : Char → Option Char
  | '"' => some '"'
  | '\\' => some '\\'
  | '/' => some '/'
  | 'b' => some '\x08'
  | 'f' => some '\x0c'
  | 'n' => some '\n'
  | 'r' => some '\r'
  | 't' => some '\t'
  | _ => none

/-- The first character of a text between quotes, however it is written, and what comes after it.
    One that has no code unit of its own is written as a pair of surrogates. -/
def letter? : List Char → Option (Char × List Char)
  | '\\' :: 'u' :: rest => do
    let (unit, rest) ← codeUnit? rest
    if unit.isValidChar then return (Char.ofNat unit, rest)
    else
      match rest with
      | '\\' :: 'u' :: rest => do
        let (low, rest) ← codeUnit? rest
        guard (unit < 0xdc00 ∧ 0xdc00 ≤ low ∧ low < 0xe000)
        return (Char.ofNat (0x10000 + (unit - 0xd800) * 0x400 + (low - 0xdc00)), rest)
      | _ => none
  | '\\' :: c :: rest => (unescaped? c).map (·, rest)
  | c :: rest => if ' ' ≤ c ∧ c ≠ '"' ∧ c ≠ '\\' then some (c, rest) else none
  | [] => none

theorem length_codeUnit? {text rest : List Char} {n : Nat} (taken : codeUnit? text = some (n, rest)) :
    rest.length < text.length := by
  unfold codeUnit? at taken
  split at taken
  · simp only [bind, pure, Option.bind_eq_some_iff, Option.some.injEq, Prod.mk.injEq] at taken
    obtain ⟨_, -, _, -, _, -, _, -, -, rfl⟩ := taken
    simp only [List.length_cons]
    omega
  · cases taken

theorem length_letter? {text rest : List Char} {c : Char} (taken : letter? text = some (c, rest)) :
    rest.length < text.length := by
  unfold letter? at taken
  split at taken
  · simp only [bind, pure, Option.bind_eq_some_iff, Prod.exists] at taken
    obtain ⟨unit, between, first, taken⟩ := taken
    have shorter := length_codeUnit? first
    split at taken
    · simp only [Option.some.injEq, Prod.mk.injEq] at taken
      obtain ⟨-, rfl⟩ := taken
      simp only [List.length_cons]
      omega
    · split at taken
      · simp only [Option.bind_eq_some_iff, Prod.exists, Option.some.injEq, Prod.mk.injEq] at taken
        obtain ⟨low, _, second, _, -, -, rfl⟩ := taken
        have shorter' := length_codeUnit? second
        simp only [List.length_cons] at shorter ⊢
        omega
      · cases taken
  · simp only [Option.map_eq_some_iff, Prod.mk.injEq] at taken
    obtain ⟨_, -, -, rfl⟩ := taken
    simp only [List.length_cons]
    omega
  · split at taken
    · cases taken
      exact Nat.lt_succ_self _
    · cases taken
  · cases taken

/-- A text up to its closing quote, and what comes after that. -/
def text? (source : List Char) : Option (List Char × List Char) :=
  match source with
  | '"' :: rest => some ([], rest)
  | source =>
    match taken : letter? source with
    | some (c, rest) =>
      have := length_letter? taken
      (text? rest).map fun (text, rest) => (c :: text, rest)
    | none => none
termination_by source.length

theorem hexDigit?_digitChar : ∀ d < 16, hexDigit? d.digitChar = some d := by
  decide

/-- Four digits, as controls are written. -/
theorem codeUnit?_hexadecimal {n : Nat} (control : n < 32) (rest : List Char) :
    codeUnit? ((if n < 16 then ['0', '0', '0'] else ['0', '0']) ++
      (Text.hexadecimal n).toList ++ rest) = some (n, rest) := by
  have zero : hexDigit? '0' = some 0 := by decide
  by_cases one : n < 16
  · simp [one, Text.hexadecimal, Nat.toDigits_of_lt_base one, codeUnit?, zero,
      hexDigit?_digitChar n one]
  · have two : Nat.toDigits 16 n = [(n / 16).digitChar, (n % 16).digitChar] := by
      rw [Nat.toDigits_of_base_le (by omega) (by omega), Nat.toDigits_of_lt_base (by omega)]
      rfl
    have high := hexDigit?_digitChar (n / 16) (by omega)
    have low := hexDigit?_digitChar (n % 16) (by omega)
    simp [one, Text.hexadecimal, two, codeUnit?, zero, high, low]
    omega

theorem letter?_of_shown {c : Char} (shown : ' ' ≤ c) (notQuote : c ≠ '"')
    (notBackslash : c ≠ '\\') (rest : List Char) : letter? (c :: rest) = some (c, rest) := by
  unfold letter?
  split
  · rename_i same
    exact absurd (List.cons.inj same).1 notBackslash
  · rename_i same
    exact absurd (List.cons.inj same).1 notBackslash
  · rename_i same
    obtain ⟨rfl, rfl⟩ := List.cons.inj same
    rw [if_pos ⟨shown, notQuote, notBackslash⟩]
  · rename_i same
    cases same

/-- Each character is read as it was written. -/
theorem letter?_escapedChar (c : Char) (rest : List Char) :
    letter? ((escapedChar c).toList ++ rest) = some (c, rest) := by
  unfold escapedChar
  split
  iterate 7 rfl
  rename_i notQuote notBackslash _ _ _ _ _
  split
  · rename_i control
    have small : c.toNat < 32 := UInt32.lt_iff_toNat_lt.mp control
    have digits : ((if c.toNat < 16 then "\\u000" else "\\u00") ++
        Text.hexadecimal c.toNat).toList ++ rest =
        '\\' :: 'u' :: ((if c.toNat < 16 then ['0', '0', '0'] else ['0', '0']) ++
          (Text.hexadecimal c.toNat).toList ++ rest) := by
      rw [String.toList_append]
      split <;> rfl
    have valid : c.toNat.isValidChar := .inl (by omega)
    rw [digits, letter?, codeUnit?_hexadecimal small]
    simp [valid, Char.ofNat_toNat]
  · rename_i shown
    have single : c.toString.toList ++ rest = c :: rest := by
      rw [Char.toString_eq_singleton, String.toList_singleton, List.singleton_append]
    rw [single, letter?_of_shown (Char.not_lt.mp shown) notQuote notBackslash]

theorem text?_of_letter? {source rest : List Char} {c : Char}
    (taken : letter? source = some (c, rest)) :
    text? source = (text? rest).map fun (text, rest) => (c :: text, rest) := by
  rw [text?.eq_def]
  split
  · cases taken
  · split
    · rename_i taken'
      cases taken.symm.trans taken'
      rfl
    · rename_i untaken
      cases taken.symm.trans untaken

/-- A text between quotes is read as it was written. -/
theorem text?_escaped (text : List Char) (rest : List Char) :
    text? (text.flatMap (fun c => (escapedChar c).toList) ++ '"' :: rest) = some (text, rest) := by
  induction text with
  | nil => rw [List.flatMap_nil, List.nil_append, text?]
  | cons c text ih =>
      rw [List.flatMap_cons, List.append_assoc, text?_of_letter? (letter?_escapedChar c _), ih]
      rfl

/-! ## Tokens -/

/-- A piece of a text. -/
inductive Token where
  /-- A bracket, a brace, a comma or a colon. -/
  | mark (c : Char)
  /-- A value that holds no other. -/
  | scalar (value : Json)

/-- The marks of the format. -/
def isMark (c : Char) : Bool := c ∈ ['[', ']', '\x7b', '\x7d', ',', ':']

/-- The token that a text begins with, and what comes after it. -/
def token? : List Char → Option (Token × List Char)
  | 'n' :: 'u' :: 'l' :: 'l' :: rest => some (.scalar .null, rest)
  | 't' :: 'r' :: 'u' :: 'e' :: rest => some (.scalar (.bool true), rest)
  | 'f' :: 'a' :: 'l' :: 's' :: 'e' :: rest => some (.scalar (.bool false), rest)
  | '"' :: rest => (text? rest).map fun (text, rest) =>
    (.scalar (.string (String.ofList text)), rest)
  | c :: rest =>
    let more := rest.takeWhile Char.isDigit
    if isMark c then some (.mark c, rest)
    else if c.isDigit ∧ (c = '0' → more = []) then
      some (.scalar (.number (Nat.ofDigitChars 10 (c :: more) 0)), rest.dropWhile Char.isDigit)
    else none
  | [] => none

theorem length_text? {source text rest : List Char} (taken : text? source = some (text, rest)) :
    rest.length < source.length := by
  induction source using text?.induct generalizing text rest with
  | case1 after =>
      rw [text?] at taken
      cases taken
      exact Nat.lt_succ_self _
  | case2 source _ c after first shorter ih =>
      rw [text?_of_letter? first] at taken
      obtain ⟨⟨text, rest⟩, taken, same⟩ := Option.map_eq_some_iff.mp taken
      cases same
      exact Nat.lt_trans (ih taken) shorter
  | case3 source notQuote untaken =>
      rw [text?.eq_def] at taken
      split at taken
      · exact (notQuote _ rfl).elim
      · split at taken
        · rename_i first
          cases untaken.symm.trans first
        · cases taken

theorem length_token? {text rest : List Char} {token : Token}
    (taken : token? text = some (token, rest)) : rest.length < text.length := by
  unfold token? at taken
  split at taken
  iterate 3
    cases taken
    simp only [List.length_cons]
    omega
  · obtain ⟨⟨text, rest⟩, taken, same⟩ := Option.map_eq_some_iff.mp taken
    cases same
    exact Nat.lt_succ_of_lt (length_text? taken)
  · split at taken
    · cases taken
      exact Nat.lt_succ_self _
    · dsimp only at taken
      split at taken
      · cases taken
        exact Nat.lt_succ_of_le (List.dropWhile_suffix _).length_le
      · cases taken
  · cases taken

/-- What may stand between tokens. -/
def isBlank (c : Char) : Bool := c == ' ' || c == '\t' || c == '\n' || c == '\r'

/-- The first token after blanks, and what comes after it. -/
def next? (text : List Char) : Option (Token × List Char) :=
  token? (text.dropWhile isBlank)

theorem length_next? {text rest : List Char} {token : Token}
    (taken : next? text = some (token, rest)) : rest.length < text.length :=
  Nat.lt_of_lt_of_le (length_token? taken) (List.dropWhile_suffix _).length_le

/-! ## Values -/

/-- An array or object that has been opened. -/
inductive Frame where
  /-- The items so far. -/
  | array (items : List Json)
  /-- The fields so far, and the name of the next one. -/
  | object (fields : List (String × Json)) (name : String)

/-- What has been read, and what may come next. Frames are given from the innermost one on. -/
inductive State where
  /-- A value, or the end of an array without items. -/
  | beforeValue (frames : List Frame)
  /-- The name of a field, or the end of an object without fields. -/
  | beforeName (fields : List (String × Json)) (frames : List Frame)
  | beforeColon (fields : List (String × Json)) (name : String) (frames : List Frame)
  /-- A comma or the end of the innermost frame, or nothing more. -/
  | afterValue (value : Json) (frames : List Frame)

/-- Take in one token, if it may come next. -/
def State.step : State → Token → Option State
  | .beforeValue frames, .scalar value => some (.afterValue value frames)
  | .beforeValue frames, .mark '[' => some (.beforeValue (.array [] :: frames))
  | .beforeValue frames, .mark '\x7b' => some (.beforeName [] frames)
  | .beforeValue (.array [] :: frames), .mark ']' => some (.afterValue (.array []) frames)
  | .beforeName fields frames, .scalar (.string name) => some (.beforeColon fields name frames)
  | .beforeName [] frames, .mark '\x7d' => some (.afterValue (.object []) frames)
  | .beforeColon fields name frames, .mark ':' => some (.beforeValue (.object fields name :: frames))
  | .afterValue value (.array items :: frames), .mark ',' =>
    some (.beforeValue (.array (items ++ [value]) :: frames))
  | .afterValue value (.array items :: frames), .mark ']' =>
    some (.afterValue (.array (items ++ [value])) frames)
  | .afterValue value (.object fields name :: frames), .mark ',' =>
    some (.beforeName (fields ++ [(name, value)]) frames)
  | .afterValue value (.object fields name :: frames), .mark '\x7d' =>
    some (.afterValue (.object (fields ++ [(name, value)])) frames)
  | _, _ => none

/-- The value that has been read, once all is closed. -/
def State.result? : State → Option Json
  | .afterValue value [] => some value
  | _ => none

/-- Read a text to its end. -/
def read (state : State) (text : List Char) : Option Json :=
  match taken : next? text with
  | some (token, rest) =>
    have := length_next? taken
    match state.step token with
    | some state => read state rest
    | none => none
  | none => if text.all isBlank then state.result? else none
termination_by text.length

/-- The value that a text holds, if it is well-formed. -/
def ofText? (text : String) : Option Json := read (.beforeValue []) text.toList

/-! ## Reading what was written -/

theorem read_eq (state : State) (text : List Char) :
    read state text = match next? text with
      | some (token, rest) => (state.step token).bind (read · rest)
      | none => if text.all isBlank then state.result? else none := by
  rw [read]
  split
  · rename_i token rest taken
    simp only [taken]
    cases state.step token <;> rfl
  · rename_i untaken
    rw [untaken]

theorem read_of_next? {state state' : State} {token : Token} {text rest : List Char}
    (taken : next? text = some (token, rest)) (stepped : state.step token = some state') :
    read state text = read state' rest := by
  rw [read_eq, taken]
  exact congrArg (Option.bind · _) stepped

theorem read_blank (c : Char) (blank : isBlank c) (state : State) (rest : List Char) :
    read state (c :: rest) = read state rest := by
  have first : next? (c :: rest) = next? rest := by
    rw [next?, List.dropWhile_cons_of_pos blank, next?]
  rw [read_eq, read_eq state rest, first, List.all_cons, blank, Bool.true_and]

theorem read_newLine (state : State) (level : Nat) (rest : List Char) :
    read state ((newLine level).toList ++ rest) = read state rest := by
  have blanks (n : Nat) : read state (List.replicate n ' ' ++ rest) = read state rest := by
    induction n with
    | zero => rfl
    | succ n ih => rw [List.replicate_succ, List.cons_append, read_blank _ (by decide), ih]
  have layout : (newLine level).toList = '\n' :: List.replicate (2 * level) ' ' := by
    simp [newLine, String.toList_append]
  rw [layout, List.cons_append, read_blank _ (by decide), blanks]

theorem next?_mark (c : Char) (mark : isMark c) (rest : List Char) :
    next? (c :: rest) = some (.mark c, rest) := by
  simp only [isMark, List.mem_cons, List.not_mem_nil, or_false, decide_eq_true_eq] at mark
  rcases mark with rfl | rfl | rfl | rfl | rfl | rfl <;> rfl

theorem next?_escaped (text : String) (rest : List Char) :
    next? ((escaped text).toList ++ rest) = some (.scalar (.string text), rest) := by
  have quoted : (escaped text).toList ++ rest =
      '"' :: (text.toList.flatMap (fun c => (escapedChar c).toList) ++ '"' :: rest) := by
    simp [escaped, String.toList_append, String.toList_join, List.flatMap_map]
  rw [quoted, next?, List.dropWhile_cons_of_neg (by decide), token?, text?_escaped]
  simp

/-- What is read after a number must not belong to it. -/
def EndsNumber (rest : List Char) : Prop := ∀ c ∈ rest.head?, ¬ c.isDigit

/-- Only zero begins with a zero. -/
theorem eq_nil_of_toDigits {n : Nat} {more : List Char} (digits : Nat.toDigits 10 n = '0' :: more) :
    more = [] := by
  induction n using Nat.strongRecOn generalizing more with
  | ind n ih =>
      by_cases one : n < 10
      · rw [Nat.toDigits_of_lt_base one] at digits
        exact (List.cons.inj digits).2.symm
      · rw [Nat.toDigits_of_base_le (by omega) (by omega)] at digits
        cases front : Nat.toDigits 10 (n / 10) with
        | nil => exact (Nat.toDigits_ne_nil front).elim
        | cons c others =>
            rw [front, List.cons_append] at digits
            obtain ⟨rfl, -⟩ := List.cons.inj digits
            rw [ih (n / 10) (by omega) front] at front
            have value := Nat.ofDigitChars_ten_toDigits (n := n / 10)
            rw [front] at value
            simp [Nat.ofDigitChars_cons] at value
            omega

theorem isDigit_of_mem_toDigits {n : Nat} {c : Char} (member : c ∈ Nat.toDigits 10 n) :
    c.isDigit :=
  Nat.isDigit_of_mem_toDigits (by omega) (by omega) member

theorem span_digits {digits rest : List Char} (all : ∀ c ∈ digits, c.isDigit)
    (ends : EndsNumber rest) :
    (digits ++ rest).takeWhile Char.isDigit = digits ∧
      (digits ++ rest).dropWhile Char.isDigit = rest := by
  rw [List.takeWhile_append_of_pos all, List.dropWhile_append_of_pos all]
  cases rest with
  | nil => simp
  | cons c rest =>
      have other : ¬ c.isDigit := ends c rfl
      simp [other]

theorem ne_of_isDigit {c d : Char} (digit : c.isDigit) (other : d.isDigit = false) : c ≠ d := by
  rintro rfl
  rw [digit] at other
  cases other

theorem token?_of_digit {c : Char} (digit : c.isDigit) (rest : List Char) :
    token? (c :: rest) =
      if c = '0' → rest.takeWhile Char.isDigit = [] then
        some (.scalar (.number (Nat.ofDigitChars 10 (c :: rest.takeWhile Char.isDigit) 0)),
          rest.dropWhile Char.isDigit)
      else none := by
  have other (d : Char) (noDigit : d.isDigit = false) (after : List Char) :
      c :: rest ≠ d :: after :=
    fun same => ne_of_isDigit digit noDigit (List.cons.inj same).1
  unfold token?
  split
  · rename_i same
    exact (other 'n' rfl _ same).elim
  · rename_i same
    exact (other 't' rfl _ same).elim
  · rename_i same
    exact (other 'f' rfl _ same).elim
  · rename_i same
    exact (other '"' rfl _ same).elim
  · rename_i same
    obtain ⟨rfl, rfl⟩ := List.cons.inj same
    have notMark : ¬ isMark c := by
      simp only [isMark, List.mem_cons, List.not_mem_nil, or_false, decide_eq_true_eq]
      rintro (rfl | rfl | rfl | rfl | rfl | rfl) <;> cases digit
    simp only [if_neg notMark, digit, true_and]
  · rename_i same
    cases same

theorem next?_number (n : Nat) {rest : List Char} (ends : EndsNumber rest) :
    next? ((toString n).toList ++ rest) = some (.scalar (.number n), rest) := by
  have written : (toString n).toList = Nat.toDigits 10 n := Nat.toList_repr
  have value := Nat.ofDigitChars_ten_toDigits (n := n)
  cases digits : Nat.toDigits 10 n with
  | nil => exact (Nat.toDigits_ne_nil digits).elim
  | cons c more =>
      have all : ∀ d ∈ c :: more, d.isDigit := by
        rw [← digits]
        exact fun d => isDigit_of_mem_toDigits
      obtain ⟨digit, others⟩ := List.forall_mem_cons.mp all
      obtain ⟨taken, dropped⟩ := span_digits others ends
      have notBlank : ¬ isBlank c := by
        simp only [isBlank, Bool.or_eq_true, beq_iff_eq]
        rintro (((rfl | rfl) | rfl) | rfl) <;> cases digit
      rw [digits] at value
      rw [written, digits, List.cons_append, next?, List.dropWhile_cons_of_neg notBlank,
        token?_of_digit digit, taken, dropped, value, if_pos]
      rintro rfl
      exact eq_nil_of_toDigits digits

theorem endsNumber_nil : EndsNumber [] := by
  intro c first
  cases first

theorem endsNumber_cons {c : Char} (other : ¬ c.isDigit) (rest : List Char) :
    EndsNumber (c :: rest) := by
  intro d first
  cases first
  exact other

theorem endsNumber_newLine (level : Nat) (rest : List Char) :
    EndsNumber ((newLine level).toList ++ rest) := by
  rw [newLine, String.toList_append, List.append_assoc]
  exact endsNumber_cons (by decide) _

theorem endsNumber_prettyItems (level : Nat) (items : List Json) {rest : List Char}
    (ends : EndsNumber rest) : EndsNumber ((prettyItems level "," items).toList ++ rest) := by
  cases items with
  | nil => exact ends
  | cons item items =>
      simp only [prettyItems, String.toList_append, List.append_assoc]
      exact endsNumber_cons (by decide) _

theorem endsNumber_prettyFields (level : Nat) (fields : List (String × Json)) {rest : List Char}
    (ends : EndsNumber rest) : EndsNumber ((prettyFields level "," fields).toList ++ rest) := by
  cases fields with
  | nil => exact ends
  | cons field fields =>
      simp only [prettyFields, String.toList_append, List.append_assoc]
      exact endsNumber_cons (by decide) _

mutual

theorem read_pretty (value : Json) (level : Nat) (frames : List Frame) {rest : List Char}
    (ends : EndsNumber rest) :
    read (.beforeValue frames) ((value.pretty level).toList ++ rest) =
      read (.afterValue value frames) rest := by
  cases value with
  | null =>
      have taken : next? ("null".toList ++ rest) = some (.scalar .null, rest) := rfl
      exact read_of_next? taken rfl
  | bool truth =>
      cases truth with
      | true =>
          have taken : next? ("true".toList ++ rest) = some (.scalar (.bool true), rest) := rfl
          exact read_of_next? taken rfl
      | false =>
          have taken : next? ("false".toList ++ rest) = some (.scalar (.bool false), rest) := rfl
          exact read_of_next? taken rfl
  | number n => exact read_of_next? (next?_number n ends) rfl
  | string text => exact read_of_next? (next?_escaped text rest) rfl
  | array items =>
      cases items with
      | nil =>
          have written : (pretty level (.array [])).toList ++ rest = '[' :: ']' :: rest := by
            rw [pretty]
            rfl
          rw [written]
          refine (read_of_next? (next?_mark '[' rfl _) rfl).trans ?_
          exact read_of_next? (next?_mark ']' rfl rest) rfl
      | cons item items =>
          have following := endsNumber_prettyItems (level + 1) items
            (endsNumber_newLine level (']' :: rest))
          simp only [pretty, prettyItems, String.toList_append, List.append_assoc]
          refine (read_of_next? (next?_mark '[' rfl _) rfl).trans ?_
          refine (read_newLine _ _ _).trans ?_
          refine (read_pretty item (level + 1) _ following).trans ?_
          exact read_prettyItems items level item [] frames rest
  | object fields =>
      cases fields with
      | nil =>
          have written : (pretty level (.object [])).toList ++ rest = '\x7b' :: '\x7d' :: rest := by
            rw [pretty]
            rfl
          rw [written]
          refine (read_of_next? (next?_mark '\x7b' rfl _) rfl).trans ?_
          exact read_of_next? (next?_mark '\x7d' rfl rest) rfl
      | cons field fields =>
          obtain ⟨name, value⟩ := field
          have following := endsNumber_prettyFields (level + 1) fields
            (endsNumber_newLine level ('\x7d' :: rest))
          simp only [pretty, prettyFields, String.toList_append, List.append_assoc]
          refine (read_of_next? (next?_mark '\x7b' rfl _) rfl).trans ?_
          refine (read_newLine _ _ _).trans ?_
          refine (read_of_next? (next?_escaped name _) rfl).trans ?_
          refine (read_of_next? (next?_mark ':' rfl _) rfl).trans ?_
          refine (read_blank ' ' rfl _ _).trans ?_
          refine (read_pretty value (level + 1) _ following).trans ?_
          exact read_prettyFields fields level value [] name frames rest
termination_by sizeOf value

/-- The items after the first, up to the end of the array. -/
theorem read_prettyItems (items : List Json) (level : Nat) (value : Json) (before : List Json)
    (frames : List Frame) (rest : List Char) :
    read (.afterValue value (.array before :: frames))
        ((prettyItems (level + 1) "," items).toList ++ ((newLine level).toList ++ ']' :: rest)) =
      read (.afterValue (.array (before ++ value :: items)) frames) rest := by
  cases items with
  | nil =>
      refine (read_newLine _ _ _).trans ?_
      exact read_of_next? (next?_mark ']' rfl rest) rfl
  | cons item items =>
      have following := endsNumber_prettyItems (level + 1) items
        (endsNumber_newLine level (']' :: rest))
      simp only [prettyItems, String.toList_append, List.append_assoc]
      refine (read_of_next? (next?_mark ',' rfl _) rfl).trans ?_
      refine (read_newLine _ _ _).trans ?_
      refine (read_pretty item (level + 1) _ following).trans ?_
      refine (read_prettyItems items level item (before ++ [value]) frames rest).trans ?_
      rw [List.append_assoc, List.singleton_append]
termination_by sizeOf items

/-- The fields after the first, up to the end of the object. -/
theorem read_prettyFields (fields : List (String × Json)) (level : Nat) (value : Json)
    (before : List (String × Json)) (name : String) (frames : List Frame) (rest : List Char) :
    read (.afterValue value (.object before name :: frames))
        ((prettyFields (level + 1) "," fields).toList ++
          ((newLine level).toList ++ '\x7d' :: rest)) =
      read (.afterValue (.object (before ++ (name, value) :: fields)) frames) rest := by
  cases fields with
  | nil =>
      refine (read_newLine _ _ _).trans ?_
      exact read_of_next? (next?_mark '\x7d' rfl rest) rfl
  | cons field fields =>
      obtain ⟨nextName, nextValue⟩ := field
      have following := endsNumber_prettyFields (level + 1) fields
        (endsNumber_newLine level ('\x7d' :: rest))
      simp only [prettyFields, String.toList_append, List.append_assoc]
      refine (read_of_next? (next?_mark ',' rfl _) rfl).trans ?_
      refine (read_newLine _ _ _).trans ?_
      refine (read_of_next? (next?_escaped nextName _) rfl).trans ?_
      refine (read_of_next? (next?_mark ':' rfl _) rfl).trans ?_
      refine (read_blank ' ' rfl _ _).trans ?_
      refine (read_pretty nextValue (level + 1) _ following).trans ?_
      refine (read_prettyFields fields level nextValue (before ++ [(name, value)]) nextName frames
        rest).trans ?_
      rw [List.append_assoc, List.singleton_append]
termination_by sizeOf fields

end

/-- A value that is written over several lines is read as it was. -/
theorem ofText?_pretty (value : Json) (level : Nat) : ofText? (value.pretty level) = some value := by
  have whole := read_pretty value level [] endsNumber_nil
  have finished : read (.afterValue value []) [] = some value := by
    rw [read_eq]
    rfl
  rw [List.append_nil, finished] at whole
  exact whole

end DynamicDns.Json
