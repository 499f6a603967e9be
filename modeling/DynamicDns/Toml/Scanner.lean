import DynamicDns.Toml.Value

/-! # Scanning

Scanners read a value from the front of a text and leave the rest, or fail and
leave everything. They are combined by `do` and `<|>`.
-/

namespace DynamicDns.Toml

/-- A text of which a part has been read. -/
structure Cursor where
  rest : List Char
  offset : Nat := 0

/-- A scanner for values of `α`. -/
abbrev Scanner (α : Type) := StateT Cursor Option α

namespace Scanner

variable {α β : Type}

/-- Bytes of a text in UTF-8. -/
def byteCount (text : List Char) : Nat :=
  text.foldl (fun n c => n + c.utf8Size) 0

/-- The next character, left in place. -/
def peek? : Scanner (Option Char) := fun c => some (c.rest.head?, c)

def one (belongs : Char → Bool) : Scanner Char := fun cursor =>
  match cursor.rest with
  | [] => none
  | c :: rest => if belongs c then some (c, ⟨rest, cursor.offset + c.utf8Size⟩) else none

def char (c : Char) : Scanner Unit := discard (one (· == c))

def word (text : String) : Scanner Unit := text.toList.forM char

/-- As many characters of a class as there are. -/
def run (belongs : Char → Bool) : Scanner (List Char) := fun cursor =>
  let taken := cursor.rest.takeWhile belongs
  some (taken, ⟨cursor.rest.dropWhile belongs, cursor.offset + byteCount taken⟩)

def finish : Scanner Unit := fun cursor =>
  if cursor.rest.isEmpty then some ((), cursor) else none

/-- Succeeds without reading if the scanner would succeed. -/
def ahead (s : Scanner α) : Scanner Unit := fun cursor => (s cursor).map fun _ => ((), cursor)

def option (s : Scanner α) : Scanner (Option α) := (some <$> s) <|> pure none

/-- At most `count` values, up to the first failure. -/
def upTo (s : Scanner α) : Nat → List α → Cursor → List α × Cursor
  | 0, found, cursor => (found.reverse, cursor)
  | count + 1, found, cursor =>
    match s cursor with
    | none => (found.reverse, cursor)
    | some (a, cursor) => upTo s count (a :: found) cursor

/-- As many values as there are, each of at least one character. -/
def many (s : Scanner α) : Scanner (List α) := fun cursor =>
  some (upTo s cursor.rest.length [] cursor)

/-- One value or more, with a separator between any two. -/
def separated1 (s : Scanner α) (separator : Scanner β) : Scanner (List α) := do
  let first ← s
  let others ← many (separator *> s)
  return first :: others

/-- Any number of values with a separator between any two. -/
def separated (s : Scanner α) (separator : Scanner β) : Scanner (List α) :=
  separated1 s separator <|> pure []

/-- A value with the part of the text it was read from. -/
def spanned (s : Scanner α) : Scanner (Span × α) := do
  let start := (← get).offset
  let a ← s
  let stop := (← get).offset
  return (⟨start, stop⟩, a)

end Scanner

end DynamicDns.Toml
