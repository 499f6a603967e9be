import DynamicDns.Toml.Value

/-! # From statements to a tree

A document is a list of statements: pairs of a key and a value, and headers that
say which table the pairs after them belong to. This module puts them together
and refuses what would define a name twice or reopen a table that is complete.
-/

namespace DynamicDns.Toml

structure Key where
  name : String
  span : Span
  deriving Repr, DecidableEq

/-- One statement of a document. -/
inductive Statement where
  /-- A value for the key that follows a path of dotted keys. -/
  | pair (path : List Key) (key : Key) (span : Span) (value : Value)
  /-- A header. With double brackets it opens a new `element` of an array. -/
  | header (element : Bool) (path : List Key) (key : Key) (span : Span)

/-- Follow a path of names into a table and act on the table found there. Missing tables are made
    on the way, and an array made by headers is entered at its last element. A table in braces is
    closed to all paths, one with a header of its own to dotted ones. -/
def descend {α : Type} (byDots : Bool) (act : TableForm → Entries → Option (Entries × α)) :
    List Key → TableForm → Entries → Option (Entries × α)
  | [], form, entries => act form entries
  | key :: path, _, entries =>
    match entries.lookup key.name with
    | none => do
      let made := if byDots then TableForm.dotted else TableForm.implied
      let (inner, answer) ← descend byDots act path made []
      return (entries ++ [(key.name, key.span, .table made inner)], answer)
    | some (span, .table form inner) =>
      if form = .inline ∨ (byDots ∧ form = .header) then none
      else do
        let (inner, answer) ← descend byDots act path form inner
        return (Entries.replace entries key.name span (.table form inner), answer)
    | some (span, .array .headers items) =>
      match items.getLast? with
      | some (place, .table form inner) => do
        let (inner, answer) ← descend byDots act path form inner
        let items := items.dropLast ++ [(place, .table form inner)]
        return (Entries.replace entries key.name span (.array .headers items), answer)
      | _ => none
    | some _ => none

/-- Add a value at a dotted key. Its last part has to be new, and a table on its path has to be
    one that dotted keys made. -/
def Entries.addPair (entries : Entries) (form : TableForm) (path : List Key) (key : Key)
    (span : Span) (value : Value) : Option Entries :=
  let add (form : TableForm) (entries : Entries) : Option (Entries × Unit) :=
    if (form = .dotted ↔ path = []) ∨ (entries.lookup key.name).isSome then none
    else some (entries ++ [(key.name, span, value)], ())
  (descend true add path form entries).map (·.1)

def Entries.ofPairs (pairs : List (List Key × Key × Span × Value)) : Option Entries :=
  pairs.foldlM (fun entries (path, key, span, value) =>
    Entries.addPair entries .inline path key span value) []

/-- The table that pairs go to, taken out of the document until the next header. -/
structure OpenTable where
  /-- Its place in the document: the path of its header, or none for the document itself. -/
  place : Option (List Key × Key)
  /-- Whether it is an element of an array. -/
  element : Bool
  /-- From its header to its last pair. -/
  span : Span
  entries : Entries

/-- A document of which some statements have been read. -/
structure Assembly where
  /-- The tables before the open one. -/
  finished : Entries := []
  /-- The table that pairs go to. -/
  current : OpenTable := ⟨none, false, ⟨0, 0⟩, []⟩

namespace Assembly

def close (a : Assembly) : Option Entries :=
  match a.current.place with
  | none => some a.current.entries
  | some (path, key) =>
    let span := a.current.span
    let table := Value.table .header a.current.entries
    let put (_ : TableForm) (entries : Entries) : Option (Entries × Unit) :=
      if a.current.element then
        match entries.lookup key.name with
        | none => some (entries ++ [(key.name, span, .array .headers [(span, table)])], ())
        | some (first, .array .headers items) =>
          let items := items ++ [(span, table)]
          some (Entries.replace entries key.name ⟨first.start, span.stop⟩ (.array .headers items), ())
        | some _ => none
      else
        match entries.lookup key.name with
        | none => some (entries ++ [(key.name, span, table)], ())
        | some _ => none
    (descend false put path .header a.finished).map (·.1)

/-- Take out the table that a header names. It has to be new, or implied by earlier headers. -/
def takeTable (key : Key) (entries : Entries) : Option (Entries × Entries) :=
  match entries.lookup key.name with
  | none => some (entries, [])
  | some (_, .table .implied inner) => some (Entries.remove entries key.name, inner)
  | some _ => none

/-- Check that an array can have one more element: it is new, or made by headers. -/
def takeElement (key : Key) (entries : Entries) : Option (Entries × Entries) :=
  match entries.lookup key.name with
  | none => some (entries, [])
  | some (_, .array .headers _) => some (entries, [])
  | some _ => none

def step (a : Assembly) : Statement → Option Assembly
  | .pair path key span value => do
    let entries ← Entries.addPair a.current.entries .header path key span value
    return { a with current :=
      { a.current with entries, span := ⟨a.current.span.start, span.stop⟩ } }
  | .header element path key span => do
    let document ← a.close
    let take (_ : TableForm) (entries : Entries) : Option (Entries × Entries) :=
      if element then takeElement key entries else takeTable key entries
    let (finished, entries) ← descend false take path .header document
    return ⟨finished, ⟨some (path, key), element, span, entries⟩⟩

end Assembly

/-- The document that statements make up, if they agree with each other. -/
def Entries.ofStatements (statements : List Statement) : Option Entries := do
  let assembly ← statements.foldlM Assembly.step {}
  assembly.close

end DynamicDns.Toml
