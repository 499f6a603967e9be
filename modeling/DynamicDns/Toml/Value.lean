import DynamicDns.Binary64

/-! # Document trees

What a TOML document says: tables of named values, arrays and scalars, each with
its place in the text. A tree also remembers how its tables and arrays were
written, since that decides what a later part of the document may add to them.
-/

namespace DynamicDns.Toml

/-- A part of the text, as byte offsets. -/
structure Span where
  start : Nat
  stop : Nat
  deriving Repr, DecidableEq

/-- How a table came into the document. -/
inductive TableForm where
  /-- In braces. Nothing can be added to it. -/
  | inline
  /-- By a header of its own, or as the document itself. -/
  | header
  /-- By a header of a table inside it. -/
  | implied
  /-- By a dotted key. -/
  | dotted
  deriving Repr, DecidableEq

/-- How an array came into the document. -/
inductive ArrayForm where
  /-- In brackets. Nothing can be added to it. -/
  | bracketed
  /-- By headers in double brackets, one for each element. -/
  | headers
  deriving Repr, DecidableEq

/-- A value of a document. A span beside a value is its own, or for an implied or dotted table,
    which has no text of its own, that of the key that brought it in. -/
inductive Value where
  | string (text : String)
  | integer (number : Int)
  | float (number : Binary64)
  | boolean (truth : Bool)
  /-- A date, a time, or both. Which one is of no use to anyone here. -/
  | dateTime
  | array (form : ArrayForm) (items : List (Span × Value))
  /-- Values by name, in order of appearance. -/
  | table (form : TableForm) (entries : List (String × Span × Value))

instance : Inhabited Value := ⟨.dateTime⟩

/-- The contents of a table: values by name, in order of appearance. -/
abbrev Entries := List (String × Span × Value)

namespace Entries

/-- The entries with the value of one name exchanged in place. -/
def replace (entries : Entries) (name : String) (span : Span) (value : Value) : Entries :=
  entries.map fun entry => if entry.1 = name then (name, span, value) else entry

def remove (entries : Entries) (name : String) : Entries :=
  entries.filter fun entry => entry.1 ≠ name

end Entries

end DynamicDns.Toml
