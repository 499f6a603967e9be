import DynamicDns.Text.Quoted
import DynamicDns.Toml.Value

/-! # Values that do not fit

What is said of a document whose values are not of the types that its reader
asks for: what was found and wanted, and where it stands in the text.
-/

namespace DynamicDns.Toml

inductive Wanted where
  | integer
  | natural
  | boolean
  | string
  | path
  | sequence
  | providerSection
  | customSection
  deriving Repr, DecidableEq

def Wanted.name : Wanted → String
  | .integer => "i64"
  | .natural => "u64"
  | .boolean => "a boolean"
  | .string => "a string"
  | .path => "path string"
  | .sequence => "a sequence"
  | .providerSection => "struct ProviderSection"
  | .customSection => "struct CustomSection"

inductive Found where
  | string (text : String)
  | integer (number : Int)
  | float (number : Binary64)
  | boolean (truth : Bool)
  | sequence
  | map
  deriving Repr, DecidableEq

/-- The find in words. Scalars are quoted, the others only named. -/
def Found.name : Found → String
  | .string text => "string " ++ Text.quoted text
  | .integer number => s!"integer `{number}`"
  | .float number => s!"floating point `{number.display}`"
  | .boolean truth => s!"boolean `{truth}`"
  | .sequence => "sequence"
  | .map => "map"

/-- A value as a find. A date or time counts as a map. -/
def Value.found : Value → Found
  | .string text => .string text
  | .integer number => .integer number
  | .float number => .float number
  | .boolean truth => .boolean truth
  | .dateTime => .map
  | .array _ _ => .sequence
  | .table _ _ => .map

/-- Why a value does not fit. -/
inductive MisfitCause where
  | wrongType (found : Found) (wanted : Wanted)
  /-- It is below zero where it must not be. -/
  | negative (number : Int)
  /-- It is neither a string nor a list of strings. -/
  | notStringOrList
  deriving Repr, DecidableEq

def MisfitCause.message : MisfitCause → String
  | .wrongType found wanted => s!"invalid type: {found.name}, expected {wanted.name}"
  | .negative number => s!"invalid value: integer `{number}`, expected u64"
  | .notStringOrList => "data did not match any variant of untagged enum OneOrMany"

/-- A value that does not fit, and the part of the document to look at. -/
structure Misfit where
  cause : MisfitCause
  span : Span
  deriving Repr, DecidableEq

/-- A place in a text as a person looks it up, with what stands there. -/
structure Excerpt where
  /-- Line, from one. -/
  line : Nat
  /-- Column in characters, from one. -/
  column : Nat
  content : String
  width : Nat
  deriving Repr, DecidableEq

namespace Excerpt

/-- The characters before a byte offset, and those after it. -/
def splitAtByte : Nat → List Char → List Char × List Char
  | _, [] => ([], [])
  | offset, c :: rest =>
    if offset < c.utf8Size then ([], c :: rest)
    else
      let (before, after) := splitAtByte (offset - c.utf8Size) rest
      (c :: before, after)

/-- The excerpt for a part of a text. The underline does not go on after the end of the line. -/
def ofSpan (text : String) (span : Span) : Excerpt :=
  let (before, after) := splitAtByte span.start text.toList
  let lineStart := (before.reverse.takeWhile (· ≠ '\n')).reverse
  let content := String.ofList (lineStart ++ after.takeWhile (· ≠ '\n'))
  { line := before.count '\n' + 1
    column := lineStart.length + 1
    content
    width := max 1 (min (span.stop - span.start) (content.utf8ByteSize - lineStart.length)) }

/-- The excerpt with its line quoted and underlined. -/
def display (e : Excerpt) : String :=
  let number := toString e.line
  let blanks (n : Nat) := String.ofList (List.replicate n ' ')
  let margin := blanks (number.length + 1) ++ "|"
  s!"TOML parse error at line {e.line}, column {e.column}\n" ++ margin ++ "\n" ++
    number ++ " | " ++ e.content ++ "\n" ++
    margin ++ blanks e.column ++ String.ofList (List.replicate e.width '^') ++ "\n"

end Excerpt

end DynamicDns.Toml
