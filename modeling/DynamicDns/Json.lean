import DynamicDns.Text.Quoted

/-! # JSON texts

Values of the data format and the two ways in which they are written: on one
line, or with a line for each item and two blanks for each level.
-/

namespace DynamicDns

/-- A value of the format. Numbers are natural ones, since no others are written. -/
inductive Json where
  | null
  | bool (truth : Bool)
  | number (n : Nat)
  | string (text : String)
  | array (items : List Json)
  | object (fields : List (String × Json))

namespace Json

instance : Inhabited Json := ⟨.null⟩

def ofOption : Option String → Json
  | none => .null
  | some text => .string text

/-- How one character stands between the quotes. Only quotes, backslashes and controls are
    escaped. -/
def escapedChar (c : Char) : String :=
  match c with
  | '"' => "\\\""
  | '\\' => "\\\\"
  | '\x08' => "\\b"
  | '\t' => "\\t"
  | '\n' => "\\n"
  | '\x0c' => "\\f"
  | '\r' => "\\r"
  | c =>
    if c < ' ' then
      (if c.toNat < 16 then "\\u000" else "\\u00") ++ Text.hexadecimal c.toNat
    else c.toString

def escaped (text : String) : String :=
  "\"" ++ String.join (text.toList.map escapedChar) ++ "\""

def scalar : Json → String
  | .null => "null"
  | .bool truth => if truth then "true" else "false"
  | .number n => toString n
  | .string text => escaped text
  | _ => ""

mutual

def compact : Json → String
  | .array items => "[" ++ compactItems "" items ++ "]"
  | .object fields => "\x7b" ++ compactFields "" fields ++ "\x7d"
  | value => value.scalar

/-- Items on one line, each with a separator before it. -/
def compactItems (separator : String) : List Json → String
  | [] => ""
  | item :: rest => separator ++ item.compact ++ compactItems "," rest

/-- Fields on one line, each with a separator before it. -/
def compactFields (separator : String) : List (String × Json) → String
  | [] => ""
  | (name, value) :: rest =>
    separator ++ escaped name ++ ":" ++ value.compact ++ compactFields "," rest

end

def newLine (level : Nat) : String :=
  "\n" ++ String.ofList (List.replicate (2 * level) ' ')

mutual

/-- The value over several lines, for a place at some level. -/
def pretty (level : Nat) : Json → String
  | .array [] => "[]"
  | .array items => "[" ++ prettyItems (level + 1) "" items ++ newLine level ++ "]"
  | .object [] => "\x7b\x7d"
  | .object fields => "\x7b" ++ prettyFields (level + 1) "" fields ++ newLine level ++ "\x7d"
  | value => value.scalar

/-- Items on lines of their own, each with a separator before its line. -/
def prettyItems (level : Nat) (separator : String) : List Json → String
  | [] => ""
  | item :: rest =>
    separator ++ newLine level ++ item.pretty level ++ prettyItems level "," rest

/-- Fields on lines of their own, each with a separator before its line. -/
def prettyFields (level : Nat) (separator : String) : List (String × Json) → String
  | [] => ""
  | (name, value) :: rest =>
    separator ++ newLine level ++ escaped name ++ ": " ++ value.pretty level ++
      prettyFields level "," rest

end

end Json

end DynamicDns
