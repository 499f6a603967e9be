import DynamicDns.Text.Quoted

/-! # Texts and terminals

A terminal takes some characters for commands: to ring, to move, to change its
colours. What the program writes is kept free of them in two ways. A log line
spells out the characters that begin a command, so that no text from outside
gets through to the terminal. A page has marks of its own, such as bold words;
where it does not go to a terminal it is read as a terminal would read it, and
loses the marks, together with every command that a text from outside brings.
-/

namespace DynamicDns.Text

/-- How a log line writes one character. Controls that are or begin a command are spelled out, and
    line breaks, tabs and the like stay. -/
def loggedChar (c : Char) : String :=
  match c with
  | '\x07' => "\\x07"
  | '\x08' => "\\x08"
  | '\x0c' => "\\x0c"
  | '\x1b' => "\\x1b"
  | '\x7f' => "\\x7f"
  | c =>
    if 0x80 ≤ c.toNat && c.toNat ≤ 0x9f then "\\u\x7b" ++ hexadecimal c.toNat ++ "\x7d"
    else c.toString

def logged (text : String) : String :=
  String.join (text.toList.map loggedChar)

/-- A text between the marks that set it in bold. -/
def bold (text : String) : String :=
  "\x1b[1m" ++ text ++ "\x1b[0m"

/-- What a terminal is in the middle of. -/
inductive Reading where
  | text
  /-- A command of which only the escape came. -/
  | escape
  /-- A command that makes a choice, such as that of a character set. -/
  | choice
  /-- A command with numbers, such as that for a colour. -/
  | control
  /-- A command with a text up to a bell, such as that for a title. -/
  | title
  /-- A command to a device, before its numbers. -/
  | device
  /-- A command to a device, in its numbers. -/
  | deviceNumbers
  /-- A command to a device, in its choice. -/
  | deviceChoice
  /-- A command with a text up to the string terminator. -/
  | string
  deriving Repr, DecidableEq

def isBetween (low high c : Char) : Bool := low ≤ c && c ≤ high

/-- Whether a character is a control that pages are laid out with. -/
def isLayout (c : Char) : Bool :=
  c = '\t' || c = '\n' || c = '\x0c' || c = '\r'

/-- Whether a character outside of commands belongs to the page. -/
def isSeen (c : Char) : Bool :=
  isLayout c || ' ' ≤ c && c ≠ '\x7f'

/-- Whether a character holds the byte of the string terminator. -/
def endsString (c : Char) : Bool :=
  (String.utf8EncodeChar c).contains 0x9c

namespace Reading

/-- Whether layout in the middle of this still belongs to the page. -/
def isOpen : Reading → Bool
  | .text | .escape | .choice | .control => true
  | .title | .device | .deviceNumbers | .deviceChoice | .string => false

/-- What the terminal is in the middle of after one more character. -/
def next (reading : Reading) (c : Char) : Reading :=
  if c = '\x1b' then .escape
  else if c = '\x18' || c = '\x1a' then .text
  else
    match reading with
    | .text => .text
    | .escape =>
      if isBetween ' ' '/' c then .choice
      else if c = '[' then .control
      else if c = ']' then .title
      else if c = 'P' then .device
      else if c = 'X' || c = '^' || c = '_' then .string
      else if isBetween '0' '~' c then .text
      else .escape
    | .choice => if isBetween '0' '~' c then .text else .choice
    | .control => if isBetween '@' '~' c then .text else .control
    | .title => if c = '\x07' then .text else .title
    | .device =>
      if isBetween ' ' '/' c then .deviceChoice
      else if isBetween '0' '?' c then .deviceNumbers
      else if isBetween '@' '~' c then .string
      else .device
    | .deviceNumbers =>
      if isBetween ' ' '/' c then .deviceChoice
      else if isBetween '<' '~' c then .string
      else .deviceNumbers
    | .deviceChoice => if isBetween '0' '~' c then .string else .deviceChoice
    | .string => if endsString c then .text else .string

end Reading

/-- A page without its marks. Layout in the middle of a command belongs to the page, and so does the
    text after it. A reader that `resumes` returns to the command at the next control; for others
    the command is over. The command is `paused` from its layout up to that control, or up to a
    character above ASCII, which ends it for all. -/
def unmarkedFrom (resumes : Bool) (reading : Reading) (paused : Bool) : List Char → List Char
  | [] => []
  | c :: rest =>
    if reading = .text || paused then
      if isSeen c then
        let goesOn := paused && c.toNat < 0x80
        c :: unmarkedFrom resumes (if goesOn then reading else .text) goesOn rest
      else unmarkedFrom resumes (reading.next c) false rest
    else if reading.isOpen && isLayout c then
      c :: unmarkedFrom resumes (if resumes then reading else .text) resumes rest
    else unmarkedFrom resumes (reading.next c) false rest

/-- A page without its marks, where it is asked for as a text. -/
def unmarked (page : String) : String :=
  String.ofList (unmarkedFrom false .text false page.toList)

/-- A page without its marks, where it is printed to something other than a terminal. -/
def streamed (page : String) : String :=
  String.ofList (unmarkedFrom true .text false page.toList)

end DynamicDns.Text
