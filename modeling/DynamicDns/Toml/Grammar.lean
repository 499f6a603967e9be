import DynamicDns.Toml.Assembly
import DynamicDns.Toml.Scanner

/-! # The grammar of TOML

Scanners for version 1.0 of the format, from characters up to documents. Arrays
and tables in braces may be nested, and keys be dotted, up to a fixed depth.
-/

namespace DynamicDns.Toml

open Scanner

/-- How deep values may be nested, and how many parts a key may have, at most. -/
def depthLimit : Nat := 79

namespace Grammar

/-! ## Lines -/

/-- Blanks inside a line. -/
def isSpace (c : Char) : Bool := c == ' ' || c == '\t'

/-- What may stand in a comment: everything but controls, the tab apart. -/
def isPrinting (c : Char) : Bool := c == '\t' || (' ' ≤ c && c ≠ '\x7f')

def spaces : Scanner Unit := discard (run isSpace)

def newline : Scanner Unit := char '\n' <|> word "\r\n"

def comment : Scanner Unit := do
  char '#'
  discard (run isPrinting)

def lineEnd : Scanner Unit := newline <|> finish

/-- What may follow a statement on its line. -/
def trailing : Scanner Unit := do
  spaces
  discard (option comment)
  lineEnd

/-- Blanks, comments and line ends, as they may stand inside an array. -/
def layout : Scanner Unit := do
  discard (many (do spaces; discard (option comment); newline))
  spaces

/-! ## Texts -/

def isLiteral (c : Char) : Bool := isPrinting c && c ≠ '\''

/-- Characters that stand for themselves in a basic text. -/
def isBasic (c : Char) : Bool := isPrinting c && c ≠ '"' && c ≠ '\\'

/-- The value of a digit in a base up to sixteen. -/
def digitValue (c : Char) : Nat :=
  if c.isDigit then c.toNat - 48 else if c.isLower then c.toNat - 87 else c.toNat - 55

def number (base : Nat) (digits : List Char) : Nat :=
  digits.foldl (fun n c => n * base + digitValue c) 0

def isHex (c : Char) : Bool := c.isDigit || ('a' ≤ c && c ≤ 'f') || ('A' ≤ c && c ≤ 'F')

def exactly (belongs : Char → Bool) : Nat → Scanner (List Char)
  | 0 => return []
  | count + 1 => do
    let c ← one belongs
    return c :: (← exactly belongs count)

/-- A character by its code point, in so many digits of base sixteen. -/
def codePoint (digits : Nat) : Scanner Char := do
  let n := number 16 (← exactly isHex digits)
  guard n.isValidChar
  return Char.ofNat n

/-- A character after a backslash. -/
def escape : Scanner Char := do
  char '\\'
  match ← one fun _ => true with
  | 'b' => return '\x08'
  | 't' => return '\t'
  | 'n' => return '\n'
  | 'f' => return '\x0c'
  | 'r' => return '\r'
  | '"' => return '"'
  | '\\' => return '\\'
  | 'u' => codePoint 4
  | 'U' => codePoint 8
  | _ => failure

def basicString : Scanner String := do
  char '"'
  let text ← many (one isBasic <|> escape)
  char '"'
  return String.ofList text

def literalString : Scanner String := do
  char '\''
  let text ← run isLiteral
  char '\''
  return String.ofList text

/-- A backslash at the end of a line, with the blanks and line ends after it. -/
def continuation : Scanner Unit := do
  char '\\'
  spaces
  newline
  discard (many (discard (one isSpace) <|> newline))

/-- One or two quotes that something other than a quote follows. -/
def innerQuotes (quote : Char) : Scanner (List Char) :=
  let other := ahead (one (· ≠ quote))
  (do char quote; char quote; other; return [quote, quote]) <|> (do char quote; other; return [quote])

/-- Three quotes, with up to two more before them that belong to the text. -/
def closingQuotes (quote : Char) : Scanner (List Char) := do
  let three : Scanner Unit := do char quote; char quote; char quote
  (do char quote; char quote; three; return [quote, quote]) <|>
    (do char quote; three; return [quote]) <|> (do three; return [])

/-- A text of several lines: what pieces and closing quotes spell. A line end right after the
    opening quotes is left out. -/
def multiline (quote : Char) (piece : Scanner (List Char)) : Scanner String := do
  char quote
  char quote
  char quote
  discard (option newline)
  let pieces ← many (piece <|> innerQuotes quote)
  let last ← closingQuotes quote
  return String.ofList (pieces.flatten ++ last)

/-- Every line end of a text is one line feed, however it was written. -/
def lineFeed : Scanner (List Char) := do
  newline
  return ['\n']

def multilineBasic : Scanner String :=
  multiline '"' <|
    (do return [← one isBasic]) <|> lineFeed <|> (do continuation; return []) <|> (do return [← escape])

def multilineLiteral : Scanner String :=
  multiline '\'' <| (do return [← one isLiteral]) <|> lineFeed

/-- A text in any of the four notations. -/
def string : Scanner String :=
  multilineBasic <|> basicString <|> multilineLiteral <|> literalString

/-! ## Keys -/

/-- Characters of a key without quotes. -/
def isBare (c : Char) : Bool := c.isAlphanum || c == '_' || c == '-'

def simpleKey : Scanner String :=
  basicString <|> literalString <|> do
    let name ← run isBare
    guard !name.isEmpty
    return String.ofList name

/-- A key of one part or more, as the path of its first parts and the last one. -/
def key : Scanner (List Key × Key) := do
  let part : Scanner Key := do
    spaces
    let (span, name) ← spanned simpleKey
    spaces
    return ⟨name, span⟩
  let parts ← separated1 part (char '.')
  guard (parts.length ≤ depthLimit)
  match parts.getLast? with
  | some last => return (parts.dropLast, last)
  | none => failure

/-! ## Numbers and times -/

/-- Digits of a class, where single underscores may stand between two of them. -/
def digitRun (belongs : Char → Bool) : Scanner (List Char) := do
  let first ← one belongs
  let others ← many (one belongs <|> (char '_' *> one belongs))
  return first :: others

/-- A sign, if there is one: whether it is the minus. -/
def sign : Scanner Bool :=
  (do char '-'; return true) <|> (do char '+'; return false) <|> return false

/-- Decimal digits that do not start with a zero, or a single zero. -/
def unsignedDigits : Scanner (List Char) :=
  (do ahead (one (· ≠ '0')); digitRun Char.isDigit) <|> (do char '0'; return ['0'])

/-- A whole number in a base that letters announce. -/
def basedInteger (mark : String) (base : Nat) (belongs : Char → Bool) : Scanner Int := do
  word mark
  return (number base (← digitRun belongs) : Int)

def leastInteger : Int := -9223372036854775808

def greatestInteger : Int := 9223372036854775807

/-- A whole number of 64 bits. -/
def integer : Scanner Int := do
  let decimal : Scanner Int := do
    let negative ← sign
    let n := number 10 (← unsignedDigits)
    return if negative then -(n : Int) else n
  let n ← basedInteger "0x" 16 isHex <|> basedInteger "0o" 8 (fun c => '0' ≤ c && c ≤ '7') <|>
    basedInteger "0b" 2 (fun c => c == '0' || c == '1') <|> decimal
  guard (leastInteger ≤ n ∧ n ≤ greatestInteger)
  return n

def exponent : Scanner Int := do
  discard (one fun c => c == 'e' || c == 'E')
  let negative ← sign
  let n := number 10 (← digitRun Char.isDigit)
  return if negative then -(n : Int) else n

/-- A floating-point number with a fraction, an exponent or both. One beyond the greatest number
    is refused, one beyond the least is minus infinity. -/
def decimalFloat : Scanner Binary64 := do
  let negative ← sign
  let whole ← unsignedDigits
  let fraction ← option (char '.' *> digitRun Char.isDigit)
  let power ← option exponent
  guard (fraction.isSome || power.isSome)
  let places := fraction.getD []
  let x := Binary64.ofDecimal negative (number 10 (whole ++ places))
    (power.getD 0 - places.length)
  guard (x ≠ .infinite false)
  return x

/-- Infinity or not a number. -/
def specialFloat : Scanner Binary64 := do
  let negative ← sign
  (do word "inf"; return .infinite negative) <|> (do word "nan"; return .nan)

/-- A number of exactly so many decimal digits within bounds. -/
def field (digits low high : Nat) : Scanner Nat := do
  let n := number 10 (← exactly Char.isDigit digits)
  guard (low ≤ n ∧ n ≤ high)
  return n

def daysIn (year month : Nat) : Nat :=
  if month = 2 then
    if year % 4 = 0 ∧ (year % 100 ≠ 0 ∨ year % 400 = 0) then 29 else 28
  else if month ∈ [4, 6, 9, 11] then 30
  else 31

def date : Scanner Unit := do
  let year ← field 4 0 9999
  char '-'
  let month ← field 2 1 12
  char '-'
  discard (field 2 1 (daysIn year month))

def time : Scanner Unit := do
  discard (field 2 0 23)
  char ':'
  discard (field 2 0 59)
  char ':'
  discard (field 2 0 60)
  discard (option do
    char '.'
    discard (one Char.isDigit)
    discard (run Char.isDigit))

/-- The distance of a time from universal time. -/
def timeOffset : Scanner Unit :=
  discard (one fun c => c == 'Z' || c == 'z') <|> do
    discard (one fun c => c == '+' || c == '-')
    discard (field 2 0 23)
    char ':'
    discard (field 2 0 59)

def dateTime : Scanner Unit :=
  (do
    date
    discard (option do
      discard (one fun c => c == 'T' || c == 't' || c == ' ')
      time
      discard (option timeOffset))) <|> time

/-! ## Values -/

def scalar : Scanner Value :=
  (do return .string (← string)) <|> (do dateTime; return .dateTime) <|>
    (do return .float (← decimalFloat)) <|> (do return .integer (← integer)) <|>
    (do return .float (← specialFloat)) <|> (do word "true"; return .boolean true) <|>
    (do word "false"; return .boolean false)

/-- Values in brackets. A comma may follow the last one. -/
def array (item : Scanner Value) : Scanner Value := do
  char '['
  let items ← separated (layout *> spanned item <* layout) (char ',')
  unless items.isEmpty do discard (option (char ','))
  layout
  char ']'
  return .array .bracketed items

def keyValue (value : Scanner Value) : Scanner (List Key × Key × Span × Value) := do
  let (path, last) ← key
  char '='
  spaces
  let (span, value) ← spanned value
  return (path, last, span, value)

/-- Pairs in braces, on one line. -/
def inlineTable (value : Scanner Value) : Scanner Value := do
  char '\x7b'
  let pairs ← separated (keyValue value <* spaces) (char ',')
  spaces
  char '\x7d'
  match Entries.ofPairs pairs with
  | some entries => return .table .inline entries
  | none => failure

/-- A value that is nested at most so deep. -/
def value : Nat → Scanner Value
  | 0 => scalar
  | depth + 1 => do
    match ← peek? with
    | some '[' => array (value depth)
    | some '\x7b' => inlineTable (value depth)
    | _ => scalar

/-! ## Documents -/

def header : Scanner Statement := do
  let element : Scanner (List Key × Key) := do
    word "[["
    let name ← key
    word "]]"
    return name
  let table : Scanner (List Key × Key) := do
    char '['
    let name ← key
    char ']'
    return name
  let (span, isElement, path, last) ← spanned <|
    (do return (true, ← element)) <|> (do return (false, ← table))
  trailing
  return .header isElement path last span

def pair : Scanner Statement := do
  let (path, last, span, value) ← keyValue (value depthLimit)
  trailing
  return .pair path last span value

/-- A statement, a comment or the end of an empty line, and the blanks after it. -/
def line : Scanner (Option Statement) :=
  ((do comment; lineEnd; return none) <|> (do newline; return none) <|> (some <$> header) <|>
    (some <$> pair)) <* spaces

/-- All statements of a text. A byte-order mark may stand in front. -/
def document : Scanner (List Statement) := do
  discard (option (char '\ufeff'))
  spaces
  let lines ← many line
  finish
  return lines.filterMap id

end Grammar

/-- The document that a text is, if it is one. -/
def Entries.ofString (text : String) : Option Entries := do
  let (statements, _) ← Grammar.document ⟨text.toList, 0⟩
  Entries.ofStatements statements

end DynamicDns.Toml
