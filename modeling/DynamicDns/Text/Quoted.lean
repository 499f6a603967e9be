import DynamicDns.Text.Shown

/-! # Quoted texts

How messages quote a text that came from outside: between double quotes, with
an escape for every character that would not be shown as itself.
-/

namespace DynamicDns.Text

/-- The digits of a number in base sixteen, in lower case. -/
def hexadecimal (n : Nat) : String :=
  String.ofList (Nat.toDigits 16 n)

/-- How one character stands between the quotes. -/
def quotedChar (c : Char) : String :=
  match c with
  | '\x00' => "\\0"
  | '\t' => "\\t"
  | '\r' => "\\r"
  | '\n' => "\\n"
  | '"' => "\\\""
  | '\\' => "\\\\"
  | c => if isShown c then c.toString else "\\u\x7b" ++ hexadecimal c.toNat ++ "\x7d"

def quoted (text : String) : String :=
  "\"" ++ String.join (text.toList.map quotedChar) ++ "\""

end DynamicDns.Text
