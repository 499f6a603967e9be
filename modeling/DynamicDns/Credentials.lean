import DynamicDns.Base64
import DynamicDns.Bounded
import DynamicDns.Limits
import DynamicDns.Text.Quoted

/-! # Credentials

An account's username and password, and the token that stands for both in a
request once it has been made. `describe` is how they may be shown: it tells
which secrets are there and never what they are.
-/

namespace DynamicDns

/-- An account at a provider. -/
structure Credentials where
  username : Option (BoundedString Limits.usernameBytes) := none
  password : Option (BoundedString Limits.passwordBytes) := none
  /-- Token of an `Authorization` header, once made. -/
  token : Option String := none
  deriving Repr, DecidableEq

/-- Base64 of `username:password`, as a Basic `Authorization` header holds it. -/
def basicToken (username password : String) : String :=
  String.ofList (Base64.encode (username ++ ":" ++ password).toUTF8.toList)

namespace Credentials

/-- Credentials from plain texts. One that does not fit is left out. -/
def ofStrings (username password : Option String) : Credentials where
  username := username.bind fun text => (BoundedString.ofString _ text).toOption
  password := password.bind fun text => (BoundedString.ofString _ text).toOption

/-- The username as plain text, empty if there is none. -/
def usernameText (c : Credentials) : String :=
  (c.username.map BoundedString.text).getD ""

/-- Make the token, replacing an older one. Without a password nothing happens, and the answer is
    `false`. -/
def encode (c : Credentials) : Credentials × Bool :=
  match c.password with
  | none => (c, false)
  | some password => ({ c with token := some (basicToken c.usernameText password.text) }, true)

theorem encode_of_none {c : Credentials} (absent : c.password = none) : c.encode = (c, false) := by
  simp only [encode, absent]

theorem encode_of_some {c : Credentials} {password : BoundedString Limits.passwordBytes}
    (held : c.password = some password) :
    c.encode = ({ c with token := some (basicToken c.usernameText password.text) }, true) := by
  simp only [encode, held]

@[simp] theorem encode_username (c : Credentials) : c.encode.1.username = c.username := by
  cases held : c.password with
  | none => rw [encode_of_none held]
  | some password => rw [encode_of_some held]

@[simp] theorem encode_password (c : Credentials) : c.encode.1.password = c.password := by
  cases held : c.password with
  | none => rw [encode_of_none held, held]
  | some password => rw [encode_of_some held, held]

def setToken (c : Credentials) (token : String) : Credentials :=
  { c with token := some token }

def clearToken (c : Credentials) : Credentials × Option String :=
  ({ c with token := none }, c.token)

/-- An optional text as `describe` shows it. -/
private def shownOption : Option String → String
  | none => "None"
  | some shown => "Some(" ++ shown ++ ")"

private def redacted {α : Type} (secret : Option α) : String :=
  shownOption (secret.map fun _ => Text.quoted "<REDACTED>")

/-- The credentials for a reader's eyes. -/
def describe (c : Credentials) : String :=
  "Credentials \x7b username: " ++ shownOption (c.username.map (Text.quoted ·.text)) ++
    ", password: " ++ redacted c.password ++ ", encoded_password: " ++ redacted c.token ++ " \x7d"

end Credentials

end DynamicDns
