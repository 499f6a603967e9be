import DynamicDns.Bounded
import DynamicDns.Limits
import DynamicDns.Text.Blank

/-! # Endpoints

Servers as `host` or `host:port`. The host is the text before the first colon,
taken as it stands. A port that is absent, zero or no number is not an error:
the endpoint then has the HTTP port. Only a host that is too long is refused.
-/

namespace DynamicDns

/-- A server name and the port its service listens on. -/
structure Endpoint where
  /-- Host, without a colon if it was resolved from a text. -/
  name : BoundedString Limits.nameBytes
  port : Nat
  deriving Repr, DecidableEq

inductive EndpointError where
  /-- The host takes more bytes than a name may. -/
  | tooLong (overflow : Overflow)
  deriving Repr, DecidableEq

def EndpointError.message : EndpointError → String
  | .tooLong o => s!"server name too long ({o.size} > {o.capacity})"

namespace Endpoint

/-- The text before the first colon, or the whole text. -/
def hostPart (server : String) : String :=
  String.ofList (server.toList.takeWhile (· != ':'))

def portPart (server : String) : List Char :=
  (server.toList.dropWhile (· != ':')).drop 1

/-- Read a port: blanks around it, one plus sign and leading zeros are allowed. -/
def readPort (text : List Char) : Option Nat :=
  let digits := match Text.trim text with
    | '+' :: digits => digits
    | digits => digits
  let port := Nat.ofDigitChars 10 digits 0
  if digits ≠ [] ∧ digits.all Char.isDigit ∧ 0 < port ∧ port < 65536 then some port else none

/-- The endpoint that `host` or `host:port` names. -/
def resolve (server : String) : Except EndpointError Endpoint :=
  match BoundedString.ofString Limits.nameBytes (hostPart server) with
  | .ok name => .ok ⟨name, (readPort (portPart server)).getD Limits.httpPort⟩
  | .error overflow => .error (.tooLong overflow)

/-- Endpoints are read from texts as servers are. -/
def ofString (text : String) : Except EndpointError Endpoint :=
  resolve text

def display (e : Endpoint) : String :=
  e.name.text ++ ":" ++ toString e.port

instance : ToString Endpoint := ⟨display⟩

end Endpoint

end DynamicDns
