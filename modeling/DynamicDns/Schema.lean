import DynamicDns.Config
import DynamicDns.Toml.Grammar
import DynamicDns.Toml.Misfit

/-! # Documents as configurations

Reads a document tree as a configuration. Options may come in any order, absent
ones have their defaults, unknown ones are passed over, and a list may be given
as a single string. The first value that does not fit ends the reading: first in
document order, except that a custom section's own options are read before those
that it shares with provider sections.
-/

namespace DynamicDns

namespace Schema

open Toml

/-- The misfit of a value that is not of the wanted type. -/
def wrongType {α : Type} (place : Span) (value : Value) (wanted : Wanted) : Except Misfit α :=
  .error ⟨.wrongType value.found wanted, place⟩

/-- A string, asked for under some name. -/
def readString (wanted : Wanted) (place : Span) : Value → Except Misfit String
  | .string text => .ok text
  | value => wrongType place value wanted

def readBoolean (place : Span) : Value → Except Misfit Bool
  | .boolean truth => .ok truth
  | value => wrongType place value .boolean

def readInteger (place : Span) : Value → Except Misfit Int
  | .integer number => .ok number
  | value => wrongType place value .integer

/-- A whole number that is not below zero. -/
def readNatural (place : Span) : Value → Except Misfit Nat
  | .integer number =>
    if 0 ≤ number then .ok number.toNat else .error ⟨.negative number, place⟩
  | value => wrongType place value .natural

def text? : Value → Option String
  | .string text => some text
  | _ => none

/-- A list of strings, or one string that stands for a list of one. -/
def readStrings (place : Span) (value : Value) : Except Misfit (List String) :=
  let strings := match value with
    | .string text => some [text]
    | .array _ items => items.mapM fun item => text? item.2
    | _ => none
  match strings with
  | some strings => .ok strings
  | none => .error ⟨.notStringOrList, place⟩

def readItems (place : Span) : Value → Except Misfit (List (Span × Value))
  | .array _ items => .ok items
  | value => wrongType place value .sequence

/-- Read one option of those that both kinds of sections have. -/
def setShared (s : ProviderSection) (option : String) (place : Span) (value : Value) :
    Except Misfit ProviderSection :=
  match option with
  | "name" => return { s with name := some (← readString .string place value) }
  | "username" => return { s with username := some (← readString .string place value) }
  | "password" => return { s with password := some (← readString .string place value) }
  | "hostname" => return { s with hostname := ← readStrings place value }
  | "alias" => return { s with aliases := ← readStrings place value }
  | "ssl" => return { s with ssl := ← readBoolean place value }
  | "wildcard" => return { s with wildcard := ← readBoolean place value }
  | _ => return s

/-- A provider section from the options of its table. -/
def readProviderTable (entries : Entries) : Except Misfit ProviderSection :=
  entries.foldlM (fun s (option, place, value) => setShared s option place value) {}

/-- The options of a section that is written as a list, in the order of its items. -/
def positions : List String :=
  ["name", "username", "password", "hostname", "alias", "ssl", "wildcard"]

/-- A provider section from a list of values. Further ones are passed over. A list option that does
    not fit is reported at the section. -/
def readProviderList (place : Span) (items : List (Span × Value)) : Except Misfit ProviderSection :=
  (positions.zip items).foldlM (fun s (option, itemPlace, value) =>
    let place := if option ∈ ["hostname", "alias"] then place else itemPlace
    setShared s option place value) {}

/-- One element of the list of provider sections. A date has no options. -/
def readProvider (place : Span) : Value → Except Misfit ProviderSection
  | .table _ entries => readProviderTable entries
  | .array _ items => readProviderList place items
  | .dateTime => .ok {}
  | value => wrongType place value .providerSection

/-- Read one option that only custom sections have. -/
def setOwn (s : CustomSection) (option : String) (place : Span) (value : Value) :
    Except Misfit CustomSection :=
  match option with
  | "append-myip" => return { s with appendMyip := ← readBoolean place value }
  | "ddns-server" => return { s with ddnsServer := some (← readString .string place value) }
  | "ddns-path" => return { s with ddnsPath := some (← readString .string place value) }
  | "ddns-response" => return { s with ddnsResponse := ← readStrings place value }
  | "checkip-server" => return { s with checkipServer := some (← readString .string place value) }
  | "checkip-path" => return { s with checkipPath := some (← readString .string place value) }
  | _ => return s

/-- A custom section from the options of its table. Those shared with provider sections come last,
    and one of them that does not fit is reported at the section. -/
def readCustomTable (place : Span) (entries : Entries) : Except Misfit CustomSection := do
  let own ← entries.foldlM (fun s (option, place, value) => setOwn s option place value) {}
  let common ← entries.foldlM (fun s (option, _, value) => setShared s option place value) {}
  return { own with common }

/-- One element of the list of custom sections. A date has no options. -/
def readCustom (place : Span) : Value → Except Misfit CustomSection
  | .table _ entries => readCustomTable place entries
  | .dateTime => .ok {}
  | value => wrongType place value .customSection

def setGlobal (c : Config) (option : String) (place : Span) (value : Value) :
    Except Misfit Config :=
  match option with
  | "period" => return { c with period := ← readInteger place value }
  | "forced-update" => return { c with forcedUpdate := ← readNatural place value }
  | "iterations" => return { c with iterations := ← readNatural place value }
  | "fake-address" => return { c with fakeAddress := ← readBoolean place value }
  | "cache-dir" => return { c with cacheDir := ← readString .path place value }
  | "iface" => return { c with iface := some (← readString .string place value) }
  | "provider" => do
    let items ← readItems place value
    return { c with providers := ← items.mapM fun (place, value) => readProvider place value }
  | "custom" => do
    let items ← readItems place value
    return { c with customs := ← items.mapM fun (place, value) => readCustom place value }
  | _ => return c

end Schema

def Config.ofDocument (document : Toml.Entries) : Except Toml.Misfit Config :=
  document.foldlM (fun c (option, place, value) => Schema.setGlobal c option place value) {}

/-- Why a text is no configuration. -/
inductive DocumentError where
  | ungrammatical
  | misfit (cause : Toml.MisfitCause) (place : Toml.Excerpt)
  /-- It was refused elsewhere, for a reason in words. -/
  | described (reason : String)
  deriving Repr, DecidableEq

def DocumentError.message : DocumentError → String
  | .ungrammatical => "TOML parse error\n"
  | .misfit cause place => place.display ++ cause.message ++ "\n"
  | .described reason => reason

/-- The configuration that a text describes. -/
def Config.ofToml (text : String) : Except DocumentError Config :=
  match Toml.Entries.ofString text with
  | none => .error .ungrammatical
  | some document =>
    match Config.ofDocument document with
    | .ok config => .ok config
    | .error misfit => .error (.misfit misfit.cause (.ofSpan text misfit.span))

end DynamicDns
