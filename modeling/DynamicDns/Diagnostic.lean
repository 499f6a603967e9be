import DynamicDns.Config

/-! # Rejections

Why a section is refused, where it stands, and how both are put into words.
-/

namespace DynamicDns

inductive SectionError where
  | missingName
  /-- Both names of the hostname list are in use. -/
  | aliasConflict
  | missingHostnames (provider : String)
  | hostnameTooLong (provider hostname : String)
  | unknownProvider (name : String)
  /-- A provider section without the credential named by `field`. -/
  | missingCredential (provider field : String)
  | missingServer
  /-- The plugin was gone once the record was to be built. -/
  | pluginLookupFailed (name : String)
  /-- A default of the plugin or an option of the user is too long. -/
  | configOverflow (field : String) (size capacity : Nat)
  /-- A client for the endpoint cannot be set up. Builds assume that it can. -/
  | httpClient (field message : String)
  deriving Repr, DecidableEq

namespace SectionError

def message : SectionError → String
  | .missingName => "Missing DDNS provider name"
  | .aliasConflict =>
    "Both 'hostname' and 'alias' set, cannot convert deprecated 'alias' to 'hostname'"
  | .missingHostnames provider => s!"No hostnames listed in DDNS provider {provider}"
  | .hostnameTooLong provider hostname =>
    s!"Too long DDNS hostname ({hostname}) in provider {provider}"
  | .unknownProvider name => s!"Invalid DDNS provider {name}"
  | .missingCredential provider field =>
    s!"Missing {field} setting for DDNS provider {provider}"
  | .missingServer => "Missing 'ddns-server' for custom DDNS provider"
  | .pluginLookupFailed name => s!"Cannot find a DDNS plugin for provider '{name}'"
  | .configOverflow field size capacity =>
    s!"Value of '{field}' is too long ({size} > {capacity})"
  | .httpClient field message => s!"Cannot set up HTTP client for '{field}': {message}"

/-- The option to look at, if the rejection points to one. -/
def field? : SectionError → Option String
  | .missingName => some "name"
  | .aliasConflict => some "alias"
  | .missingHostnames _ => some "hostname"
  | .hostnameTooLong _ _ => some "hostname"
  | .unknownProvider _ => some "name"
  | .missingCredential _ field => some field
  | .missingServer => some "ddns-server"
  | .pluginLookupFailed _ => none
  | .configOverflow field _ _ => some field
  | .httpClient field _ => some field

end SectionError

structure Diagnostic where
  place : SectionId
  error : SectionError
  deriving Repr, DecidableEq

/-- The option to look at, if the error points to one. -/
def Diagnostic.field? (d : Diagnostic) : Option String := d.error.field?

/-- The refusal with its section and the option to look at. -/
def Diagnostic.display (d : Diagnostic) : String :=
  match d.field? with
  | some field => s!"{d.place.display} ({field}): {d.error.message}"
  | none => s!"{d.place.display}: {d.error.message}"

end DynamicDns
