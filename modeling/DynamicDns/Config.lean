import DynamicDns.Limits
import DynamicDns.Plugin

/-! # Configuration tree

A configuration as its document gives it: global settings, and sections of two
kinds in the order in which they were written. Provider sections pick a plugin
by their title; custom sections bring servers and paths of their own.
-/

namespace DynamicDns

inductive SectionKind where
  /-- A known service, looked up by title. -/
  | provider
  /-- A service that the section describes. -/
  | custom
  deriving Repr, DecidableEq

/-- The kind as documents and messages write it. -/
def SectionKind.name : SectionKind → String
  | .provider => "provider"
  | .custom => "custom"

/-- The options that sections of both kinds have. -/
structure ProviderSection where
  /-- Title. In a provider section it names the plugin. -/
  name : Option String := none
  username : Option String := none
  password : Option String := none
  hostname : List String := []
  /-- Deprecated name of `hostname`. -/
  aliases : List String := []
  ssl : Bool := false
  wildcard : Bool := false
  deriving Repr, DecidableEq

/-- A section that describes its service. -/
structure CustomSection where
  common : ProviderSection := {}
  appendMyip : Bool := false
  /-- Update server, `host` or `host:port`. -/
  ddnsServer : Option String := none
  ddnsPath : Option String := none
  /-- Texts whose presence in an answer means success. -/
  ddnsResponse : List String := []
  /-- Server that tells the current address, instead of the plugin's. -/
  checkipServer : Option String := none
  /-- Path on that server, instead of the plugin's. -/
  checkipPath : Option String := none
  deriving Repr, DecidableEq

inductive Section where
  | provider (options : ProviderSection)
  | custom (options : CustomSection)
  deriving Repr, DecidableEq

namespace Section

def kind : Section → SectionKind
  | .provider _ => .provider
  | .custom _ => .custom

def common : Section → ProviderSection
  | .provider options => options
  | .custom options => options.common

/-- The plugin that the section asks for: its title, unless absent or empty, or the one behind
    custom sections. -/
def pluginName? : Section → Option String
  | .provider options => options.name.filter (· ≠ "")
  | .custom _ => some Plugin.customName

end Section

/-- Tells sections apart in messages. -/
structure SectionId where
  kind : SectionKind
  /-- Place among the sections of its kind, from zero. -/
  index : Nat
  title : Option String
  deriving Repr, DecidableEq

/-- The kind with the title, or with the place counted from one where there is no title. -/
def SectionId.display (id : SectionId) : String :=
  match id.title.filter (· ≠ "") with
  | some title => id.kind.name ++ " '" ++ title ++ "'"
  | none => id.kind.name ++ " #" ++ toString (id.index + 1)

structure Config where
  /-- Seconds between checks of the address. -/
  period : Int := Limits.defaultPeriod
  /-- Seconds after which an unchanged address is sent again. -/
  forcedUpdate : Nat := Limits.defaultForcedUpdate
  /-- Number of update iterations, zero for no end. -/
  iterations : Nat := Limits.defaultIterations
  fakeAddress : Bool := false
  /-- Directory for the addresses last sent. -/
  cacheDir : String := Limits.defaultCacheDir
  iface : Option String := none
  providers : List ProviderSection := []
  customs : List CustomSection := []
  deriving Repr, DecidableEq

/-- All sections with their identities: those of providers, then the custom ones. -/
def Config.sections (config : Config) : List (SectionId × Section) :=
  config.providers.zipIdx.map (fun (s, i) => (⟨.provider, i, s.name⟩, .provider s)) ++
    config.customs.zipIdx.map (fun (s, i) => (⟨.custom, i, s.common.name⟩, .custom s))

end DynamicDns
