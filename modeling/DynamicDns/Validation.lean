import DynamicDns.Traced

/-! # Validation

The checks that a section has to pass before a record is built for it, in fixed
order up to the first failure. On the way the deprecated option is mended. A
refused section does not keep the others from being checked, and the update
period is moved into its bounds instead of being refused.
-/

namespace DynamicDns

/-- A section after its checks, and why it was refused, if it was. -/
structure Verdict (σ : Type) where
  result : σ
  error : Option SectionError := none
  deriving Repr, DecidableEq

def clampPeriod (period : Int) : Nat :=
  if period < Limits.shortestPeriod then Limits.shortestPeriod
  else if Limits.longestPeriod < period then Limits.longestPeriod
  else period.toNat

/-- Check the hostnames of a section: there is one, and none is too long. -/
def checkHostnames (provider : String) (hostnames : List String) : Option SectionError :=
  if hostnames.isEmpty then some (.missingHostnames provider)
  else
    (hostnames.find? (Limits.nameBytes < ·.utf8ByteSize)).map (.hostnameTooLong provider)

namespace ProviderSection

/-- Move the entries of the deprecated option to where they belong. The answer tells whether there
    were any. Both options at once are refused. -/
def migrateAlias (s : ProviderSection) : Traced (Except SectionError (ProviderSection × Bool)) :=
  if s.aliases.isEmpty then pure (.ok (s, false))
  else if !s.hostname.isEmpty then pure (.error .aliasConflict)
  else do
    Traced.emit (.aliasMigrated s.aliases.length)
    return .ok ({ s with hostname := s.aliases, aliases := [] }, true)

/-- The first credential that a section lacks. -/
def missingCredential? (s : ProviderSection) (provider : String) : Option SectionError :=
  if s.username.isNone then some (.missingCredential provider "username")
  else if s.password.isNone then some (.missingCredential provider "password")
  else none

/-- The checks of both kinds of sections. Credentials are asked of provider sections only, since
    custom services may be open to all. -/
def checkCommon (find : String → Option Plugin) (kind : SectionKind) (provider : String)
    (s : ProviderSection) : Traced (Verdict ProviderSection) := do
  match ← s.migrateAlias with
  | .error e => return ⟨s, some e⟩
  | .ok (s, _) =>
    match if kind = .provider then s.missingCredential? provider else none with
    | some e => return ⟨s, some e⟩
    | none =>
      let answer : Traced (Option Plugin) := { value := find provider, lookups := [provider] }
      match ← answer with
      | none => return ⟨s, some (.unknownProvider provider)⟩
      | some _ => return ⟨s, checkHostnames provider s.hostname⟩

/-- The checks of a provider section: its title first. -/
def validate (find : String → Option Plugin) (s : ProviderSection) :
    Traced (Verdict ProviderSection) :=
  match s.name.filter (· ≠ "") with
  | none => pure ⟨s, some .missingName⟩
  | some provider => s.checkCommon find .provider provider

end ProviderSection

namespace CustomSection

/-- Whether the section names an update host. A bare port does not. -/
def hasUpdateHost (s : CustomSection) : Bool :=
  match s.ddnsServer with
  | none => false
  | some server => !(Text.trim (Endpoint.hostPart server).toList).isEmpty

/-- The checks of a custom section: its update host first. -/
def validate (find : String → Option Plugin) (s : CustomSection) :
    Traced (Verdict CustomSection) :=
  if !s.hasUpdateHost then pure ⟨s, some .missingServer⟩
  else do
    let verdict ← s.common.checkCommon find .custom Plugin.customName
    return ⟨{ s with common := verdict.result }, verdict.error⟩

end CustomSection

namespace Section

def validate (find : String → Option Plugin) : Section → Traced (Verdict Section)
  | .provider s => do
    let verdict ← s.validate find
    return ⟨.provider verdict.result, verdict.error⟩
  | .custom s => do
    let verdict ← s.validate find
    return ⟨.custom verdict.result, verdict.error⟩

end Section

namespace Config

/-- The refusals among verdicts on sections of one kind. -/
def refusals {σ : Type} (kind : SectionKind) (title : σ → Option String)
    (verdicts : List (Verdict σ)) : List Diagnostic :=
  verdicts.zipIdx.filterMap fun (verdict, index) =>
    verdict.error.map fun error => ⟨⟨kind, index, title verdict.result⟩, error⟩

/-- Check all sections and move the period into its bounds. The configuration is as the checks left
    it, and no refusal means that all of it is acceptable. -/
def validate (find : Lookup) (config : Config) : Traced (Config × List Diagnostic) := do
  let period := clampPeriod config.period
  Traced.emitIf ((period : Int) ≠ config.period) (.periodClamped config.period period)
  let checked := Traced.each (fun earlier s => ProviderSection.validate (find earlier) s) 0
    config.providers
  let providers ← checked
  let customs ← Traced.each (fun earlier s => CustomSection.validate (find earlier) s)
    checked.lookups.length config.customs
  let config := { config with
    period
    providers := providers.map Verdict.result
    customs := customs.map Verdict.result }
  return (config, refusals .provider ProviderSection.name providers ++
    refusals .custom (fun s => s.common.name) customs)

end Config

end DynamicDns
