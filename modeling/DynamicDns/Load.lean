import DynamicDns.Registry
import DynamicDns.Validation

/-! # Loading

From a document to global settings and provider records: the document is read,
all its sections are checked, and if none is refused, all their records are
built. A load succeeds as a whole or fails with every refusal that it found.
-/

namespace DynamicDns

/-- What the command line puts in the place of the file's settings. -/
structure Overrides where
  iface : Option String := none
  once : Bool := false
  deriving Repr, DecidableEq

/-- The settings of the daemon. -/
structure GlobalConfig where
  /-- Seconds between checks of the address. -/
  updatePeriod : Nat
  /-- Seconds after which an unchanged address is sent again. -/
  forcedUpdatePeriod : Nat
  errorUpdatePeriod : Nat
  /-- Number of update iterations, zero for no end. -/
  totalIterations : Nat
  cacheDir : String
  fakeAddress : Bool
  iface : Option String
  deriving Repr, DecidableEq

namespace GlobalConfig

def ofConfig (config : Config) (overrides : Overrides) : GlobalConfig where
  updatePeriod := config.period.toNat
  forcedUpdatePeriod := config.forcedUpdate
  errorUpdatePeriod := Limits.retryPeriod
  totalIterations := if overrides.once then 1 else config.iterations
  cacheDir := config.cacheDir
  fakeAddress := config.fakeAddress
  iface := overrides.iface.or config.iface

/-- Whether the daemon runs until it is stopped. -/
def runsForever (g : GlobalConfig) : Bool := g.totalIterations == 0

end GlobalConfig

structure LoadedConfig where
  global : GlobalConfig
  providers : ProviderRegistry
  deriving Repr, DecidableEq

namespace LoadedConfig

def reject (origin : String) (diagnostics : List Diagnostic) :
    Traced (Except LoadError LoadedConfig) :=
  { value := .error (.rejected diagnostics)
    events := diagnostics.map (.sectionRejected origin) }

/-- Build and append a record for each section. The refusals are those of the sections without one. -/
def createAll (find : Lookup) : Nat → ProviderRegistry → List (SectionId × Section) →
    Traced (ProviderRegistry × List Diagnostic)
  | _, registry, [] => pure (registry, [])
  | earlier, registry, (id, s) :: rest => do
    let created := registry.create (find earlier) s
    let (registry, outcome) ← created
    let (registry, refused) ← createAll find (earlier + created.lookups.length) registry rest
    match outcome with
    | .ok _ => return (registry, refused)
    | .error error => return (registry, ⟨id, error⟩ :: refused)

def ofConfig (find : Lookup) (overrides : Overrides) (origin : String) (config : Config) :
    Traced (Except LoadError LoadedConfig) := do
  let checked := config.validate find
  let (config, refused) ← checked
  if !refused.isEmpty then reject origin refused
  else
    let global := GlobalConfig.ofConfig config overrides
    let (providers, refused) ←
      createAll find checked.lookups.length ProviderRegistry.empty config.sections
    if !refused.isEmpty then reject origin refused
    else
      Traced.emit (.configLoaded providers.size origin global.updatePeriod)
      return .ok { global, providers }

def ofText (find : Lookup) (overrides : Overrides) (origin text : String) :
    Traced (Except LoadError LoadedConfig) :=
  match Config.ofToml text with
  | .error cause => pure (.error (.malformed origin cause))
  | .ok config => ofConfig find overrides origin config

/-- What documents that were not read from a file are called. -/
def inlineOrigin : String := "<inline>"

/-- Load a document that is at hand. -/
def ofString (find : Lookup) (overrides : Overrides) (text : String) :
    Traced (Except LoadError LoadedConfig) :=
  ofText find overrides inlineOrigin text

/-- Load what reading the file at a path came to. -/
def ofFile (find : Lookup) (overrides : Overrides) (path : String)
    (contents : Except ReadError String) : Traced (Except LoadError LoadedConfig) :=
  match contents with
  | .error cause => pure (.error (.unreadable path cause))
  | .ok text => ofText find overrides path text

end LoadedConfig

end DynamicDns
