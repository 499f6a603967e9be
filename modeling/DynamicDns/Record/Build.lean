import DynamicDns.Record
import DynamicDns.Traced

/-! # Building records

A section is merged with the defaults of its plugin. Servers, paths and
hostnames that are too long refuse the section, also defaults that the section
would replace. Credentials, responses and surplus entries of lists that do not
fit are left out with a warning. Clients are assumed to be set up without fail.
-/

namespace DynamicDns

/-- Steps of a build: each may leave a trace, and may refuse the section. -/
abbrev Building (α : Type) := ExceptT SectionError Traced α

/-- Servers and paths of a record. -/
structure Targets where
  checkip : Endpoint
  checkipPath : UrlPath
  update : Endpoint
  updatePath : UrlPath
  deriving Repr, DecidableEq

namespace Targets

def resolve (option server : String) : Except SectionError Endpoint :=
  match Endpoint.resolve server with
  | .ok endpoint => .ok endpoint
  | .error (.tooLong o) => .error (.configOverflow option o.size o.capacity)

def path (option path : String) : Except SectionError UrlPath :=
  match BoundedString.ofString Limits.pathBytes path with
  | .ok path => .ok path
  | .error o => .error (.configOverflow option o.size o.capacity)

def ofPlugin (plugin : Plugin) : Except SectionError Targets := do
  let checkip ← resolve "checkip-server" plugin.checkipServer
  let checkipPath ← path "checkip-path" plugin.checkipPath
  let update ← resolve "ddns-server" plugin.updateServer
  let updatePath ← path "ddns-path" plugin.updatePath
  return { checkip, checkipPath, update, updatePath }

/-- A part of the targets, or what an option puts in its place. -/
def override {α : Type} (part : α) (read : String → Except SectionError α) :
    Option String → Except SectionError α
  | none => .ok part
  | some given => read given

/-- The targets with what a custom section puts in their place. -/
def overrideBy (t : Targets) (s : CustomSection) : Except SectionError Targets := do
  let checkip ← override t.checkip (resolve "checkip-server") s.checkipServer
  let checkipPath ← override t.checkipPath (path "checkip-path") s.checkipPath
  let update ← override t.update (resolve "ddns-server") s.ddnsServer
  let updatePath ← override t.updatePath (path "ddns-path") s.ddnsPath
  return { checkip, checkipPath, update, updatePath }

end Targets

namespace ProviderRecord

/-- A credential, left out with a warning if it is too long. -/
def keepCredential (provider field : String) (capacity : Nat) :
    Option String → Traced (Option (BoundedString capacity))
  | none => pure none
  | some text =>
    match BoundedString.ofString capacity text with
    | .ok kept => pure (some kept)
    | .error overflow => do
      Traced.emit (.credentialIgnored field provider overflow)
      return none

/-- The hostnames as far as a record keeps them. One that is too long refuses the section, surplus
    ones are left out with a warning. -/
def keepHostnames (provider : String) (hostnames : List String) :
    Building (BoundedList Hostname Limits.hostnames) := do
  let fitting : List Hostname ← hostnames.mapM fun name =>
    match BoundedString.ofString Limits.nameBytes name with
    | .ok hostname => pure hostname
    | .error _ => throw (.hostnameTooLong provider name)
  let (kept, dropped) := BoundedList.empty.extend fitting
  Traced.emitIf (0 < dropped) (.hostnamesSkipped dropped provider)
  return kept

/-- The texts that fit a response pattern. -/
def fittingResponses (texts : List String) : List Response :=
  texts.filterMap fun text => (BoundedString.ofString Limits.responseBytes text).toOption

/-- The responses of a custom section, or else those of its plugin, or else the generic ones.
    Defaults that do not fit are left out without a warning. -/
def keepResponses (provider : String) (given : List String) (plugin : Plugin) :
    Traced (BoundedList Response Limits.responses) :=
  if given.isEmpty then
    let defaults :=
      if plugin.responses.isEmpty then Plugin.genericResponses else plugin.responses
    pure (BoundedList.empty.extend (fittingResponses defaults)).1
  else do
    let fitting := fittingResponses given
    let (kept, dropped) := BoundedList.empty.extend fitting
    let oversized := given.length - fitting.length
    Traced.emitIf (0 < oversized) (.longResponsesSkipped oversized provider)
    Traced.emitIf (0 < dropped) (.responsesSkipped dropped provider)
    return kept

/-- The record of a section with this plugin. Its two clients are assumed to be set up without fail,
    so `SectionError.httpClient` is no outcome of it. -/
def merge (plugin : Plugin) (s : Section) : Building ProviderRecord := do
  let name := (s.common.name.filter (· ≠ "")).getD plugin.name
  let defaults ← Targets.ofPlugin plugin
  let username ← keepCredential name "username" Limits.usernameBytes s.common.username
  let password ← keepCredential name "password" Limits.passwordBytes s.common.password
  let hostnames ← keepHostnames name s.common.hostname
  let (targets, appendMyip, responses) ← match s with
    | .provider _ => pure (defaults, false, BoundedList.empty)
    | .custom options => do
      let targets ← defaults.overrideBy options
      let responses ← keepResponses name options.ddnsResponse plugin
      pure (targets, options.appendMyip, responses)
  Traced.emit (.recordBuilt name plugin.name targets.update targets.checkip hostnames.length)
  return {
    name
    kind := s.kind
    plugin
    checkip := targets.checkip
    checkipPath := targets.checkipPath
    update := targets.update
    updatePath := targets.updatePath
    wildcard := s.common.wildcard
    sslEnabled := s.common.ssl
    appendMyip
    credentials := { username, password }
    hostnames
    responses
    checkipClient := ⟨targets.checkip, false⟩
    updateClient := ⟨targets.update, s.common.ssl⟩ }

/-- Build the record of a section, which asks for its plugin once. -/
def build (find : String → Option Plugin) (s : Section) :
    Traced (Except SectionError ProviderRecord) :=
  match s.pluginName? with
  | none => pure (.error .missingName)
  | some name =>
    let answer : Traced (Option Plugin) := { value := find name, lookups := [name] }
    do
      match ← answer with
      | none => return .error (.pluginLookupFailed name)
      | some plugin => (merge plugin s).run

end ProviderRecord

end DynamicDns
