import DynamicDns.Endpoint
import DynamicDns.LoadError

/-! # Events

What is worth a line in the log: each event with its level, the part of the
program that it comes from, and its wording.
-/

namespace DynamicDns

/-- How urgent an event is. -/
inductive Level where
  | error
  | warn
  | info
  | debug
  | trace
  deriving Repr, DecidableEq

namespace Level

def name : Level → String
  | .error => "ERROR"
  | .warn => "WARN"
  | .info => "INFO"
  | .debug => "DEBUG"
  | .trace => "TRACE"

/-- The level as a number, from the most urgent one. -/
def number : Level → Nat
  | .error => 1
  | .warn => 2
  | .info => 3
  | .debug => 4
  | .trace => 5

/-- Whether a log kept at level `limit` holds events of this level. -/
def isShownAt (level limit : Level) : Bool := level.number ≤ limit.number

end Level

/-- The part of the program that an event comes from. -/
inductive Source where
  | daemon
  | loader
  | validation
  | builder
  | registry
  | plugins
  | builtin
  deriving Repr, DecidableEq

def Source.name : Source → String
  | .daemon => "ddnsd"
  | .loader => "ddns_config::loader"
  | .validation => "ddns_config::validate"
  | .builder => "ddns_config::builder"
  | .registry => "ddns_config::registry"
  | .plugins => "ddns_config::plugin"
  | .builtin => "ddns_plugins"

/-- A request to end the daemon. -/
inductive Signal where
  | terminate
  | interrupt
  deriving Repr, DecidableEq

def Signal.name : Signal → String
  | .terminate => "SIGTERM"
  | .interrupt => "SIGINT"

/-- Something worth a line in the log. -/
inductive Event where
  | starting
  | pluginRegistered (name : String)
  /-- A built-in plugin took the place of another. -/
  | pluginReplaced
  /-- The update period was moved into its bounds. -/
  | periodClamped (given : Int) (used : Nat)
  | aliasMigrated (entries : Nat)
  | sectionRejected (origin : String) (diagnostic : Diagnostic)
  /-- A credential was too long and is left out. -/
  | credentialIgnored (field provider : String) (overflow : Overflow)
  /-- There were more hostnames than a record keeps. -/
  | hostnamesSkipped (count : Nat) (provider : String)
  | longResponsesSkipped (count : Nat) (provider : String)
  /-- There were more response patterns than a record keeps. -/
  | responsesSkipped (count : Nat) (provider : String)
  | recordBuilt (provider plugin : String) (update checkip : Endpoint) (hostnames : Nat)
  | recordAdded (provider : String)
  | recordsReleased (count : Nat)
  | configLoaded (providers : Nat) (origin : String) (period : Nat)
  | loadFailed (error : LoadError)
  /-- The configuration was only to be checked, and is fine. -/
  | configValid (path : String) (providers : Nat)
  | providerReady (provider : String) (hostnames : Nat) (update : Endpoint)
  /-- The daemon is ready. Zero iterations have no end. -/
  | daemonReady (period iterations : Nat)
  | signalReceived (signal : Signal)
  | daemonStopped (released : Nat)
  deriving Repr, DecidableEq

namespace Event

def level : Event → Level
  | .pluginRegistered _ | .pluginReplaced | .periodClamped _ _ | .recordBuilt .. | .recordAdded _
  | .recordsReleased _ => .debug
  | .aliasMigrated _ | .credentialIgnored .. | .hostnamesSkipped .. | .longResponsesSkipped ..
  | .responsesSkipped .. => .warn
  | .sectionRejected .. | .loadFailed _ => .error
  | .starting | .configLoaded .. | .configValid .. | .providerReady .. | .daemonReady ..
  | .signalReceived _ | .daemonStopped _ => .info

def source : Event → Source
  | .pluginRegistered _ => .plugins
  | .pluginReplaced => .builtin
  | .periodClamped _ _ | .aliasMigrated _ => .validation
  | .credentialIgnored .. | .hostnamesSkipped .. | .longResponsesSkipped .. | .responsesSkipped ..
  | .recordBuilt .. => .builder
  | .recordAdded _ | .recordsReleased _ => .registry
  | .sectionRejected .. | .configLoaded .. => .loader
  | .starting | .loadFailed _ | .configValid .. | .providerReady .. | .daemonReady ..
  | .signalReceived _ | .daemonStopped _ => .daemon

def message : Event → String
  | .starting => "Starting ddnsd daemon"
  | .pluginRegistered name => s!"Registering DDNS plugin {name}"
  | .pluginReplaced => "Replaced previously registered DDNS plugin"
  | .periodClamped given used => s!"Period {given} out of range, using {used}"
  | .aliasMigrated entries => s!"Converting deprecated 'alias' to 'hostname' ({entries} entries)"
  | .sectionRejected origin diagnostic => s!"{origin}: {diagnostic.display}"
  | .credentialIgnored field provider overflow =>
    s!"Ignoring {field} for provider {provider}: {overflow.message}"
  | .hostnamesSkipped count provider =>
    s!"Skipping {count} hostname(s) in provider {provider}, only {Limits.hostnames} hostnames supported"
  | .longResponsesSkipped count provider =>
    s!"Skipping {count} over-long response(s) in provider {provider}"
  | .responsesSkipped count provider =>
    s!"Skipping {count} response(s) in provider {provider}, " ++
      s!"only {Limits.responses} custom responses supported"
  | .recordBuilt provider plugin update checkip hostnames =>
    s!"Provider {provider} ({plugin}): update via {update.display}, checkip via {checkip.display}, " ++
      s!"{hostnames} hostname(s)"
  | .recordAdded provider => s!"Adding provider {provider} to registry"
  | .recordsReleased count => s!"Released {count} provider record(s)"
  | .configLoaded providers origin period =>
    s!"Loaded {providers} DDNS provider(s) from {origin}, update period {period}s"
  | .loadFailed error => s!"Configuration error: {error.message}"
  | .configValid path providers => s!"Configuration {path} is valid: {providers} provider(s)"
  | .providerReady provider hostnames update =>
    s!"Provider {provider}: {hostnames} hostname(s) via {update.display}"
  | .daemonReady period iterations =>
    s!"Daemon initialized, update period {period}s, " ++
      if iterations = 0 then "running until stopped" else s!"{iterations} iteration(s)"
  | .signalReceived signal => s!"Received shutdown signal: {signal.name}"
  | .daemonStopped released => s!"Shutting down daemon, released {released} provider(s)"

end Event

end DynamicDns
