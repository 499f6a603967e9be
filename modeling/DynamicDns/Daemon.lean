import DynamicDns.Load

/-! # The daemon

What happens to a loaded configuration: the tokens of its records are made, the
daemon reports that it is ready, waits for a signal and releases the records.
-/

namespace DynamicDns.LoadedConfig

def readyEvent (r : ProviderRecord) : Event :=
  .providerReady r.name r.hostnames.length r.update

/-- Make all tokens and report what the daemon is going to do. -/
def start (l : LoadedConfig) : Traced LoadedConfig :=
  { value := { l with providers := l.providers.encodeAll.1 }
    events := l.providers.records.map readyEvent ++
      [.daemonReady l.global.updatePeriod l.global.totalIterations] }

/-- Release all records after a signal. -/
def stop (l : LoadedConfig) (signal : Signal) : Traced LoadedConfig := do
  Traced.emit (.signalReceived signal)
  let (providers, released) ← l.providers.destroyAll
  Traced.emit (.daemonStopped released)
  return { l with providers }

/-- The whole life of the daemon. -/
def serve (l : LoadedConfig) (signal : Signal) : Traced LoadedConfig := do
  let started ← l.start
  started.stop signal

end DynamicDns.LoadedConfig
