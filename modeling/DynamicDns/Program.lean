import DynamicDns.CommandLine
import DynamicDns.Daemon
import DynamicDns.Dump
import DynamicDns.Plugin.Installation

/-! # The program

From arguments to an exit code and the lines on standard output. Log lines go
to standard output too, in between everything else that is printed there.
-/

namespace DynamicDns

inductive Output where
  | log (event : Event)
  | text (lines : String)
  deriving Repr, DecidableEq

/-- An event as the log shows it, without the time. -/
def Event.logLine (e : Event) : String :=
  s!"{e.level.name} {e.source.name}: {Text.logged e.message}\n"

/-- The piece as it stands on standard output, without times. -/
def Output.render : Output → String
  | .log event => event.logLine
  | .text lines => lines

/-- The events that a log kept at some level shows. -/
def Output.ofEvents (limit : Level) (events : List Event) : List Output :=
  (events.filter (·.level.isShownAt limit)).map .log

/-- How far the program gets by itself. -/
inductive Program where
  | ended (exitCode : Nat) (output : List Output)
  /-- It waits for a signal. -/
  | waiting (limit : Level) (output : List Output) (loaded : LoadedConfig)

namespace Program

def success : Nat := 0

def configFailure : Nat := 1

def usageFailure : Nat := 2

/-- Load the configuration that the command line names, with the built-in plugins. -/
def load (line : CommandLine) (contents : Except ReadError String) :
    Traced (Except LoadError LoadedConfig) := do
  Traced.emit .starting
  let plugins ← PluginRegistry.empty.installBuiltin
  LoadedConfig.ofFile plugins.lookup ⟨line.iface, line.once⟩ line.config contents

/-- Do what the command line asks for, up to the wait for a signal. -/
def run (line : CommandLine) (contents : Except ReadError String) : Program :=
  let loading := load line contents
  let log (events : List Event) : List Output := Output.ofEvents line.logLevel events
  match loading.value with
  | .error error => .ended configFailure (log (loading.events ++ [.loadFailed error]))
  | .ok loaded =>
    if line.checkConfig then
      let event := Event.configValid line.config loaded.providers.size
      .ended success (log (loading.events ++ [event]))
    else if line.dump then
      .ended success (log loading.events ++ [.text (loaded.dump ++ "\n")])
    else
      let started := loaded.start
      .waiting line.logLevel (log (loading.events ++ started.events)) started.value

/-- Start the program on its arguments, in an environment and with a way to read files. -/
def start (envLevel : Option String) (read : String → Except ReadError String)
    (args : List String) : Program :=
  match CommandLine.parse envLevel args with
  | .error .help => .ended success [.text (Text.streamed (CommandLine.helpPage envLevel))]
  | .error .version => .ended success [.text CommandLine.versionText]
  | .error (.usage _) => .ended usageFailure []
  | .ok line => run line (read line.config)

/-- Output up to the end of the program or to its wait. -/
def output : Program → List Output
  | .ended _ output => output
  | .waiting _ output _ => output

/-- Output after a signal. A program that has ended takes no notice of it. -/
def farewell (signal : Signal) : Program → List Output
  | .ended _ _ => []
  | .waiting limit _ loaded => Output.ofEvents limit (loaded.stop signal).events

/-- Exit code, once a program that waits was given a signal. -/
def exitCode : Program → Nat
  | .ended exitCode _ => exitCode
  | .waiting _ _ _ => success

end Program

end DynamicDns
