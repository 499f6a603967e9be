import DynamicDns.Plugin.Builtin
import DynamicDns.Traced

/-! # Installing plugins

Registration of plugins while the program runs, which leaves a trace.
-/

namespace DynamicDns.PluginRegistry

/-- Register a plugin. The answer is the plugin that had its name. -/
def install (r : PluginRegistry) (p : Plugin) : Traced (PluginRegistry × Option Plugin) := do
  Traced.emit (.pluginRegistered p.name)
  return r.register p

/-- Register built-in plugins in turn, over others of their names. -/
def installAll (r : PluginRegistry) : List Plugin → Traced PluginRegistry
  | [] => pure r
  | p :: rest => do
    let (r, previous) ← r.install p
    Traced.emitIf (previous.isSome = true) .pluginReplaced
    installAll r rest

def installBuiltin (r : PluginRegistry) : Traced PluginRegistry :=
  r.installAll Plugin.builtin

end DynamicDns.PluginRegistry
