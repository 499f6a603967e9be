import DynamicDns.Plugin

/-! # Registry of plugins

Plugins by name, at most one for each, kept in increasing order of names. The
bare name of a service stands for its default plugin where no plugin has that
very name.
-/

namespace DynamicDns

/-- Plugins in increasing order of their names. -/
structure PluginRegistry where
  plugins : List Plugin := []
  deriving Repr, DecidableEq

namespace PluginRegistry

def empty : PluginRegistry := {}

/-- Put a plugin at its place, over one of the same name. -/
def insertSorted (p : Plugin) : List Plugin → List Plugin
  | [] => [p]
  | q :: rest =>
    if p.name < q.name then p :: q :: rest
    else if p.name = q.name then p :: rest
    else q :: insertSorted p rest

/-- The plugin registered under exactly this name. -/
def get? (r : PluginRegistry) (name : String) : Option Plugin :=
  r.plugins.find? (·.name = name)

/-- Register a plugin under its own name. The answer is the plugin that had the name. -/
def register (r : PluginRegistry) (p : Plugin) : PluginRegistry × Option Plugin :=
  (⟨insertSorted p r.plugins⟩, r.get? p.name)

def registerAll (r : PluginRegistry) (ps : List Plugin) : PluginRegistry :=
  ps.foldl (fun r p => (r.register p).1) r

/-- The plugin that answers to a name: the one registered under it, else, for a name without
    `@`, the default plugin of that service. -/
def find? (r : PluginRegistry) (name : String) : Option Plugin :=
  match r.get? name with
  | some p => some p
  | none => if '@' ∈ name.toList then none else r.get? (Plugin.defaultMark ++ name)

def contains (r : PluginRegistry) (name : String) : Bool :=
  (r.find? name).isSome

/-- The registered names, in increasing order. -/
def names (r : PluginRegistry) : List String :=
  r.plugins.map Plugin.name

def size (r : PluginRegistry) : Nat := r.plugins.length

def isEmpty (r : PluginRegistry) : Bool := r.plugins.isEmpty

/-- The registry as a lookup: equal names get equal answers. -/
def lookup (r : PluginRegistry) : Lookup := fun _ name => r.find? name

end PluginRegistry

end DynamicDns
