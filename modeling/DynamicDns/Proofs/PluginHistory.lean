import DynamicDns.Plugin.Installation
import DynamicDns.Proofs.PluginLookup
import Mathlib.Data.List.Induction
import Mathlib.Data.List.Sort
import Mathlib.Data.String.Basic

/-! # Registries of plugins as histories

A registry of plugins is measured against its history: all plugins that were
registered, oldest first. Whatever names were given and however often, it holds
under each name the plugin that was registered last, and its names in increasing
order. So the order of registrations counts only among plugins of one name.
-/

namespace DynamicDns

/-- What is registered at once. -/
inductive Registration where
  | plugin (p : Plugin)
  /-- All built-in plugins, in turn. -/
  | builtin

/-- The plugins that are registered, in turn. -/
def Registration.plugins : Registration → List Plugin
  | .plugin p => [p]
  | .builtin => Plugin.builtin

namespace Plugin

/-- Of plugins, oldest first, the last one that has a name. -/
def lastNamed? (plugins : List Plugin) (name : String) : Option Plugin :=
  plugins.reverse.find? (·.name = name)

theorem lastNamed?_append (earlier later : List Plugin) (name : String) :
    lastNamed? (earlier ++ later) name = (lastNamed? later name).or (lastNamed? earlier name) := by
  rw [lastNamed?, List.reverse_append, List.find?_append]
  rfl

theorem lastNamed?_singleton (p : Plugin) (name : String) :
    lastNamed? [p] name = if p.name = name then some p else none := by
  by_cases named : p.name = name <;> simp [lastNamed?, named]

theorem lastNamed?_isSome_iff {plugins : List Plugin} {name : String} :
    (lastNamed? plugins name).isSome ↔ ∃ p ∈ plugins, p.name = name := by
  simp [lastNamed?, List.find?_isSome]

/-- If no two plugins share a name, the one that has it is also the last one. -/
theorem lastNamed?_eq_some_iff {plugins : List Plugin} (distinct : (plugins.map name).Nodup)
    {name : String} {p : Plugin} :
    lastNamed? plugins name = some p ↔ p ∈ plugins ∧ p.name = name := by
  constructor
  · intro last
    exact ⟨List.mem_reverse.mp (List.mem_of_find?_eq_some last),
      by simpa using List.find?_some last⟩
  · rintro ⟨member, named⟩
    obtain ⟨q, last⟩ := Option.isSome_iff_exists.mp (lastNamed?_isSome_iff.mpr ⟨p, member, named⟩)
    have found : q ∈ plugins := List.mem_reverse.mp (List.mem_of_find?_eq_some last)
    have same : q.name = p.name := by
      rw [named]
      simpa using List.find?_some last
    rw [last, List.inj_on_of_nodup_map distinct found member same]

theorem lastNamed?_perm {plugins others : List Plugin} (distinct : (plugins.map name).Nodup)
    (same : plugins.Perm others) : lastNamed? plugins = lastNamed? others := by
  funext name
  apply Option.ext
  intro p
  rw [lastNamed?_eq_some_iff distinct, same.mem_iff,
    lastNamed?_eq_some_iff ((same.map Plugin.name).nodup_iff.mp distinct)]

end Plugin

namespace PluginRegistry

/-! ## One registration -/

theorem find?_insertSorted (p : Plugin) (plugins : List Plugin) (name : String) :
    (insertSorted p plugins).find? (·.name = name) =
      if p.name = name then some p else plugins.find? (·.name = name) := by
  induction plugins with
  | nil => by_cases named : p.name = name <;> simp [insertSorted, named]
  | cons q rest ih =>
      unfold insertSorted
      split
      · by_cases named : p.name = name <;> simp [named]
      · split
        · rename_i replaced
          by_cases named : p.name = name
          · simp [named]
          · simp [named, ← replaced]
        · rename_i other
          by_cases named : q.name = name
          · simp [named, show p.name ≠ name by rwa [← named]]
          · simp only [List.find?_cons, named, decide_false, ih]

/-- A registration is seen under its own name only. -/
theorem get?_register (r : PluginRegistry) (p : Plugin) (name : String) :
    (r.register p).1.get? name = if p.name = name then some p else r.get? name :=
  find?_insertSorted p r.plugins name

theorem mem_names_insertSorted {p : Plugin} {plugins : List Plugin} {name : String} :
    name ∈ (insertSorted p plugins).map Plugin.name ↔
      name = p.name ∨ name ∈ plugins.map Plugin.name := by
  induction plugins with
  | nil => simp [insertSorted]
  | cons q rest ih =>
      unfold insertSorted
      split
      · simp only [List.map_cons, List.mem_cons]
      · split
        · rename_i replaced
          simp only [List.map_cons, List.mem_cons, replaced, or_self_left]
        · simp only [List.map_cons, List.mem_cons, ih, or_left_comm]

/-- Names in increasing order, and so each of them once. -/
abbrev Increasing (plugins : List Plugin) : Prop := (plugins.map Plugin.name).Pairwise (· < ·)

theorem increasing_insertSorted {p : Plugin} {plugins : List Plugin}
    (sorted : Increasing plugins) : Increasing (insertSorted p plugins) := by
  induction plugins with
  | nil => exact List.pairwise_singleton _ _
  | cons q rest ih =>
      obtain ⟨least, sortedRest⟩ := List.pairwise_cons.mp sorted
      unfold insertSorted
      split
      · rename_i smaller
        refine List.pairwise_cons.mpr ⟨?_, sorted⟩
        intro name member
        rcases List.mem_cons.mp member with rfl | later
        · exact smaller
        · exact lt_trans smaller (least name later)
      · rename_i notSmaller
        split
        · rename_i replaced
          refine List.pairwise_cons.mpr ⟨?_, sortedRest⟩
          rw [replaced]
          exact least
        · rename_i other
          refine List.pairwise_cons.mpr ⟨?_, ih sortedRest⟩
          intro name member
          rcases mem_names_insertSorted.mp member with rfl | later
          · exact lt_of_le_of_ne (not_lt.mp notSmaller) (Ne.symm other)
          · exact least name later

/-! ## Runs of registrations -/

/-- The registry after a registration. -/
def perform (r : PluginRegistry) : Registration → PluginRegistry
  | .plugin p => (r.install p).value.1
  | .builtin => r.installBuiltin.value

/-- The registry after some registrations. -/
def after (r : PluginRegistry) (registrations : List Registration) : PluginRegistry :=
  registrations.foldl perform r

theorem value_installAll (r : PluginRegistry) (ps : List Plugin) :
    (r.installAll ps).value = r.registerAll ps := by
  induction ps generalizing r with
  | nil => rfl
  | cons p rest ih => exact ih (r.register p).1

/-- Registrations come to those of their plugins one by one. -/
theorem after_eq_registerAll (r : PluginRegistry) (registrations : List Registration) :
    r.after registrations = r.registerAll (registrations.flatMap Registration.plugins) := by
  induction registrations generalizing r with
  | nil => rfl
  | cons registration rest ih =>
      have step : r.perform registration = r.registerAll registration.plugins := by
        cases registration with
        | plugin p => rfl
        | builtin => exact value_installAll r Plugin.builtin
      rw [List.flatMap_cons, registerAll, List.foldl_append]
      exact (ih (r.perform registration)).trans (congrArg (registerAll · _) step)

theorem get?_registerAll (r : PluginRegistry) (ps : List Plugin) (name : String) :
    (r.registerAll ps).get? name = (Plugin.lastNamed? ps name).or (r.get? name) := by
  induction ps using List.reverseRecOn with
  | nil => rfl
  | append_singleton ps p ih =>
      have step : r.registerAll (ps ++ [p]) = ((r.registerAll ps).register p).1 := by
        rw [registerAll, List.foldl_append]
        rfl
      rw [step, get?_register, ih, Plugin.lastNamed?_append, Plugin.lastNamed?_singleton]
      by_cases named : p.name = name <;> simp [named]

theorem increasing_registerAll {r : PluginRegistry} (sorted : Increasing r.plugins)
    (ps : List Plugin) : Increasing (r.registerAll ps).plugins := by
  induction ps generalizing r with
  | nil => exact sorted
  | cons p rest ih => exact ih (r := (r.register p).1) (increasing_insertSorted sorted)

theorem mem_names_iff {r : PluginRegistry} {name : String} :
    name ∈ r.names ↔ (r.get? name).isSome := by
  simp [names, get?, List.find?_isSome]

theorem find?_eq_of_get?_eq {r r' : PluginRegistry} (same : r.get? = r'.get?) :
    r.find? = r'.find? := by
  funext name
  rw [find?, find?, same]

theorem names_eq_of_get?_eq {r r' : PluginRegistry} (sorted : Increasing r.plugins)
    (sorted' : Increasing r'.plugins) (same : r.get? = r'.get?) : r.names = r'.names :=
  sorted.eq_of_mem_iff sorted' fun name => by
    change name ∈ r.names ↔ name ∈ r'.names
    rw [mem_names_iff, mem_names_iff, same]

/-- The name that is registered, and the one that it is the default plugin of unless that is
    registered itself, are the only ones whose answer can change. -/
theorem eq_of_find?_register_ne {r : PluginRegistry} {p : Plugin} {name : String}
    (changed : (r.register p).1.find? name ≠ r.find? name) :
    name = p.name ∨
      ('@' ∉ name.toList ∧ p.name = Plugin.defaultMark ++ name ∧ name ∉ r.names) := by
  by_cases own : p.name = name
  · exact .inl own.symm
  · right
    simp only [find?, get?_register, if_neg own] at changed
    cases exact : r.get? name with
    | some q => simp [exact] at changed
    | none =>
        have unlisted : name ∉ r.names := by simp [mem_names_iff, exact]
        by_cases marked : '@' ∈ name.toList
        · simp [exact, marked] at changed
        · by_cases default : p.name = Plugin.defaultMark ++ name
          · exact ⟨marked, default, unlisted⟩
          · simp [exact, default] at changed

theorem length_names (r : PluginRegistry) : r.names.length = r.size :=
  List.length_map _

/-- Plugins of which no two share a name can be registered in any order. -/
theorem registerAll_perm {r : PluginRegistry} (sorted : Increasing r.plugins) {ps qs : List Plugin}
    (distinct : (ps.map Plugin.name).Nodup) (same : ps.Perm qs) :
    (r.registerAll ps).find? = (r.registerAll qs).find? ∧
      (r.registerAll ps).names = (r.registerAll qs).names ∧
      (r.registerAll ps).size = (r.registerAll qs).size := by
  have held : (r.registerAll ps).get? = (r.registerAll qs).get? := by
    funext name
    rw [get?_registerAll, get?_registerAll, Plugin.lastNamed?_perm distinct same]
  have names := names_eq_of_get?_eq (increasing_registerAll sorted ps)
    (increasing_registerAll sorted qs) held
  refine ⟨find?_eq_of_get?_eq held, names, ?_⟩
  rw [← length_names, ← length_names, names]

/-- A registry in which nothing was registered but by these registrations holds under each name the
    plugin that was registered last. A name without `@` that was not registered stands for its
    default plugin. -/
theorem after_eq_history (registrations : List Registration) :
    let r := empty.after registrations
    let history := registrations.flatMap Registration.plugins
    (∀ name, r.find? name = (Plugin.lastNamed? history name).or
      (if '@' ∈ name.toList then none
        else Plugin.lastNamed? history (Plugin.defaultMark ++ name))) ∧
    (∀ p, (r.install p).value.2 = Plugin.lastNamed? history p.name) ∧
    r.names.Pairwise (· < ·) ∧
    (∀ name, name ∈ r.names ↔ ∃ p ∈ history, p.name = name) ∧
    r.names.length = r.size ∧
    (∀ p name, (r.perform (.plugin p)).find? name ≠ r.find? name →
      name = p.name ∨
        ('@' ∉ name.toList ∧ p.name = Plugin.defaultMark ++ name ∧ name ∉ r.names)) ∧
    (∀ ps qs : List Plugin, (ps.map Plugin.name).Nodup → ps.Perm qs →
      let r₁ := r.after (ps.map .plugin)
      let r₂ := r.after (qs.map .plugin)
      r₁.find? = r₂.find? ∧ r₁.names = r₂.names ∧ r₁.size = r₂.size) := by
  intro r history
  have registered : r = empty.registerAll history := after_eq_registerAll empty registrations
  have sorted : Increasing r.plugins := by
    rw [registered]
    exact increasing_registerAll .nil history
  have held (name : String) : r.get? name = Plugin.lastNamed? history name := by
    rw [registered, get?_registerAll]
    exact Option.or_none
  refine ⟨?_, fun p => held p.name, sorted, ?_, r.length_names, ?_, ?_⟩
  · intro name
    simp only [find?, held]
    cases Plugin.lastNamed? history name <;> rfl
  · intro name
    rw [mem_names_iff, held, Plugin.lastNamed?_isSome_iff]
  · intro p name changed
    exact eq_of_find?_register_ne changed
  · intro ps qs distinct same r₁ r₂
    have one (ps : List Plugin) : r.after (ps.map .plugin) = r.registerAll ps := by
      rw [after_eq_registerAll, List.flatMap_map]
      exact congrArg _ (List.flatMap_singleton' ps)
    simp only [r₁, r₂, one]
    exact registerAll_perm sorted distinct same

/-- A plugin with the bare name of a built-in service. -/
def bareDyndns : Plugin where
  name := "dyndns.org"
  updateServer := "update.example.net"

/-- The plugin that the empty name stands for. -/
def nameless : Plugin where
  name := "default@"
  updateServer := "update.example.org"

theorem after_eq_history_bareDyndns :
    let r := empty.after [.plugin bareDyndns, .builtin]
    let other : Plugin := { bareDyndns with updateServer := "update.example.com" }
    r.find? "dyndns.org" = some bareDyndns ∧ r.find? "" = none ∧
      (r.install other).value.2 = some bareDyndns ∧
      (r.after [.plugin other, .plugin nameless]).find? =
        (r.after [.plugin nameless, .plugin other]).find? := by
  intro r other
  obtain ⟨answers, replaced, -, -, -, -, anyOrder⟩ := after_eq_history [.plugin bareDyndns, .builtin]
  refine ⟨?_, ?_, ?_, ?_⟩
  · rw [answers]
    decide +kernel
  · rw [answers]
    decide +kernel
  · rw [replaced]
    decide +kernel
  · exact (anyOrder [other, nameless] [nameless, other] (by decide +kernel) (.swap _ _ _)).1

end PluginRegistry

end DynamicDns
