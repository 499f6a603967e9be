import DynamicDns.Plugin.Builtin

/-! # Lookups in a registry of plugins

A registry holds only plugins that were registered in it. The plugin that
answers to a name has this very name, or is the default plugin of the service
that the name stands for.
-/

namespace DynamicDns.PluginRegistry

theorem mem_of_mem_insertSorted {p q : Plugin} {plugins : List Plugin}
    (member : q ∈ insertSorted p plugins) : q = p ∨ q ∈ plugins := by
  induction plugins with
  | nil => exact .inl (List.mem_singleton.mp member)
  | cons first rest ih =>
      unfold insertSorted at member
      split at member
      · exact List.mem_cons.mp member
      · split at member
        · rcases List.mem_cons.mp member with rfl | later
          · exact .inl rfl
          · exact .inr (List.mem_cons_of_mem first later)
        · rcases List.mem_cons.mp member with rfl | later
          · exact .inr List.mem_cons_self
          · exact (ih later).imp_right (List.mem_cons_of_mem first)

theorem mem_of_mem_registerAll {r : PluginRegistry} {ps : List Plugin} {q : Plugin}
    (member : q ∈ (r.registerAll ps).plugins) : q ∈ ps ∨ q ∈ r.plugins := by
  induction ps generalizing r with
  | nil => exact .inr member
  | cons p rest ih =>
      rcases ih (r := (r.register p).1) member with later | earlier
      · exact .inl (List.mem_cons_of_mem p later)
      · rcases mem_of_mem_insertSorted earlier with rfl | before
        · exact .inl List.mem_cons_self
        · exact .inr before

theorem mem_of_get? {r : PluginRegistry} {name : String} {p : Plugin}
    (found : r.get? name = some p) : p ∈ r.plugins ∧ p.name = name :=
  ⟨List.mem_of_find?_eq_some found, by simpa using List.find?_some found⟩

theorem mem_of_find? {r : PluginRegistry} {name : String} {p : Plugin}
    (found : r.find? name = some p) :
    p ∈ r.plugins ∧ (p.name = name ∨ p.name = Plugin.defaultMark ++ name) := by
  unfold find? at found
  split at found
  · rename_i q exact
    cases found
    exact ⟨(mem_of_get? exact).1, .inl (mem_of_get? exact).2⟩
  · split at found
    · cases found
    · exact ⟨(mem_of_get? found).1, .inr (mem_of_get? found).2⟩

end DynamicDns.PluginRegistry
