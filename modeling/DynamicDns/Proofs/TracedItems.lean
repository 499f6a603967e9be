import DynamicDns.Traced
import Mathlib.Data.List.Forall2

/-! # Items in turn

Lists that are handled item by item, where each item is told how many plugins
were asked for before it. Parts of a list are handled one after the other. What
an item is told matters only to handlers that make use of it; and if every item
asks for one plugin, it is told its own place in the list.
-/

namespace DynamicDns.Traced

variable {α β γ : Type}

theorem each_append (handle : Nat → α → Traced β) (earlier : Nat) (items others : List α) :
    each handle earlier (items ++ others) = do
      let first ← each handle earlier items
      let second ← each handle (earlier + (each handle earlier items).lookups.length) others
      return first ++ second := by
  induction items generalizing earlier with
  | nil => simp [each]
  | cons item rest ih =>
      simp only [List.cons_append, each, ih, bind_assoc, pure_bind, lookups_bind, lookups_pure,
        List.append_nil, List.length_append, Nat.add_assoc]

theorem each_map (handle : Nat → β → Traced γ) (f : α → β) (earlier : Nat) (items : List α) :
    each handle earlier (items.map f) =
      each (fun earlier a => handle earlier (f a)) earlier items := by
  induction items generalizing earlier with
  | nil => rfl
  | cons item rest ih => simp only [List.map_cons, each, ih]

/-- What is done to every result can be done at the end. -/
theorem each_bind_pure (handle : Nat → α → Traced β) (f : β → γ) (earlier : Nat) (items : List α) :
    each (fun earlier a => do return f (← handle earlier a)) earlier items = do
      return (← each handle earlier items).map f := by
  induction items generalizing earlier with
  | nil => rfl
  | cons item rest ih =>
      simp only [each, ih, bind_assoc, pure_bind, lookups_bind, lookups_pure, List.append_nil,
        List.map_cons]

/-- Each result is that of its item, whatever the item was told. -/
theorem forall₂_each (handle : Nat → α → Traced β) (earlier : Nat) (items : List α) :
    List.Forall₂ (fun a b => ∃ told, b = (handle told a).value) items
      (each handle earlier items).value := by
  induction items generalizing earlier with
  | nil => exact .nil
  | cons item rest ih => exact .cons ⟨earlier, rfl⟩ (ih _)

theorem value_each (handle : α → Traced β) (earlier : Nat) (items : List α) :
    (each (fun _ => handle) earlier items).value = items.map fun a => (handle a).value := by
  induction items generalizing earlier with
  | nil => rfl
  | cons item rest ih => simp only [each, value_bind, value_pure, ih, List.map_cons]

theorem forall_events_each {P : Event → Prop} {handle : Nat → α → Traced β}
    (handled : ∀ earlier a, ∀ event ∈ (handle earlier a).events, P event) (earlier : Nat)
    (items : List α) : ∀ event ∈ (each handle earlier items).events, P event := by
  induction items generalizing earlier with
  | nil => simp [each]
  | cons item rest ih =>
      simp only [each, events_bind, events_pure, List.append_nil, List.forall_mem_append]
      exact ⟨handled earlier item, ih _⟩

section Asking

variable {handle : Nat → α → Traced β} {asks : α → Option String}

theorem lookups_each (asking : ∀ earlier a, (handle earlier a).lookups = (asks a).toList)
    (earlier : Nat) (items : List α) :
    (each handle earlier items).lookups = items.filterMap asks := by
  induction items generalizing earlier with
  | nil => rfl
  | cons item rest ih =>
      simp only [each, lookups_bind, lookups_pure, List.append_nil, asking, ih]
      cases asked : asks item <;> simp [asked]

/-- If every item asks for a plugin, each is told its own place. -/
theorem value_each_of_asking (asking : ∀ earlier a, (handle earlier a).lookups = (asks a).toList)
    (earlier : Nat) {items : List α} (all : ∀ a ∈ items, asks a ≠ none) :
    (each handle earlier items).value =
      (items.zipIdx earlier).map fun (a, i) => (handle i a).value := by
  induction items generalizing earlier with
  | nil => rfl
  | cons item rest ih =>
      obtain ⟨name, asked⟩ := Option.ne_none_iff_exists'.mp (all item List.mem_cons_self)
      have one : (handle earlier item).lookups.length = 1 := by simp [asking, asked]
      have later := ih (earlier + 1) fun a member => all a (List.mem_cons_of_mem _ member)
      simp only [each, value_bind, value_pure, one, later, List.zipIdx_cons, List.map_cons]

end Asking

end DynamicDns.Traced
