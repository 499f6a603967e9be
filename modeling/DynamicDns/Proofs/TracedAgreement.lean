import DynamicDns.Proofs.RecordMerge
import Mathlib.Data.List.Forall2

/-! # Two computations side by side

Two traced computations agree if they ask for the same plugins and come to
related values. Their events may be the same as well, or only under a condition.
Agreement goes through each operation of the monad, so that two runs of one
program agree as soon as its steps do.
-/

namespace DynamicDns

variable {α β γ δ : Type} {logged : Prop}

/-- The computations ask for the same plugins, come to values that `R` relates, and in case of
    `logged` have the same events. -/
structure Traced.Agree (logged : Prop) (R : α → β → Prop) (x : Traced α) (y : Traced β) : Prop where
  value : R x.value y.value
  lookups : x.lookups = y.lookups
  events : logged → x.events = y.events

namespace Traced.Agree

variable {R : α → β → Prop} {S : γ → δ → Prop}

theorem refl (x : Traced α) : Agree logged Eq x x :=
  ⟨rfl, rfl, fun _ => rfl⟩

theorem pure {a : α} {b : β} (related : R a b) :
    Agree logged R (Pure.pure a : Traced α) (Pure.pure b : Traced β) :=
  ⟨related, rfl, fun _ => rfl⟩

theorem bind {x : Traced α} {y : Traced β} {f : α → Traced γ} {g : β → Traced δ}
    (first : Agree logged R x y) (second : ∀ a b, R a b → Agree logged S (f a) (g b)) :
    Agree logged S (x >>= f) (y >>= g) := by
  have next := second _ _ first.value
  refine ⟨next.value, ?_, ?_⟩
  · rw [lookups_bind, lookups_bind, first.lookups, next.lookups]
  · intro shown
    rw [events_bind, events_bind, first.events shown, next.events shown]

/-- Related items, handled in the same way, have related results. -/
theorem each {f : Nat → α → Traced γ} {g : Nat → β → Traced δ} {items : List α} {others : List β}
    (related : List.Forall₂ R items others)
    (handled : ∀ earlier a b, R a b → Agree logged S (f earlier a) (g earlier b)) (earlier : Nat) :
    Agree logged (List.Forall₂ S) (Traced.each f earlier items)
      (Traced.each g earlier others) := by
  induction related generalizing earlier with
  | nil => exact .pure .nil
  | @cons a b _ _ head tail ih =>
      have first := handled earlier a b head
      refine first.bind fun c d result => ?_
      rw [first.lookups]
      exact (ih _).bind fun _ _ rest => .pure (.cons result rest)

end Traced.Agree

/-- Both computations are refused for the same reason, or both have results that `R` relates. -/
inductive SameOutcome {ε : Type} (R : α → β → Prop) : Except ε α → Except ε β → Prop where
  | ok {a : α} {b : β} (related : R a b) : SameOutcome R (.ok a) (.ok b)
  | error (e : ε) : SameOutcome R (.error e) (.error e)

theorem SameOutcome.exists_ok {ε : Type} {R : α → β → Prop} {a : α} {outcome : Except ε β}
    (same : SameOutcome R (.ok a) outcome) : ∃ b, outcome = .ok b ∧ R a b := by
  cases same with
  | ok related => exact ⟨_, rfl, related⟩

/-- Builds agree if they are refused for the same reason or have related results. -/
abbrev Building.Agree (logged : Prop) (R : α → β → Prop) (x : Building α) (y : Building β) : Prop :=
  Traced.Agree logged (SameOutcome R) x.run y.run

namespace Building.Agree

variable {R : α → β → Prop} {S : γ → δ → Prop}

theorem pure {a : α} {b : β} (related : R a b) :
    Building.Agree logged R (Pure.pure a : Building α) (Pure.pure b : Building β) :=
  Traced.Agree.pure (.ok related)

theorem lift {x : Traced α} {y : Traced β} (agree : Traced.Agree logged R x y) :
    Building.Agree logged R (liftM x : Building α) (liftM y : Building β) :=
  agree.bind fun _ _ related => .pure (.ok related)

theorem bind {x : Building α} {y : Building β} {f : α → Building γ} {g : β → Building δ}
    (first : Building.Agree logged R x y)
    (second : ∀ a b, R a b → Building.Agree logged S (f a) (g b)) :
    Building.Agree logged S (x >>= f) (y >>= g) := by
  refine Traced.Agree.bind first fun a b same => ?_
  cases same with
  | ok related => exact second _ _ related
  | error e => exact .pure (.error e)

/-- One computation, with whatever follows. -/
theorem refl_bind {x : Building α} {f : α → Building γ} {g : α → Building δ}
    (second : ∀ a, Building.Agree logged S (f a) (g a)) :
    Building.Agree logged S (x >>= f) (x >>= g) := by
  refine Traced.Agree.bind (.refl x.run) fun a b same => ?_
  subst same
  cases a with
  | ok a => exact second a
  | error e => exact .pure (.error e)

end Building.Agree

theorem exists_of_mem_right {R : α → β → Prop} {items : List α} {others : List β}
    {b : β} (related : List.Forall₂ R items others) (member : b ∈ others) : ∃ a ∈ items, R a b := by
  induction related with
  | nil => cases member
  | cons head tail ih =>
      rcases List.mem_cons.mp member with rfl | later
      · exact ⟨_, List.mem_cons_self, head⟩
      · obtain ⟨a, listed, holds⟩ := ih later
        exact ⟨a, List.mem_cons_of_mem _ listed, holds⟩

theorem exists_of_mem_left {R : α → β → Prop} {items : List α} {others : List β}
    {a : α} (related : List.Forall₂ R items others) (member : a ∈ items) : ∃ b ∈ others, R a b :=
  exists_of_mem_right (R := flip R) (List.Forall₂.flip related) member

/-- Related items stay related with their numbers. -/
theorem forall₂_zipIdx {R : α → β → Prop} {items : List α} {others : List β}
    (related : List.Forall₂ R items others) (start : Nat) :
    List.Forall₂ (fun a b => R a.1 b.1 ∧ a.2 = b.2) (items.zipIdx start) (others.zipIdx start) := by
  induction related generalizing start with
  | nil => exact .nil
  | cons head tail ih => exact .cons ⟨head, rfl⟩ (ih (start + 1))

theorem filterMap_eq_of_forall₂ {R : α → β → Prop} {f : α → Option γ} {g : β → Option γ}
    {items : List α} {others : List β} (related : List.Forall₂ R items others)
    (same : ∀ a b, R a b → f a = g b) : items.filterMap f = others.filterMap g := by
  induction related with
  | nil => rfl
  | cons head tail ih => rw [List.filterMap_cons, List.filterMap_cons, same _ _ head, ih]

theorem map_eq_of_forall₂ {R : α → β → Prop} {f : α → γ} {g : β → γ} {items : List α}
    {others : List β} (related : List.Forall₂ R items others) (same : ∀ a b, R a b → f a = g b) :
    items.map f = others.map g := by
  simp only [← List.filterMap_eq_map]
  exact filterMap_eq_of_forall₂ related fun a b r => congrArg some (same a b r)

end DynamicDns
