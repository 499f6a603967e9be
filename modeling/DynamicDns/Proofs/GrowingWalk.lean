import DynamicDns.Plugin.Builtin
import DynamicDns.Proofs.CursorCalls
import DynamicDns.Proofs.LoadOutcome
import Mathlib.Data.List.Chain
import Mathlib.Data.List.Infix
import Mathlib.Data.List.Induction

/-! # Walks through a growing registry

A cursor at the end stands on the number of records that there were. Records
that come later fall behind it: the next advance goes past the first of them, and
if there is a second one, it is told that. So a walk is in order exactly when, of
the records that come between the end and the next advance, there is at most one.
-/

namespace DynamicDns

/-- What happens to a registry and to one cursor on it. -/
inductive WalkStep where
  | iterate (reset : Bool)
  /-- Build a record and append it. If it is refused, nothing is appended. -/
  | create (find : String → Option Plugin) (s : Section)

structure Visit where
  size : Nat
  position : Option Nat
  answer : Option ProviderRecord
  deriving Repr, DecidableEq

theorem ProviderRegistry.records_create (registry : ProviderRegistry)
    (find : String → Option Plugin) (s : Section) :
    ∃ more, (registry.create find s).value.1.records = registry.records ++ more := by
  rw [value_create]
  cases (ProviderRecord.build find s).value with
  | error e => exact ⟨[], (List.append_nil _).symm⟩
  | ok record => exact ⟨[record], rfl⟩

namespace Visit

/-- Index of the record that was told. -/
def index? (v : Visit) : Option Nat := v.answer.bind fun _ => v.position

/-- After the end nothing more was told. -/
def StaysAtEnd (visits : List Visit) : Prop :=
  visits.Pairwise fun earlier later => earlier.answer = none → later.answer = none

/-- The visits told the first records in their order, each once, and after the end nothing. -/
structure InOrder (records : List ProviderRecord) (visits : List Visit) : Prop where
  told : visits.filterMap answer <+: records
  indices : visits.filterMap index? = List.range (visits.filterMap answer).length
  ended : StaysAtEnd visits

/-- Whenever the end was told, at most one record came before the next visit. -/
def SlowAtEnd (visits : List Visit) : Prop :=
  visits.IsChain fun earlier later => earlier.answer = none → later.size ≤ earlier.size + 1

variable {records : List ProviderRecord} {visits : List Visit}

theorem staysAtEnd_append {v : Visit} : StaysAtEnd (visits ++ [v]) ↔
    StaysAtEnd visits ∧ ∀ earlier ∈ visits, earlier.answer = none → v.answer = none := by
  simp only [StaysAtEnd, List.pairwise_append, List.pairwise_singleton, List.mem_singleton,
    forall_eq, true_and]

theorem slowAtEnd_append {last v : Visit} : SlowAtEnd (visits ++ [last] ++ [v]) ↔
    SlowAtEnd (visits ++ [last]) ∧ (last.answer = none → v.size ≤ last.size + 1) := by
  unfold SlowAtEnd
  rw [List.isChain_append]
  simp

theorem InOrder.nil : InOrder records [] :=
  ⟨List.nil_prefix, rfl, .nil⟩

theorem InOrder.grow {more : List ProviderRecord} (ordered : InOrder records visits) :
    InOrder (records ++ more) visits :=
  ⟨ordered.told.trans (List.prefix_append records more), ordered.indices, ordered.ended⟩

/-- The end may be told at any time. -/
theorem InOrder.finish {v : Visit} (ordered : InOrder records visits) (silent : v.answer = none) :
    InOrder records (visits ++ [v]) := by
  have nothing : visits.filterMap answer ++ [v].filterMap answer = visits.filterMap answer := by
    simp [silent]
  refine ⟨?_, ?_, ?_⟩
  · rw [List.filterMap_append, nothing]
    exact ordered.told
  · rw [List.filterMap_append, List.filterMap_append, nothing, ← ordered.indices]
    simp [index?, silent]
  · exact staysAtEnd_append.mpr ⟨ordered.ended, fun _ _ _ => silent⟩

/-- As long as the end was not told, the next record may be. -/
theorem InOrder.tell {v : Visit} {record : ProviderRecord} (ordered : InOrder records visits)
    (going : ∀ earlier ∈ visits, earlier.answer ≠ none) (answered : v.answer = some record)
    (place : v.position = some (visits.filterMap answer).length)
    (next : records[(visits.filterMap answer).length]? = some record) :
    InOrder records (visits ++ [v]) := by
  have indexed : v.index? = some (visits.filterMap answer).length := by
    rw [index?, answered, Option.bind_some, place]
  refine ⟨?_, ?_, ?_⟩
  · obtain ⟨rest, split⟩ := ordered.told
    rw [← split, List.getElem?_append_right (Nat.le_refl _), Nat.sub_self] at next
    cases rest with
    | nil => cases next
    | cons first rest =>
        cases next
        refine ⟨rest, ?_⟩
        rw [← split, List.filterMap_append]
        simp [answered]
  · simp [List.filterMap_append, answered, indexed, ordered.indices, List.range_succ]
  · refine staysAtEnd_append.mpr ⟨ordered.ended, ?_⟩
    intro earlier member silent
    exact absurd silent (going earlier member)

/-- While records are told, the last one is at the index that they were told up to. -/
theorem InOrder.last_told {last : Visit} {record : ProviderRecord} {p : Nat}
    (ordered : InOrder records (visits ++ [last])) (answered : last.answer = some record)
    (place : last.position = some p) :
    (∀ v ∈ visits ++ [last], v.answer ≠ none) ∧
      ((visits ++ [last]).filterMap answer).length = p + 1 := by
  constructor
  · intro v member silent
    rcases List.mem_append.mp member with earlier | isLast
    · have ended := (staysAtEnd_append.mp ordered.ended).2 v earlier silent
      rw [answered] at ended
      cases ended
    · rw [List.mem_singleton.mp isLast, answered] at silent
      cases silent
  · have indices := ordered.indices
    simp only [List.filterMap_append, List.filterMap_cons, answered, List.filterMap_nil,
      List.length_append, List.length_singleton, List.range_succ, index?, Option.bind_some,
      place] at indices ⊢
    rw [(List.cons.inj (List.append_inj_right' indices rfl)).1]

end Visit

structure Walk where
  registry : ProviderRegistry
  cursor : Cursor
  /-- The visits since the cursor was last rewound, oldest first. -/
  visits : List Visit := []
  deriving Repr, DecidableEq

namespace Walk

open Visit

def visit (w : Walk) (reset : Bool) : Visit :=
  let (cursor, answer) := w.registry.iterate w.cursor reset
  ⟨w.registry.size, cursor.position, answer⟩

/-- The walk after a step. A rewind starts the list of visits, which no advance does. -/
def perform (w : Walk) : WalkStep → Walk
  | .iterate reset => { w with
      cursor := (w.registry.iterate w.cursor reset).1
      visits := if reset then [w.visit true]
        else if w.visits.isEmpty then [] else w.visits ++ [w.visit false] }
  | .create find s => { w with registry := (w.registry.create find s).value.1 }

/-- The walk after some steps, from any registry and cursor. -/
def after (registry : ProviderRegistry) (cursor : Cursor) (steps : List WalkStep) : Walk :=
  steps.foldl perform { registry, cursor }

/-- A move leads to the record that the cursor is sent to, and if there is none, to the end. -/
theorem visit_eq {w : Walk} {reset : Bool} {index : Nat} (aim : w.cursor.target? reset = some index) :
    (∃ record, w.registry.records[index]? = some record ∧
      w.visit reset = ⟨w.registry.size, some index, some record⟩) ∨
    (w.registry.size ≤ index ∧
      w.visit reset = ⟨w.registry.size, some w.registry.size, none⟩) := by
  have moved : w.visit reset =
      ⟨w.registry.size, some (min index w.registry.size), w.registry.records[index]?⟩ := by
    simp [visit, w.registry.iterate_eq, aim]
  by_cases within : index < w.registry.size
  · left
    have next : w.registry.records[index]? = some w.registry.records[index] :=
      List.getElem?_eq_getElem within
    refine ⟨_, next, ?_⟩
    rw [moved, Nat.min_eq_left (Nat.le_of_lt within), next]
  · right
    have beyond := Nat.le_of_not_lt within
    refine ⟨beyond, ?_⟩
    rw [moved, Nat.min_eq_right beyond, List.getElem?_eq_none beyond]

/-- What the last visit knows of the cursor. -/
structure Tracked (w : Walk) (last : Visit) : Prop where
  place : w.cursor.position = last.position
  positioned : last.position ≠ none
  ended : last.answer = none → last.position = some last.size

theorem tracked_visit {w : Walk} {reset : Bool} {index : Nat}
    (aim : w.cursor.target? reset = some index) :
    Tracked (w.perform (.iterate reset)) (w.visit reset) := by
  refine ⟨rfl, ?_, ?_⟩
  all_goals
    rcases visit_eq aim with ⟨record, _, moved⟩ | ⟨_, moved⟩
    · simp [moved]
    · simp [moved]

namespace Tracked

variable {w : Walk} {last : Visit}

theorem exists_target (tracked : w.Tracked last) :
    ∃ p, last.position = some p ∧ w.cursor.target? false = some (p + 1) := by
  obtain ⟨p, stands⟩ := Option.ne_none_iff_exists'.mp tracked.positioned
  refine ⟨p, stands, ?_⟩
  simp [Cursor.target?, tracked.place, stands]

/-- A cursor at the end is told nothing more if at most one record was appended. -/
theorem answer_eq_none_iff (tracked : w.Tracked last) (silent : last.answer = none) :
    (w.visit false).answer = none ↔ (w.visit false).size ≤ last.size + 1 := by
  obtain ⟨p, stands, aim⟩ := tracked.exists_target
  have atEnd : p = last.size := by
    rw [tracked.ended silent] at stands
    exact (Option.some.inj stands).symm
  rcases visit_eq aim with ⟨record, next, moved⟩ | ⟨beyond, moved⟩
  · have within : p + 1 < w.registry.size := (List.getElem?_eq_some_iff.mp next).1
    simp only [moved, reduceCtorEq, false_iff]
    omega
  · simp only [moved, true_iff]
    omega

theorem inOrder_advance {earlier : List Visit} (tracked : w.Tracked last)
    (ordered : InOrder w.registry.records (earlier ++ [last]))
    (few : last.answer = none → (w.visit false).size ≤ last.size + 1) :
    InOrder w.registry.records (earlier ++ [last] ++ [w.visit false]) := by
  cases answered : last.answer with
  | none => exact ordered.finish ((tracked.answer_eq_none_iff answered).mpr (few answered))
  | some told =>
      obtain ⟨p, stands, aim⟩ := tracked.exists_target
      obtain ⟨going, index⟩ := ordered.last_told answered stands
      rcases visit_eq aim with ⟨record, next, moved⟩ | ⟨_, moved⟩
      · exact ordered.tell going (by rw [moved]) (by rw [moved, index]) (by rw [index]; exact next)
      · exact ordered.finish (by rw [moved])

end Tracked

/-- What every walk keeps. The visits are in order as long as they are slow at the end, and once
    they are not, something was told after the end. -/
structure Kept (w : Walk) : Prop where
  tracked : ∀ last ∈ w.visits.getLast?, w.Tracked last
  inOrder : SlowAtEnd w.visits → InOrder w.registry.records w.visits
  slow : StaysAtEnd w.visits → SlowAtEnd w.visits

namespace Kept

theorem start (registry : ProviderRegistry) (cursor : Cursor) : Kept { registry, cursor } :=
  ⟨by simp, fun _ => .nil, fun _ => .nil⟩

theorem create {w : Walk} (kept : Kept w) (find : String → Option Plugin) (s : Section) :
    Kept (w.perform (.create find s)) := by
  obtain ⟨more, appended⟩ := w.registry.records_create find s
  refine ⟨?_, ?_, kept.slow⟩
  · intro last isLast
    obtain ⟨place, positioned, ended⟩ := kept.tracked last isLast
    exact ⟨place, positioned, ended⟩
  · intro slow
    simp only [perform, appended]
    exact (kept.inOrder slow).grow

theorem rewind (w : Walk) : Kept (w.perform (.iterate true)) := by
  have aim : w.cursor.target? true = some 0 := rfl
  refine ⟨?_, fun _ => ?_, fun _ => List.isChain_singleton _⟩
  · intro last isLast
    cases isLast
    exact tracked_visit aim
  · rcases visit_eq aim with ⟨record, first, moved⟩ | ⟨_, moved⟩
    · exact InOrder.nil.tell (by simp) (by rw [moved]) (by rw [moved]; rfl) first
    · exact InOrder.nil.finish (by rw [moved])

theorem advance {w : Walk} (kept : Kept w) : Kept (w.perform (.iterate false)) := by
  rcases List.eq_nil_or_concat' w.visits with none | ⟨earlier, last, visits⟩
  · have nothing : (w.perform (.iterate false)).visits = [] := by simp [perform, none]
    exact ⟨by simp [nothing], fun _ => nothing ▸ .nil, fun _ => nothing ▸ .nil⟩
  · have further : (w.perform (.iterate false)).visits = earlier ++ [last] ++ [w.visit false] := by
      simp [perform, visits]
    have tracked : w.Tracked last := kept.tracked last (by simp [visits])
    have inOrder := kept.inOrder
    have slow := kept.slow
    rw [visits] at inOrder slow
    refine ⟨?_, ?_, ?_⟩ <;> rw [further]
    · intro v isLast
      rw [List.getLast?_concat] at isLast
      cases isLast
      obtain ⟨p, -, aim⟩ := tracked.exists_target
      exact tracked_visit aim
    · intro slowly
      obtain ⟨before, few⟩ := slowAtEnd_append.mp slowly
      exact tracked.inOrder_advance (inOrder before) few
    · intro stays
      obtain ⟨before, still⟩ := staysAtEnd_append.mp stays
      refine slowAtEnd_append.mpr ⟨slow before, fun silent => ?_⟩
      exact (tracked.answer_eq_none_iff silent).mp (still last (by simp) silent)

theorem perform {w : Walk} (kept : Kept w) (step : WalkStep) : Kept (w.perform step) := by
  cases step with
  | iterate reset =>
      cases reset with
      | true => exact rewind w
      | false => exact kept.advance
  | create find s => exact kept.create find s

end Kept

theorem kept_after (registry : ProviderRegistry) (cursor : Cursor) (steps : List WalkStep) :
    Kept (after registry cursor steps) := by
  induction steps using List.reverseRecOn with
  | nil => exact .start registry cursor
  | append_singleton steps step ih =>
      rw [after, List.foldl_append]
      exact ih.perform step

/-- The visits since the last rewind tell the first records in order, and nothing after the end,
    exactly when between the end and the next visit there was never more than one new record. -/
theorem inOrder_iff_slowAtEnd (registry : ProviderRegistry) (cursor : Cursor)
    (steps : List WalkStep) :
    let w := after registry cursor steps
    InOrder w.registry.records w.visits ↔ SlowAtEnd w.visits := by
  have kept := kept_after registry cursor steps
  exact ⟨fun ordered => kept.slow ordered.ended, kept.inOrder⟩

/-- A section for a service that is known by its title. -/
def titled (service : String) : Section :=
  .provider {
    name := some service, username := some "u", password := some "p", hostname := ["h.example.org"] }

/-- One record is walked to the end, and two more come before the next advance. -/
def twoAtEnd : List WalkStep := [
  .create PluginRegistry.builtin.find? (titled "dyndns.org"),
  .iterate true,
  .iterate false,
  .create PluginRegistry.builtin.find? (titled "no-ip.com"),
  .create PluginRegistry.builtin.find? (titled "duckdns.org"),
  .iterate false]

/-- The last advance is told the third record, after the end and without the second one. -/
theorem not_inOrder_twoAtEnd :
    let w := after .empty {} twoAtEnd
    w.visits.map (fun v => v.answer.map ProviderRecord.name) =
        [some "dyndns.org", none, some "duckdns.org"] ∧
      ¬ InOrder w.registry.records w.visits := by
  refine ⟨by decide +kernel, ?_⟩
  intro ordered
  have indices := ordered.indices
  revert indices
  decide +kernel

end Walk

end DynamicDns
