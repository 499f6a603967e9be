import DynamicDns.Registry
import Mathlib.Data.List.Induction
import Mathlib.Logic.Function.Basic

/-! # Cursors on a registry that stays as it is

Any number of cursors may walk the same registry, and a cursor may be copied in
the middle of its walk. Where a cursor stands is a matter of its own moves alone,
with those of the cursor that it was copied from before them: it has advanced so
many times since it was last rewound, up to the end, where it stays.
-/

namespace DynamicDns

/-- The index that a cursor is sent to by a move: the first one, or the one after its own. -/
def Cursor.target? (cursor : Cursor) (reset : Bool) : Option Nat :=
  if reset then some 0 else cursor.position.map (· + 1)

namespace ProviderRegistry

/-- There is no record at the end, so that stopping there answers like going on. -/
theorem getElem?_min_size (r : ProviderRegistry) (index : Nat) :
    r.records[min index r.size]? = r.records[index]? := by
  by_cases within : index ≤ r.size
  · rw [Nat.min_eq_left within]
  · have beyond := Nat.le_of_not_le within
    rw [Nat.min_eq_right beyond, List.getElem?_eq_none beyond,
      List.getElem?_eq_none (Nat.le_refl r.size)]

/-- A cursor goes where it is sent to, but no further than the end. -/
theorem iterate_eq (r : ProviderRegistry) (cursor : Cursor) (reset : Bool) :
    r.iterate cursor reset =
      (⟨(cursor.target? reset).map (min · r.size)⟩,
        (cursor.target? reset).bind (r.records[·]?)) := by
  cases reset with
  | true => simp [iterate, Cursor.target?]
  | false =>
      obtain ⟨position⟩ := cursor
      cases position with
      | none => rfl
      | some current => simp [iterate, Cursor.target?, r.getElem?_min_size]

end ProviderRegistry

/-- What callers do with their cursors, each known by a name. -/
inductive CursorCall (ι : Type) where
  | fresh (cursor : ι)
  /-- Make `target` a copy of `source`. -/
  | copy (source target : ι)
  | iterate (cursor : ι) (reset : Bool)

namespace CursorCall

variable {ι : Type} [DecidableEq ι]

def perform (r : ProviderRegistry) (cursors : ι → Cursor) : CursorCall ι → ι → Cursor
  | .fresh i => Function.update cursors i {}
  | .copy i j => Function.update cursors j (cursors i)
  | .iterate i reset => Function.update cursors i (r.iterate (cursors i) reset).1

/-- The cursors after some calls. All of them are new at first. -/
def cursorsAfter (r : ProviderRegistry) (calls : List (CursorCall ι)) : ι → Cursor :=
  calls.foldl (perform r) fun _ => {}

/-- The moves of each cursor after a call, `true` for a rewind. A copy takes over those of its
    source. -/
def note (moves : ι → List Bool) : CursorCall ι → ι → List Bool
  | .fresh i => Function.update moves i []
  | .copy i j => Function.update moves j (moves i)
  | .iterate i reset => Function.update moves i (moves i ++ [reset])

/-- The moves of each cursor in some calls. No record and no other cursor has a part in them. -/
def movesIn (calls : List (CursorCall ι)) : ι → List Bool :=
  calls.foldl note fun _ => []

/-- One more move, on the number of advances since the last rewind. -/
def count (advances : Option Nat) (reset : Bool) : Option Nat :=
  if reset then some 0 else advances.map (· + 1)

/-- Number of advances since the last rewind, if there was one. -/
def advances (moves : List Bool) : Option Nat := moves.foldl count none

/-- Where that many advances lead to. -/
def place (r : ProviderRegistry) (advances : Option Nat) : Cursor :=
  ⟨advances.map (min · r.size)⟩

theorem advances_append (moves : List Bool) (reset : Bool) :
    advances (moves ++ [reset]) = count (advances moves) reset := by
  simp only [advances, List.foldl_append, List.foldl_cons, List.foldl_nil]

/-- One move of a cursor that stands where its advances lead to. -/
theorem iterate_place (r : ProviderRegistry) (advances : Option Nat) (reset : Bool) :
    r.iterate (place r advances) reset =
      (place r (count advances reset), (count advances reset).bind (r.records[·]?)) := by
  rw [r.iterate_eq]
  cases reset with
  | true => rfl
  | false =>
      cases advances with
      | none => rfl
      | some k =>
          have next : min (min k r.size + 1) r.size = min (k + 1) r.size := by omega
          have told : r.records[min k r.size + 1]? = r.records[k + 1]? := by
            rw [← r.getElem?_min_size, next, r.getElem?_min_size]
          simp [place, count, Cursor.target?, next, told]

theorem cursorsAfter_append (r : ProviderRegistry) (calls : List (CursorCall ι))
    (call : CursorCall ι) :
    cursorsAfter r (calls ++ [call]) = call.perform r (cursorsAfter r calls) := by
  simp only [cursorsAfter, List.foldl_append, List.foldl_cons, List.foldl_nil]

theorem movesIn_append (calls : List (CursorCall ι)) (call : CursorCall ι) :
    movesIn (calls ++ [call]) = call.note (movesIn calls) := by
  simp only [movesIn, List.foldl_append, List.foldl_cons, List.foldl_nil]

theorem perform_place (r : ProviderRegistry) (call : CursorCall ι) (moves : ι → List Bool) :
    call.perform r (fun i => place r (advances (moves i))) =
      fun i => place r (advances (call.note moves i)) := by
  funext j
  cases call with
  | fresh i =>
      simp only [perform, note, Function.update_apply]
      split <;> rfl
  | copy i i' =>
      simp only [perform, note, Function.update_apply]
      split <;> rfl
  | iterate i reset =>
      simp only [perform, note, Function.update_apply, iterate_place]
      split
      · rw [advances_append]
      · rfl

/-- Every cursor stands where its own moves lead to. -/
theorem cursorsAfter_eq_place (r : ProviderRegistry) (calls : List (CursorCall ι)) :
    cursorsAfter r calls = fun i => place r (advances (movesIn calls i)) := by
  induction calls using List.reverseRecOn with
  | nil => rfl
  | append_singleton calls call ih =>
      rw [cursorsAfter_append, ih, perform_place, movesIn_append]

/-- Whatever has been done with any cursors, the next answer to one of them is given by its own
    moves. A cursor never rewound is told nothing and stays nowhere. After a rewind and `k` advances
    it is told the record at `k`, which is nothing from the end on, and stands there or at the
    end. -/
theorem iterate_cursorsAfter (r : ProviderRegistry) (calls : List (CursorCall ι)) (i : ι)
    (reset : Bool) :
    let answered := r.iterate (cursorsAfter r calls i) reset
    match advances (movesIn calls i ++ [reset]) with
    | none => answered.2 = none ∧ answered.1.position = none
    | some k => answered.2 = r.records[k]? ∧ answered.1.position = some (min k r.size) := by
  simp only [cursorsAfter_eq_place, iterate_place, advances_append]
  cases count (advances (movesIn calls i)) reset with
  | none => exact ⟨rfl, rfl⟩
  | some k => exact ⟨rfl, rfl⟩

end CursorCall

end DynamicDns
