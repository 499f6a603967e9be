import DynamicDns.Schema

/-! # The value that fails a document

A document that does not fit fails for one of its values. It is found by a search
that follows the order of reading: options as they are written, the elements of
an array in turn, and in a custom section its own options before the shared ones.
-/

namespace DynamicDns.Schema

open Toml

def misfitOf {α : Type} : Except Misfit α → Option Misfit
  | .ok _ => none
  | .error misfit => some misfit

section Folds

variable {α β γ : Type}

@[simp] theorem misfitOf_ok (a : α) : misfitOf (.ok a) = none := rfl

@[simp] theorem misfitOf_error (misfit : Misfit) :
    misfitOf (.error misfit : Except Misfit α) = some misfit := rfl

theorem misfitOf_bind (outcome : Except Misfit α) (next : α → Except Misfit β)
    {later : Option Misfit} (rest : ∀ a, misfitOf (next a) = later) :
    misfitOf (outcome >>= next) = (misfitOf outcome).or later := by
  cases outcome with
  | error misfit => rfl
  | ok a => exact rest a

/-- What is made of a result does not matter. -/
theorem misfitOf_bind_ok (outcome : Except Misfit α) (f : α → β) :
    misfitOf (outcome >>= fun a => pure (f a)) = misfitOf outcome := by
  cases outcome <;> rfl

theorem misfitOf_mapM {read : α → Except Misfit β} {search : α → Option γ} {why : γ → Misfit}
    (each : ∀ item, misfitOf (read item) = (search item).map why) (items : List α) :
    misfitOf (items.mapM read) = (items.findSome? search).map why := by
  induction items with
  | nil => rfl
  | cons item rest ih =>
      rw [List.mapM_cons, List.findSome?_cons]
      rw [misfitOf_bind _ _ fun b => misfitOf_bind_ok (rest.mapM read) (b :: ·), each, ih]
      cases search item <;> rfl

theorem misfitOf_foldlM {set : α → β → Except Misfit α} {search : β → Option γ}
    {why : γ → Misfit} (each : ∀ a item, misfitOf (set a item) = (search item).map why) (a : α)
    (items : List β) : misfitOf (items.foldlM set a) = (items.findSome? search).map why := by
  induction items generalizing a with
  | nil => rfl
  | cons item rest ih =>
      rw [List.foldlM_cons, misfitOf_bind _ _ ih, each, List.findSome?_cons]
      cases search item <;> rfl

end Folds

/-! ## The search -/

/-- A value that does not fit, and the option that it is given for. -/
structure Offender where
  option : String
  value : Value
  misfit : Misfit

/-- The value of an option, if its reading failed. -/
def offender? {α : Type} (option : String) (value : Value) (outcome : Except Misfit α) :
    Option Offender :=
  (misfitOf outcome).map (⟨option, value, ·⟩)

/-- The value, if it is given for a shared option and does not fit. -/
def sharedOffender? (option : String) (place : Span) (value : Value) : Option Offender :=
  offender? option value (setShared {} option place value)

def ownOffender? (option : String) (place : Span) (value : Value) : Option Offender :=
  offender? option value (setOwn {} option place value)

/-- The first value that does not fit in an element of the provider sections. -/
def providerOffender? (place : Span) : Value → Option Offender
  | .table _ entries => entries.findSome? fun (option, place, value) =>
    sharedOffender? option place value
  | .array _ items => (positions.zip items).findSome? fun (option, itemPlace, value) =>
    sharedOffender? option (if option ∈ ["hostname", "alias"] then place else itemPlace) value
  | value => offender? "provider" value (readProvider place value)

def customOffender? (place : Span) : Value → Option Offender
  | .table _ entries =>
    (entries.findSome? fun (option, place, value) => ownOffender? option place value).or <|
      entries.findSome? fun (option, _, value) => sharedOffender? option place value
  | value => offender? "custom" value (readCustom place value)

def sectionsOffender? (option : String) (search : Span → Value → Option Offender) (place : Span) :
    Value → Option Offender
  | .array _ items => items.findSome? fun (place, value) => search place value
  | value => offender? option value (readItems place value)

/-- The value of a global option, or the first value that does not fit in its sections. -/
def globalOffender? (option : String) (place : Span) (value : Value) : Option Offender :=
  match option with
  | "provider" => sectionsOffender? option providerOffender? place value
  | "custom" => sectionsOffender? option customOffender? place value
  | _ => offender? option value (setGlobal {} option place value)

/-- The first value of a document that does not fit. -/
def firstOffender? (document : Entries) : Option Offender :=
  document.findSome? fun (option, place, value) => globalOffender? option place value

/-! ## What it finds -/

theorem misfit_offender? {α : Type} (option : String) (value : Value) (outcome : Except Misfit α) :
    (offender? option value outcome).map Offender.misfit = misfitOf outcome := by
  cases outcome <;> rfl

theorem misfitOf_setShared (s : ProviderSection) (option : String) (place : Span) (value : Value) :
    misfitOf (setShared s option place value) =
      (sharedOffender? option place value).map Offender.misfit := by
  rw [sharedOffender?, misfit_offender?]
  unfold setShared
  split <;> first | rfl | exact (misfitOf_bind_ok _ _).trans (misfitOf_bind_ok _ _).symm

theorem misfitOf_setOwn (s : CustomSection) (option : String) (place : Span) (value : Value) :
    misfitOf (setOwn s option place value) =
      (ownOffender? option place value).map Offender.misfit := by
  rw [ownOffender?, misfit_offender?]
  unfold setOwn
  split <;> first | rfl | exact (misfitOf_bind_ok _ _).trans (misfitOf_bind_ok _ _).symm

theorem misfitOf_readProvider (place : Span) (value : Value) :
    misfitOf (readProvider place value) = (providerOffender? place value).map Offender.misfit := by
  cases value with
  | table form entries =>
      exact misfitOf_foldlM (fun s entry => misfitOf_setShared s entry.1 entry.2.1 entry.2.2) {} entries
  | array form items =>
      exact misfitOf_foldlM (fun s entry => misfitOf_setShared s entry.1 _ entry.2.2) {}
        (positions.zip items)
  | _ => exact (misfit_offender? _ _ _).symm

theorem misfitOf_readCustom (place : Span) (value : Value) :
    misfitOf (readCustom place value) = (customOffender? place value).map Offender.misfit := by
  cases value with
  | table form entries =>
      have own := misfitOf_foldlM (fun s entry => misfitOf_setOwn s entry.1 entry.2.1 entry.2.2) {}
        entries
      have shared := misfitOf_foldlM
        (fun s entry => misfitOf_setShared s entry.1 place entry.2.2) {} entries
      rw [readCustom, readCustomTable, customOffender?, Option.map_or]
      rw [misfitOf_bind _ _ fun _ => misfitOf_bind_ok _ _]
      rw [← own, ← shared]
  | _ => exact (misfit_offender? _ _ _).symm

theorem misfitOf_sections {α β : Type} {option : String}
    {search : Span → Value → Option Offender} {read : Span → Value → Except Misfit α}
    (each : ∀ place value, misfitOf (read place value) = (search place value).map Offender.misfit)
    (place : Span) (value : Value) (f : List α → β) :
    misfitOf (do
      let items ← readItems place value
      let sections ← items.mapM fun (place, value) => read place value
      return f sections) = (sectionsOffender? option search place value).map Offender.misfit := by
  cases value with
  | array form items =>
      have elements := misfitOf_mapM (fun item : Span × Value => each item.1 item.2) items
      exact (misfitOf_bind_ok _ f).trans elements
  | _ => rfl

theorem misfitOf_setGlobal (c : Config) (option : String) (place : Span) (value : Value) :
    misfitOf (setGlobal c option place value) =
      (globalOffender? option place value).map Offender.misfit := by
  unfold globalOffender?
  split
  · exact misfitOf_sections misfitOf_readProvider place value _
  · exact misfitOf_sections misfitOf_readCustom place value _
  · rename_i notProvider notCustom
    rw [misfit_offender?]
    unfold setGlobal
    split
    all_goals first
      | exact (misfitOf_bind_ok _ _).trans (misfitOf_bind_ok _ _).symm
      | exact absurd rfl notProvider
      | exact absurd rfl notCustom
      | rfl

/-- A document fails for the value that the search finds, and is read if there is none. -/
theorem misfitOf_ofDocument (document : Entries) :
    misfitOf (Config.ofDocument document) = (firstOffender? document).map Offender.misfit :=
  misfitOf_foldlM (fun c entry => misfitOf_setGlobal c entry.1 entry.2.1 entry.2.2) {} document

end DynamicDns.Schema
