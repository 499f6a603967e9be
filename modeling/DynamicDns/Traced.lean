import DynamicDns.Event

/-! # Traced values

Values with the record of how they came about: the plugins that were asked for
and the events, both in order. Work on a list of sections is done item by item,
and each item is told how many plugins were asked for before it.
-/

namespace DynamicDns

/-- A value with what happened on the way to it. -/
structure Traced (α : Type) where
  value : α
  /-- Names of the plugins asked for. -/
  lookups : List String := []
  events : List Event := []
  deriving Repr, DecidableEq

namespace Traced

variable {α β : Type}

instance : Monad Traced where
  pure a := { value := a }
  bind x f :=
    let y := f x.value
    { value := y.value, lookups := x.lookups ++ y.lookups, events := x.events ++ y.events }

def emit (event : Event) : Traced Unit := { value := (), events := [event] }

def emitIf (condition : Prop) [Decidable condition] (event : Event) : Traced Unit :=
  if condition then emit event else pure ()

/-- Handle items in turn. Each is told how many plugins were asked for earlier, counting from
    `earlier` for the first one. -/
def each (handle : Nat → α → Traced β) : Nat → List α → Traced (List β)
  | _, [] => pure []
  | earlier, item :: rest => do
    let first := handle earlier item
    let b ← first
    let others ← each handle (earlier + first.lookups.length) rest
    return b :: others

@[simp] theorem value_pure (a : α) : (pure a : Traced α).value = a := rfl

@[simp] theorem lookups_pure (a : α) : (pure a : Traced α).lookups = [] := rfl

@[simp] theorem events_pure (a : α) : (pure a : Traced α).events = [] := rfl

@[simp] theorem value_bind (x : Traced α) (f : α → Traced β) :
    (x >>= f).value = (f x.value).value := rfl

@[simp] theorem lookups_bind (x : Traced α) (f : α → Traced β) :
    (x >>= f).lookups = x.lookups ++ (f x.value).lookups := rfl

@[simp] theorem events_bind (x : Traced α) (f : α → Traced β) :
    (x >>= f).events = x.events ++ (f x.value).events := rfl

@[simp] theorem lookups_emitIf (condition : Prop) [Decidable condition] (event : Event) :
    (emitIf condition event).lookups = [] := by
  unfold emitIf
  split <;> rfl

theorem bind_pure_id (x : Traced α) : (x >>= fun a => pure a) = x := by
  simp only [bind, pure, List.append_nil]

instance : LawfulMonad Traced :=
  LawfulMonad.mk' Traced bind_pure_id (fun _ _ => rfl)
    (fun _ _ _ => by simp only [bind, List.append_assoc])

end Traced

end DynamicDns
