import DynamicDns.Bounded
import Mathlib.Algebra.GroupWithZero.Nat

/-! # Offers to bounded lists

Items are offered to a bounded list one by one or many at once, in any mix. An
item offered by itself comes back if there is no room; of many items only the
number of those without room does. Measured against a plain list of all that was
ever offered, a bounded list has the first items of it, as many as it can hold,
and what came back accounts for all others.
-/

namespace DynamicDns

/-- A way of offering items to a list. -/
inductive Offer (α : Type) where
  | one (item : α)
  | many (items : List α)
  deriving Repr, DecidableEq

/-- What comes back for an offer. -/
inductive Reply (α : Type) where
  | admission (admission : Admission α)
  /-- The number of items without room. -/
  | dropped (count : Nat)
  deriving Repr, DecidableEq

def Offer.items {α : Type} : Offer α → List α
  | .one item => [item]
  | .many items => items

/-- Number of items that an answer tells were not taken in. -/
def Reply.refused {α : Type} : Reply α → Nat
  | .admission .accepted => 0
  | .admission (.full _) => 1
  | .dropped count => count

/-- An offer with the list before and after it, and with what came back. -/
structure Transfer (α : Type) (capacity : Nat) where
  before : BoundedList α capacity
  offer : Offer α
  reply : Reply α
  after : BoundedList α capacity

namespace Transfer

variable {α : Type} {capacity : Nat}

/-- An item by itself is appended, or it comes back and the list stays as it was, which happens just
    if the list is full. Of many items those with room are appended and the others are counted. -/
def Accounts (t : Transfer α capacity) : Prop :=
  match t.offer with
  | .one item =>
    (t.before.length < capacity ∧ t.reply = .admission .accepted ∧
      t.after.items = t.before.items ++ [item]) ∨
    (t.before.length = capacity ∧ t.reply = .admission (.full item) ∧ t.after = t.before)
  | .many items =>
    t.reply = .dropped (items.length - (capacity - t.before.length)) ∧
      t.after.items = t.before.items ++ items.take (capacity - t.before.length)

end Transfer

namespace BoundedList

variable {α : Type} {capacity : Nat}

/-! ## One offer -/

/-- Make an offer. Beside the list it gives what comes back. -/
def answer (l : BoundedList α capacity) : Offer α → BoundedList α capacity × Reply α
  | .one item => let (l', admission) := l.push item; (l', .admission admission)
  | .many items => let (l', dropped) := l.extend items; (l', .dropped dropped)

def transfer (l : BoundedList α capacity) (offer : Offer α) : Transfer α capacity where
  before := l
  offer := offer
  reply := (l.answer offer).2
  after := (l.answer offer).1

theorem push_eq_extend (l : BoundedList α capacity) (item : α) :
    (l.push item).1 = (l.extend [item]).1 ∧
      (Reply.admission (l.push item).2).refused = (l.extend [item]).2 := by
  by_cases room : l.items.length < capacity
  · simp [extend, push, room, Reply.refused]
  · simp [extend, push, room, Reply.refused]

/-- Either way of offering takes in what there is room for, and tells how many items it leaves. -/
theorem transfer_eq_extend (l : BoundedList α capacity) (offer : Offer α) :
    (l.transfer offer).after = (l.extend offer.items).1 ∧
      (l.transfer offer).reply.refused = (l.extend offer.items).2 := by
  cases offer with
  | one item => exact l.push_eq_extend item
  | many items => exact ⟨rfl, rfl⟩

theorem transfer_accounts (l : BoundedList α capacity) (offer : Offer α) :
    (l.transfer offer).Accounts := by
  cases offer with
  | one item =>
      by_cases room : l.items.length < capacity
      · left
        simp [transfer, answer, push, room, length]
      · right
        have full : l.items.length = capacity := Nat.le_antisymm l.length_le (Nat.not_lt.mp room)
        simp [transfer, answer, push, length, full]
  | many items => exact ⟨congrArg Reply.dropped (l.dropped_extend items), l.items_extend items⟩

/-! ## Offers in turn -/

/-- The list after some offers. -/
def afterOffers (l : BoundedList α capacity) : List (Offer α) → BoundedList α capacity
  | [] => l
  | offer :: rest => (l.transfer offer).after.afterOffers rest

/-- What happened offer by offer. -/
def transfers (l : BoundedList α capacity) : List (Offer α) → List (Transfer α capacity)
  | [] => []
  | offer :: rest => l.transfer offer :: (l.transfer offer).after.transfers rest

theorem accounts_of_mem_transfers (l : BoundedList α capacity) (offers : List (Offer α)) :
    ∀ t ∈ l.transfers offers, t.Accounts := by
  induction offers generalizing l with
  | nil => simp [transfers]
  | cons offer rest ih =>
      rw [transfers, List.forall_mem_cons]
      exact ⟨l.transfer_accounts offer, ih _⟩

/-- Offers in turn, in any mix, come to one offer of all their items. -/
theorem afterOffers_eq_extend (l : BoundedList α capacity) (offers : List (Offer α)) :
    l.afterOffers offers = (l.extend (offers.flatMap Offer.items)).1 ∧
      ((l.transfers offers).map (·.reply.refused)).sum =
        (l.extend (offers.flatMap Offer.items)).2 := by
  -- Each offer meets the list that the one before it left, so this is shown for every list.
  induction offers generalizing l with
  | nil => exact ⟨rfl, rfl⟩
  | cons offer rest ih =>
      obtain ⟨after, refused⟩ := l.transfer_eq_extend offer
      obtain ⟨last, others⟩ := ih (l.extend offer.items).1
      simp only [afterOffers, transfers, List.map_cons, List.sum_cons, List.flatMap_cons,
        extend_append, last, others, after, refused, and_self]

/-- Whatever is offered to a new list, in any mix, it has the first of all items offered, as many as
    it can hold. An item that does not find room comes back as it is and leaves the list as it was.
    What came back is in number what was offered and is not in the list. To offer items in parts
    comes to the same list as to offer them at once, and to the same number. -/
theorem keeps_first_offered (capacity : Nat) (offers : List (Offer α)) :
    let offered := offers.flatMap Offer.items
    let transfers := (empty : BoundedList α capacity).transfers offers
    let last := (empty : BoundedList α capacity).afterOffers offers
    last.items = offered.take capacity ∧
    (∀ t ∈ transfers, t.Accounts) ∧
    (transfers.map (·.reply.refused)).sum + last.length = offered.length ∧
    ∀ first second, last.extend (first ++ second) =
      let (next, dropped) := last.extend first
      let (final, more) := next.extend second
      (final, dropped + more) := by
  intro offered transfers last
  obtain ⟨all, refused⟩ := (empty : BoundedList α capacity).afterOffers_eq_extend offers
  have kept : last.items = offered.take capacity := calc
    last.items = ((empty : BoundedList α capacity).extend offered).1.items := congrArg items all
    _ = [] ++ offered.take (capacity - 0) := items_extend empty offered
    _ = offered.take capacity := List.nil_append _
  refine ⟨kept, accounts_of_mem_transfers _ offers, ?_, last.extend_append⟩
  have length : last.length = min capacity offered.length := by
    rw [BoundedList.length, kept, List.length_take]
  have dropped : (transfers.map (·.reply.refused)).sum = offered.length - capacity := by
    rw [refused, dropped_extend]
    rfl
  omega

example : ((empty : BoundedList Nat 2).afterOffers [.one 1, .many [2, 3], .one 4]).items = [1, 2] :=
  rfl

end BoundedList

end DynamicDns
