/-! # Bounded texts and lists

Texts of at most so many bytes and lists of at most so many items. Nothing is
cut: a text fits or is refused, an item is taken in or handed back.
-/

namespace DynamicDns

structure Overflow where
  size : Nat
  capacity : Nat
  deriving Repr, DecidableEq

def Overflow.message (o : Overflow) : String :=
  s!"{o.size} bytes exceeds capacity of {o.capacity}"

/-- A text of at most `capacity` bytes in UTF-8. -/
structure BoundedString (capacity : Nat) where
  text : String
  size_le : text.utf8ByteSize ≤ capacity
  deriving DecidableEq

namespace BoundedString

variable {capacity : Nat}

/-- Take a text in if it fits. -/
def ofString (capacity : Nat) (text : String) : Except Overflow (BoundedString capacity) :=
  if h : text.utf8ByteSize ≤ capacity then .ok ⟨text, h⟩
  else .error ⟨text.utf8ByteSize, capacity⟩

def size (s : BoundedString capacity) : Nat :=
  s.text.utf8ByteSize

instance : ToString (BoundedString capacity) := ⟨BoundedString.text⟩

instance : Repr (BoundedString capacity) := ⟨fun s => reprPrec s.text⟩

/-- Bounded texts are ordered as their texts, by code points. -/
instance : Ord (BoundedString capacity) := ⟨fun s t => compare s.text t.text⟩

theorem ofString_eq_ok {text : String} (h : text.utf8ByteSize ≤ capacity) :
    ofString capacity text = .ok ⟨text, h⟩ := by
  simp [ofString, h]

theorem text_of_ofString {text : String} {s : BoundedString capacity}
    (taken : ofString capacity text = .ok s) : s.text = text := by
  unfold ofString at taken
  split at taken <;> cases taken
  rfl

theorem ofString_eq_error {text : String} (h : capacity < text.utf8ByteSize) :
    ofString capacity text = .error ⟨text.utf8ByteSize, capacity⟩ := by
  simp [ofString, Nat.not_le.2 h]

end BoundedString

/-- What becomes of an item offered to a bounded list. -/
inductive Admission (α : Type) where
  /-- The item is now the last one. -/
  | accepted
  /-- The list was full; the item is handed back. -/
  | full (item : α)
  deriving Repr, DecidableEq

/-- At most `capacity` items in the order in which they came. -/
structure BoundedList (α : Type) (capacity : Nat) where
  /-- The items, oldest first. -/
  items : List α
  length_le : items.length ≤ capacity
  deriving DecidableEq

namespace BoundedList

variable {α : Type} {capacity : Nat}

def empty : BoundedList α capacity := ⟨[], Nat.zero_le _⟩

instance : Inhabited (BoundedList α capacity) := ⟨empty⟩

instance [Repr α] : Repr (BoundedList α capacity) := ⟨fun l => reprPrec l.items⟩

def length (l : BoundedList α capacity) : Nat := l.items.length

def isEmpty (l : BoundedList α capacity) : Bool := l.items.isEmpty

/-- Offer one item: it is appended unless the list is full. -/
def push (l : BoundedList α capacity) (item : α) : BoundedList α capacity × Admission α :=
  if h : l.items.length < capacity then
    (⟨l.items ++ [item], by rw [List.length_append]; exact h⟩, .accepted)
  else (l, .full item)

/-- Offer items in turn. The number is that of the items handed back. -/
def extend (l : BoundedList α capacity) : List α → BoundedList α capacity × Nat
  | [] => (l, 0)
  | item :: rest =>
    match l.push item with
    | (l', .accepted) => l'.extend rest
    | (l', .full _) => let (l'', dropped) := l'.extend rest; (l'', dropped + 1)

/-- Of the items offered, those that there is room for are taken in, from the first one on. -/
theorem items_extend (l : BoundedList α capacity) (items : List α) :
    (l.extend items).1.items = l.items ++ items.take (capacity - l.items.length) := by
  induction items generalizing l with
  | nil => simp [extend]
  | cons item rest ih =>
      by_cases room : l.items.length < capacity
      · have next : capacity - l.items.length = capacity - (l.items.length + 1) + 1 := by omega
        simp only [extend, push, dif_pos room, ih, List.length_append, List.length_singleton, next,
          List.take_succ_cons, List.append_assoc, List.singleton_append]
      · have none : capacity - l.items.length = 0 := by omega
        simp only [extend, push, dif_neg room, ih, none, List.take_zero]

/-- The items that there is no room for are counted. -/
theorem dropped_extend (l : BoundedList α capacity) (items : List α) :
    (l.extend items).2 = items.length - (capacity - l.items.length) := by
  induction items generalizing l with
  | nil => simp [extend]
  | cons item rest ih =>
      by_cases room : l.items.length < capacity
      · simp only [extend, push, dif_pos room, ih, List.length_append, List.length_cons,
          List.length_nil]
        omega
      · simp only [extend, push, dif_neg room, ih, List.length_cons]
        omega

/-- Items may be offered in parts. -/
theorem extend_append (l : BoundedList α capacity) (first second : List α) :
    l.extend (first ++ second) =
      let (l', dropped) := l.extend first
      let (l'', more) := l'.extend second
      (l'', dropped + more) := by
  induction first generalizing l with
  | nil => simp [extend]
  | cons item rest ih =>
      by_cases room : l.items.length < capacity
      · simp only [List.cons_append, extend, push, dif_pos room, ih]
      · simp only [List.cons_append, extend, push, dif_neg room, ih, Nat.add_right_comm]

end BoundedList

end DynamicDns
