import CrossShade.Error

/-!
# Tracked values

A value, or a list of values, with a mark that says whether it changed since it was last handed out.
Giving it the value it already has leaves the mark alone.  A new one is marked, so that whatever it
starts with is handed out too.
-/

namespace CrossShade

/-- A value and whether it changed. -/
structure Tracked (α : Type) where
  value : α
  dirty : Bool := true
  deriving Repr, DecidableEq

namespace Tracked

variable {α : Type}

/-- Gives a value, which is a change if it is another than the present one. -/
def set [BEq α] (tracked : Tracked α) (value : α) : Tracked α :=
  if tracked.value == value then tracked else ⟨value, true⟩

/-- The value, if it changed. -/
def pending (tracked : Tracked α) : Option α :=
  if tracked.dirty then some tracked.value else none

/-- The same value without the mark. -/
def markClean (tracked : Tracked α) : Tracked α :=
  { tracked with dirty := false }

/-- The value if it changed, and the value without the mark. -/
def consume (tracked : Tracked α) : Option α × Tracked α :=
  (tracked.pending, tracked.markClean)

@[simp] theorem pending_markClean (tracked : Tracked α) : tracked.markClean.pending = none := rfl

@[simp] theorem value_markClean (tracked : Tracked α) : tracked.markClean.value = tracked.value :=
  rfl

theorem set_self [BEq α] [ReflBEq α] (tracked : Tracked α) :
    tracked.set tracked.value = tracked := by
  simp [set]

theorem value_set [BEq α] [LawfulBEq α] (tracked : Tracked α) (value : α) :
    (tracked.set value).value = value := by
  unfold set
  split
  · simp_all
  · rfl

end Tracked

/-- A list of values that is always given as a whole, and whether it changed. -/
structure TrackedList (α : Type) where
  /-- What the values are, for messages. -/
  group : String
  capacity : Nat
  values : List α := []
  dirty : Bool := true
  deriving Repr, DecidableEq

namespace TrackedList

variable {α : Type}

/-- Gives all values at once; there may be no more than the capacity. -/
def set [BEq α] (list : TrackedList α) (values : List α) :
    Except ContextError (TrackedList α) :=
  if list.capacity < values.length then
    .error (.slotOutOfRange list.group values.length list.capacity)
  else if list.values == values then .ok list
  else .ok { list with values, dirty := true }

/-- The values, if they changed. -/
def pending (list : TrackedList α) : Option (List α) :=
  if list.dirty then some list.values else none

/-- The same values without the mark. -/
def markClean (list : TrackedList α) : TrackedList α :=
  { list with dirty := false }

/-- The values if they changed, and the list without the mark. -/
def consume (list : TrackedList α) : Option (List α) × TrackedList α :=
  (list.pending, list.markClean)

@[simp] theorem pending_markClean (list : TrackedList α) : list.markClean.pending = none := rfl

@[simp] theorem values_markClean (list : TrackedList α) : list.markClean.values = list.values := rfl

end TrackedList

end CrossShade
