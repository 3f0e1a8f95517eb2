import CrossShade.Error

/-!
# Slot arrays

A fixed number of slots, each with a value, and the smallest run of slots that holds every slot
written with another value since the run was last handed out.  Writes come in runs of their own; one
that ends beyond the last slot is refused as a whole.
-/

namespace CrossShade

/-- The slots from `start` up to but not including `stop`. -/
structure Span where
  start : Nat
  stop : Nat
  deriving Repr, DecidableEq

namespace Span

/-- The span of one slot. -/
def single (slot : Nat) : Span :=
  ⟨slot, slot + 1⟩

/-- The smallest span that holds a span, if there is one, and a slot. -/
def cover (span : Option Span) (slot : Nat) : Span :=
  match span with
  | none => single slot
  | some span => ⟨min span.start slot, max span.stop (slot + 1)⟩

/-- Whether a slot is in a span. -/
def Holds (span : Span) (slot : Nat) : Prop :=
  span.start ≤ slot ∧ slot < span.stop

theorem holds_cover_self (span : Option Span) (slot : Nat) : (cover span slot).Holds slot := by
  cases span <;> simp only [cover, single, Holds] <;> omega

theorem holds_cover {span : Span} {other : Nat} (h : span.Holds other) (slot : Nat) :
    (cover (some span) slot).Holds other := by
  simp only [cover, Holds] at *
  omega

end Span

/-- Slots with values, and the span of those that changed. -/
structure SlotArray (α : Type) where
  /-- What the slots hold, for messages. -/
  group : String
  slots : List α
  dirty : Option Span
  deriving Repr, DecidableEq

namespace SlotArray

variable {α : Type}

/-- Slots that all hold one value and all count as changed. -/
def new (group : String) (capacity : Nat) (value : α) : SlotArray α :=
  ⟨group, List.replicate capacity value, if capacity = 0 then none else some ⟨0, capacity⟩⟩

/-- The number of slots. -/
def capacity (array : SlotArray α) : Nat :=
  array.slots.length

/-- The value of a slot. -/
def get? (array : SlotArray α) (slot : Nat) : Option α :=
  array.slots[slot]?

/-- Writes one slot; only another value is a change. -/
def put [DecidableEq α] (array : SlotArray α) (slot : Nat) (value : α) : SlotArray α :=
  match array.slots[slot]? with
  | none => array
  | some present =>
    if present = value then array
    else { array with
      slots := array.slots.set slot value
      dirty := some (Span.cover array.dirty slot) }

/-- Writes slots one after the other. -/
def putAll [DecidableEq α] (array : SlotArray α) (first : Nat) : List α → SlotArray α
  | [] => array
  | value :: rest => (array.put first value).putAll (first + 1) rest

/-- The greatest slot number there can be. -/
def greatestSlot : Nat :=
  UInt64.size - 1

/-- Writes a run of slots that ends within the capacity.  The end of a run is never told as more
than the greatest slot number. -/
def setRange [DecidableEq α] (array : SlotArray α) (first : Nat) (values : List α) :
    Except ContextError (SlotArray α) :=
  let stop := min (first + values.length) greatestSlot
  if array.capacity < stop then .error (.slotOutOfRange array.group stop array.capacity)
  else .ok (array.putAll first values)

/-- Writes one slot within the capacity. -/
def set [DecidableEq α] (array : SlotArray α) (slot : Nat) (value : α) :
    Except ContextError (SlotArray α) :=
  array.setRange slot [value]

/-- The values of a span. -/
def valuesOf (array : SlotArray α) (span : Span) : List α :=
  (array.slots.drop span.start).take (span.stop - span.start)

/-- The first of the slots that changed, and their values. -/
def pending (array : SlotArray α) : Option (Nat × List α) :=
  array.dirty.map fun span => (span.start, array.valuesOf span)

/-- The same values with no slot changed. -/
def markClean (array : SlotArray α) : SlotArray α :=
  { array with dirty := none }

/-- The slots that changed, and the array with no slot changed. -/
def consume (array : SlotArray α) : Option (Nat × List α) × SlotArray α :=
  (array.pending, array.markClean)

@[simp] theorem pending_markClean (array : SlotArray α) : array.markClean.pending = none := rfl

@[simp] theorem capacity_put [DecidableEq α] (array : SlotArray α) (slot : Nat) (value : α) :
    (array.put slot value).capacity = array.capacity := by
  unfold put capacity
  split
  · rfl
  · split <;> simp

@[simp] theorem capacity_putAll [DecidableEq α] (array : SlotArray α) (first : Nat)
    (values : List α) : (array.putAll first values).capacity = array.capacity := by
  induction values generalizing array first with
  | nil => rfl
  | cons value rest ih => simp [putAll, ih]

/-- A write changes the slot it names, if there is one, and no other. -/
theorem get?_put [DecidableEq α] (array : SlotArray α) (slot other : Nat) (value : α) :
    (array.put slot value).get? other =
      if other = slot then (array.get? slot).map fun _ => value else array.get? other := by
  simp only [put, get?]
  split
  · split <;> simp_all
  · split
    · split <;> simp_all
    · simp only [List.getElem?_set]
      split <;> split <;> simp_all

end SlotArray

end CrossShade
