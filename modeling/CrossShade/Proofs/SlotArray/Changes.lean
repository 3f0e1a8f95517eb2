import Mathlib.Data.List.DropRight
import CrossShade.Proofs.Pipeline.Settled

/-!
# What waits in a slot array

The span of an array through any sequence of calls.

* `Span.IsHull` says that a span is the smallest one that holds every slot of a kind.
* `Call` is a call on an array and `afterAll` what a sequence of them leaves; `untilClean` are those
  up to the last one that left no slot changed.
* `isHull_setRange` is the step: a write adds the slots that it changes.  `isHull_afterAll` is the
  run: the span is the smallest one that holds the slots changed since then.
-/

namespace CrossShade

/-! ## Smallest spans -/

namespace Span

variable {span : Option Span} {changed other : Nat → Prop}

/-- The smallest span that holds every slot of a kind; without such slots there is none. -/
def IsHull (span : Option Span) (changed : Nat → Prop) : Prop :=
  match span with
  | none => ∀ slot, ¬ changed slot
  | some span =>
    changed span.start ∧ changed (span.stop - 1) ∧ ∀ slot, changed slot → span.Holds slot

theorem IsHull.congr (h : IsHull span changed) (hsame : ∀ slot, changed slot ↔ other slot) :
    IsHull span other := by
  have hext : changed = other := funext fun slot => propext (hsame slot)
  exact hext ▸ h

theorem IsHull.start_lt_stop {span : Span} (h : IsHull (some span) changed) :
    span.start < span.stop := by
  obtain ⟨hstart, -, hholds⟩ := h
  exact (hholds _ hstart).2

/-- Any other span that holds the slots holds this one. -/
theorem IsHull.least {span wider : Span} (h : IsHull (some span) changed)
    (hwider : ∀ slot, changed slot → wider.Holds slot) :
    wider.start ≤ span.start ∧ span.stop ≤ wider.stop := by
  have hlt := h.start_lt_stop
  obtain ⟨hstart, hlast, -⟩ := h
  have hfirst := hwider _ hstart
  have hend := hwider _ hlast
  unfold Holds at hfirst hend
  omega

theorem IsHull.exists_holds {slot : Nat} (h : IsHull span changed) (hslot : changed slot) :
    ∃ found, span = some found ∧ found.Holds slot := by
  cases span with
  | none => exact absurd hslot (h slot)
  | some found => exact ⟨found, rfl, h.2.2 slot hslot⟩

theorem isHull_cover (h : IsHull span changed) (slot : Nat) :
    IsHull (some (cover span slot)) fun place => changed place ∨ place = slot := by
  cases span with
  | none =>
    refine ⟨.inr rfl, .inr (by simp [cover, single]), ?_⟩
    intro place hplace
    rcases hplace with hchanged | rfl
    · exact absurd hchanged (h place)
    · exact holds_cover_self none place
  | some span =>
    obtain ⟨hstart, hlast, hholds⟩ := h
    have hwithin := hholds _ hstart
    unfold Holds at hwithin
    refine ⟨?_, ?_, ?_⟩
    · show changed (min span.start slot) ∨ min span.start slot = slot
      rcases Nat.le_total span.start slot with hle | hle
      · rw [Nat.min_eq_left hle]
        exact .inl hstart
      · exact .inr (Nat.min_eq_right hle)
    · show changed (max span.stop (slot + 1) - 1) ∨ max span.stop (slot + 1) - 1 = slot
      rcases Nat.le_total span.stop (slot + 1) with hle | hle
      · rw [Nat.max_eq_right hle]
        exact .inr rfl
      · rw [Nat.max_eq_left hle]
        exact .inl hlast
    · intro place hplace
      rcases hplace with hchanged | rfl
      · exact holds_cover (hholds place hchanged) slot
      · exact holds_cover_self (some span) place

end Span

namespace SlotArray

variable {α : Type} {array : SlotArray α} {changed : Nat → Prop}

/-! ## New arrays and runs of values -/

@[simp] theorem capacity_new (group : String) (capacity : Nat) (value : α) :
    (new group capacity value).capacity = capacity :=
  List.length_replicate

theorem isHull_new (group : String) (capacity : Nat) (value : α) :
    Span.IsHull (new group capacity value).dirty (· < capacity) := by
  unfold new
  by_cases hzero : capacity = 0
  · rw [if_pos hzero, hzero]
    exact Nat.not_lt_zero
  · rw [if_neg hzero]
    refine ⟨Nat.pos_of_ne_zero hzero, by show capacity - 1 < capacity; omega, ?_⟩
    intro slot hslot
    exact ⟨Nat.zero_le slot, hslot⟩

/-- The values of the slots of a span, with the first of these slots. -/
structure IsRun (array : SlotArray α) (span : Span) (run : Nat × List α) : Prop where
  first : run.1 = span.start
  length : run.2.length = span.stop - span.start
  values : ∀ slot, span.Holds slot → run.2[slot - span.start]? = array.get? slot

theorem isRun_valuesOf {span : Span} (h : span.stop ≤ array.capacity) :
    array.IsRun span (span.start, array.valuesOf span) where
  first := rfl
  length := by
    unfold capacity at h
    simp only [valuesOf, List.length_take, List.length_drop]
    omega
  values slot hholds := getElem?_valuesOf array hholds

/-! ## One write -/

section Writes

variable [DecidableEq α]

theorem isHull_put (h : Span.IsHull array.dirty changed) (slot : Nat) (value : α) :
    Span.IsHull (array.put slot value).dirty fun place =>
      changed place ∨ (array.put slot value).get? place ≠ array.get? place := by
  unfold put
  split
  · exact h.congr fun place => by simp
  · rename_i present hpresent
    split
    · exact h.congr fun place => by simp
    · rename_i hne
      refine (Span.isHull_cover h slot).congr fun place => or_congr_right ?_
      simp only [get?, List.getElem?_set]
      obtain ⟨hlt, rfl⟩ := List.getElem?_eq_some_iff.mp hpresent
      by_cases hsame : place = slot
      · subst hsame
        simpa [hlt] using Ne.symm hne
      · simp [hsame, Ne.symm hsame]

theorem get?_putAll_of_lt {slot first : Nat} (h : slot < first) (array : SlotArray α)
    (values : List α) : (array.putAll first values).get? slot = array.get? slot := by
  induction values generalizing array first with
  | nil => rfl
  | cons value rest ih =>
    rw [putAll, ih (Nat.lt_succ_of_lt h), get?_put, if_neg (Nat.ne_of_lt h)]

/-- A run of writes within the capacity leaves its values in its slots and all others as they were.
-/
theorem get?_putAll (array : SlotArray α) {first : Nat} {values : List α}
    (hfits : first + values.length ≤ array.capacity) (slot : Nat) :
    (array.putAll first values).get? slot =
      if first ≤ slot ∧ slot < first + values.length then values[slot - first]?
      else array.get? slot := by
  induction values generalizing array first with
  | nil =>
    rw [if_neg (by simp)]
    rfl
  | cons value rest ih =>
    rw [List.length_cons] at hfits ⊢
    have hmore : first + 1 + rest.length ≤ (array.put first value).capacity := by
      rw [capacity_put]
      omega
    rw [putAll, ih _ hmore, get?_put]
    rcases Nat.lt_trichotomy slot first with hlt | rfl | hgt
    · rw [if_neg (by omega), if_neg (by omega), if_neg (by omega)]
    · have hslot : slot < array.slots.length := by
        unfold capacity at hfits
        omega
      rw [if_neg (by omega), if_pos rfl, if_pos (by omega), Nat.sub_self]
      simp [get?, hslot]
    · have hshift : slot - first = slot - (first + 1) + 1 := by omega
      rw [hshift, List.getElem?_cons_succ, if_neg (Nat.ne_of_gt hgt)]
      simp only [show first + 1 ≤ slot ↔ first ≤ slot by omega,
        show first + 1 + rest.length = first + (rest.length + 1) by omega]

/-- The slots that a run of writes changes are those that its writes change: no slot is written
twice. -/
theorem isHull_putAll (h : Span.IsHull array.dirty changed) (first : Nat) (values : List α) :
    Span.IsHull (array.putAll first values).dirty fun place =>
      changed place ∨ (array.putAll first values).get? place ≠ array.get? place := by
  induction values generalizing array first changed with
  | nil => exact h.congr fun place => by simp [putAll]
  | cons value rest ih =>
    refine (ih (isHull_put h first value) (first + 1)).congr fun place => ?_
    rw [putAll, or_assoc]
    refine or_congr_right ?_
    by_cases hplace : place < first + 1
    · rw [get?_putAll_of_lt hplace]
      simp
    · rw [get?_put array, if_neg (by omega)]
      simp

theorem isHull_setRange {first : Nat} {values : List α} {next : SlotArray α}
    (h : Span.IsHull array.dirty changed) (hset : array.setRange first values = .ok next) :
    Span.IsHull next.dirty fun place =>
      changed place ∨ next.get? place ≠ array.get? place := by
  rw [eq_putAll_of_setRange hset]
  exact isHull_putAll h first values

theorem capacity_setRange {first : Nat} {values : List α} {next : SlotArray α}
    (hset : array.setRange first values = .ok next) : next.capacity = array.capacity := by
  rw [eq_putAll_of_setRange hset]
  exact capacity_putAll array first values

end Writes

/-! ## Sequences of calls -/

/-- A call on an array of slots. -/
inductive Call (α : Type) where
  | set (slot : Nat) (value : α)
  | setRange (first : Nat) (values : List α)
  | pending
  | markClean
  | consume
  deriving Repr, DecidableEq

/-- Whether no slot counts as changed after a call. -/
def Call.cleans : Call α → Bool
  | set _ _ | setRange _ _ | pending => false
  | markClean | consume => true

/-- The calls up to the last one after which no slot counted as changed. -/
def untilClean (calls : List (Call α)) : List (Call α) :=
  calls.rdropWhile (!·.cleans)

/-- The calls after the last one after which no slot counted as changed. -/
def sinceClean (calls : List (Call α)) : List (Call α) :=
  calls.rtakeWhile (!·.cleans)

@[simp] theorem untilClean_nil : untilClean ([] : List (Call α)) = [] := rfl

@[simp] theorem sinceClean_nil : sinceClean ([] : List (Call α)) = [] := rfl

theorem untilClean_concat_of_cleans {call : Call α} (h : call.cleans = true)
    (calls : List (Call α)) : untilClean (calls ++ [call]) = calls ++ [call] :=
  List.rdropWhile_concat_neg _ _ _ (by simp [h])

theorem sinceClean_concat_of_cleans {call : Call α} (h : call.cleans = true)
    (calls : List (Call α)) : sinceClean (calls ++ [call]) = [] :=
  List.rtakeWhile_concat_neg _ _ _ (by simp [h])

theorem untilClean_concat {call : Call α} (h : call.cleans = false) (calls : List (Call α)) :
    untilClean (calls ++ [call]) = untilClean calls :=
  List.rdropWhile_concat_pos _ _ _ (by simp [h])

theorem sinceClean_concat {call : Call α} (h : call.cleans = false) (calls : List (Call α)) :
    sinceClean (calls ++ [call]) = sinceClean calls ++ [call] :=
  List.rtakeWhile_concat_pos _ _ _ (by simp [h])

theorem untilClean_append_sinceClean (calls : List (Call α)) :
    untilClean calls ++ sinceClean calls = calls :=
  List.rdropWhile_append_rtakeWhile

section Runs

variable [DecidableEq α] {calls : List (Call α)} {call : Call α}

/-- What a call leaves; one that is refused leaves the array as it is. -/
def after (array : SlotArray α) : Call α → SlotArray α
  | .set slot value => (array.set slot value).toOption.getD array
  | .setRange first values => (array.setRange first values).toOption.getD array
  | .pending => array
  | .markClean => array.markClean
  | .consume => array.consume.2

/-- What calls leave, one after the other. -/
def afterAll (array : SlotArray α) (calls : List (Call α)) : SlotArray α :=
  calls.foldl after array

/-- A slot that some call changed since no slot counted as changed.  A new array counts as changed
in all its slots. -/
def Changed (array : SlotArray α) (calls : List (Call α)) (slot : Nat) : Prop :=
  (untilClean calls = [] ∧ slot < array.capacity) ∨
    ∃ earlier call later, sinceClean calls = earlier ++ call :: later ∧
      (array.afterAll (untilClean calls ++ earlier ++ [call])).get? slot ≠
        (array.afterAll (untilClean calls ++ earlier)).get? slot

@[simp] theorem afterAll_nil (array : SlotArray α) : array.afterAll [] = array := rfl

@[simp] theorem afterAll_concat (array : SlotArray α) (calls : List (Call α)) (call : Call α) :
    array.afterAll (calls ++ [call]) = (array.afterAll calls).after call :=
  List.foldl_append

/-- A call after which slots still count as changed leaves the array or writes a run of slots. -/
theorem after_cases (array : SlotArray α) (h : call.cleans = false) :
    array.after call = array ∨
      ∃ first values, array.setRange first values = .ok (array.after call) := by
  have hwrite : ∀ first values,
      (array.setRange first values).toOption.getD array = array ∨
        array.setRange first values =
          .ok ((array.setRange first values).toOption.getD array) := by
    intro first values
    cases array.setRange first values with
    | error e => exact .inl rfl
    | ok next => exact .inr rfl
  cases call with
  | set slot value => exact (hwrite slot [value]).imp_right fun hset => ⟨slot, [value], hset⟩
  | setRange first values => exact (hwrite first values).imp_right fun hset => ⟨_, _, hset⟩
  | pending => exact .inl rfl
  | markClean => cases h
  | consume => cases h

theorem after_of_cleans (array : SlotArray α) (h : call.cleans = true) :
    array.after call = array.markClean := by
  cases call with
  | set slot value => cases h
  | setRange first values => cases h
  | pending => cases h
  | markClean => rfl
  | consume => rfl

@[simp] theorem capacity_after (array : SlotArray α) (call : Call α) :
    (array.after call).capacity = array.capacity := by
  cases hcall : call.cleans with
  | true =>
    rw [after_of_cleans array hcall]
    rfl
  | false =>
    rcases after_cases array hcall with hsame | ⟨first, values, hset⟩
    · rw [hsame]
    · exact capacity_setRange hset

@[simp] theorem capacity_afterAll (array : SlotArray α) (calls : List (Call α)) :
    (array.afterAll calls).capacity = array.capacity := by
  induction calls using List.reverseRecOn with
  | nil => rfl
  | append_singleton calls call ih => rw [afterAll_concat, capacity_after, ih]

theorem isHull_after (h : Span.IsHull array.dirty changed) (hcall : call.cleans = false) :
    Span.IsHull (array.after call).dirty fun slot =>
      changed slot ∨ (array.after call).get? slot ≠ array.get? slot := by
  rcases after_cases array hcall with hsame | ⟨first, values, hset⟩
  · rw [hsame]
    exact h.congr fun slot => by simp
  · exact isHull_setRange h hset

/-- No slot has changed after a call that leaves none changed. -/
theorem not_changed_append (h : call.cleans = true) (slot : Nat) :
    ¬ array.Changed (calls ++ [call]) slot := by
  intro hchanged
  rcases hchanged with ⟨hnil, -⟩ | ⟨earlier, other, later, hcalls, -⟩
  · simp [untilClean_concat_of_cleans h] at hnil
  · simp [sinceClean_concat_of_cleans h] at hcalls

theorem changed_append_iff (h : call.cleans = false) (slot : Nat) :
    array.Changed (calls ++ [call]) slot ↔
      array.Changed calls slot ∨
        ((array.afterAll calls).after call).get? slot ≠ (array.afterAll calls).get? slot := by
  unfold Changed
  rw [untilClean_concat h, sinceClean_concat h, or_assoc]
  refine or_congr_right ?_
  constructor
  · intro hchanged
    obtain ⟨earlier, other, later, hcalls, hdiffers⟩ := hchanged
    rcases List.eq_nil_or_concat' later with rfl | ⟨later, last, rfl⟩
    · obtain ⟨rfl, hlast⟩ := List.append_inj' hcalls rfl
      obtain rfl : call = other := by simpa using hlast
      rw [untilClean_append_sinceClean, afterAll_concat] at hdiffers
      exact .inr hdiffers
    · rw [← List.cons_append, ← List.append_assoc] at hcalls
      obtain ⟨hbefore, -⟩ := List.append_inj' hcalls rfl
      exact .inl ⟨earlier, other, later, hbefore, hdiffers⟩
  · intro hchanged
    rcases hchanged with ⟨earlier, other, later, hcalls, hdiffers⟩ | hdiffers
    · exact ⟨earlier, other, later ++ [call], by simp [hcalls], hdiffers⟩
    · refine ⟨sinceClean calls, call, [], rfl, ?_⟩
      rwa [untilClean_append_sinceClean, afterAll_concat]

/-- The span through any sequence of calls holds the slots that changed and is the smallest one that
does. -/
theorem isHull_afterAll (group : String) (capacity : Nat) (value : α) (calls : List (Call α)) :
    Span.IsHull ((new group capacity value).afterAll calls).dirty
      ((new group capacity value).Changed calls) := by
  induction calls using List.reverseRecOn with
  | nil =>
    refine (isHull_new group capacity value).congr fun slot => ?_
    simp [Changed]
  | append_singleton calls call ih =>
    rw [afterAll_concat]
    cases hcall : call.cleans with
    | true =>
      rw [after_of_cleans _ hcall]
      exact not_changed_append hcall
    | false =>
      refine (isHull_after ih hcall).congr fun slot => ?_
      rw [changed_append_iff hcall]

/-- A slot that holds another value than when no slot counted as changed has changed since. -/
theorem changed_of_ne {slot : Nat}
    (h : (array.afterAll calls).get? slot ≠ (array.afterAll (untilClean calls)).get? slot) :
    array.Changed calls slot := by
  induction calls using List.reverseRecOn with
  | nil => exact absurd rfl h
  | append_singleton calls call ih =>
    cases hcall : call.cleans with
    | true =>
      rw [untilClean_concat_of_cleans hcall] at h
      exact absurd rfl h
    | false =>
      rw [untilClean_concat hcall, afterAll_concat] at h
      rw [changed_append_iff hcall]
      by_cases hlast :
          ((array.afterAll calls).after call).get? slot = (array.afterAll calls).get? slot
      · rw [hlast] at h
        exact .inl (ih h)
      · exact .inr hlast

theorem lt_capacity_of_changed {slot : Nat} (h : array.Changed calls slot) :
    slot < array.capacity := by
  have hnone : ∀ calls, array.capacity ≤ slot → (array.afterAll calls).get? slot = none := by
    intro calls hle
    rw [← capacity_afterAll array calls] at hle
    exact List.getElem?_eq_none hle
  rcases h with ⟨-, hlt⟩ | ⟨earlier, call, later, -, hdiffers⟩
  · exact hlt
  · by_contra hge
    have hle := Nat.not_lt.mp hge
    exact hdiffers ((hnone _ hle).trans (hnone _ hle).symm)

/-- A run of writes within the capacity is made. -/
theorem after_setRange_of_le {first : Nat} {values : List α}
    (h : first + values.length ≤ array.capacity) :
    ∃ next, array.setRange first values = .ok next ∧
      array.after (.setRange first values) = next ∧
      ∀ slot, next.get? slot =
        if first ≤ slot ∧ slot < first + values.length then values[slot - first]?
        else array.get? slot := by
  have hmade : array.setRange first values = .ok (array.putAll first values) := by
    simp only [setRange]
    rw [if_neg (by omega)]
  refine ⟨_, hmade, ?_, get?_putAll array h⟩
  show (array.setRange first values).toOption.getD array = array.putAll first values
  rw [hmade]
  rfl

/-- A run of writes that ends beyond the capacity is refused. -/
theorem after_setRange_of_lt {first : Nat} {values : List α}
    (h : array.capacity < min (first + values.length) greatestSlot) :
    array.setRange first values = .error
        (.slotOutOfRange array.group (min (first + values.length) greatestSlot) array.capacity) ∧
      array.after (.setRange first values) = array := by
  have hrefused : array.setRange first values = .error
      (.slotOutOfRange array.group (min (first + values.length) greatestSlot)
        array.capacity) := by
    simp only [setRange]
    rw [if_pos h]
  refine ⟨hrefused, ?_⟩
  show (array.setRange first values).toOption.getD array = array
  rw [hrefused]
  rfl

/-- After any calls on a new array, the slots that changed since none counted as changed are those
that wait: the span is the smallest one that holds them all, and what is handed out are its slots
with their values.  A run of writes within the capacity is made, and one that ends beyond it leaves
everything as it is. -/
theorem span_holds_changed (group : String) (capacity : Nat) (value : α)
    (calls : List (Call α)) :
    let start := new group capacity value
    let array := start.afterAll calls
    (array.dirty = none →
        (∀ slot, ¬ start.Changed calls slot) ∧ array.pending = none ∧ array.consume.1 = none) ∧
      (∀ span, array.dirty = some span →
        (span.start < span.stop ∧ span.stop ≤ capacity) ∧
          (start.Changed calls span.start ∧ start.Changed calls (span.stop - 1)) ∧
          (∀ slot, start.Changed calls slot → span.Holds slot) ∧
          (∀ wider : Span, (∀ slot, start.Changed calls slot → wider.Holds slot) →
            wider.start ≤ span.start ∧ span.stop ≤ wider.stop) ∧
          ∃ run, array.pending = some run ∧ array.consume.1 = some run ∧ array.IsRun span run) ∧
      (∀ slot,
        (untilClean calls = [] ∧ slot < capacity) ∨
            array.get? slot ≠ (start.afterAll (untilClean calls)).get? slot →
          ∃ span, array.dirty = some span ∧ span.Holds slot) ∧
      (∀ first values, first + values.length ≤ capacity →
        ∃ next, array.setRange first values = .ok next ∧
          start.afterAll (calls ++ [.setRange first values]) = next ∧
          ∀ slot, next.get? slot =
            if first ≤ slot ∧ slot < first + values.length then values[slot - first]?
            else array.get? slot) ∧
      ∀ first values, capacity < min (first + values.length) greatestSlot →
        array.setRange first values = .error
            (.slotOutOfRange array.group (min (first + values.length) greatestSlot) capacity) ∧
          start.afterAll (calls ++ [.setRange first values]) = array := by
  intro start array
  have hhull : Span.IsHull array.dirty (start.Changed calls) :=
    isHull_afterAll group capacity value calls
  have hcapacity : array.capacity = capacity := by
    rw [capacity_afterAll, capacity_new]
  refine ⟨?_, ?_, ?_, ?_, ?_⟩
  · intro hnone
    rw [hnone] at hhull
    have hpending := pending_eq_none.mpr hnone
    exact ⟨hhull, hpending, hpending⟩
  · intro span hspan
    rw [hspan] at hhull
    have hlast := hhull.2.1
    have hnonempty := hhull.start_lt_stop
    have hwithin : span.stop ≤ capacity := by
      have hlt := lt_capacity_of_changed hlast
      rw [capacity_new] at hlt
      omega
    have hrun : array.pending = some (span.start, array.valuesOf span) := by
      simp [pending, hspan]
    exact ⟨⟨hnonempty, hwithin⟩, ⟨hhull.1, hlast⟩, hhull.2.2, fun wider => hhull.least,
      _, hrun, hrun, isRun_valuesOf (hcapacity ▸ hwithin)⟩
  · intro slot hslot
    apply hhull.exists_holds
    rcases hslot with ⟨huntil, hlt⟩ | hdiffers
    · exact .inl ⟨huntil, by rwa [capacity_new]⟩
    · exact changed_of_ne hdiffers
  · intro first values hfits
    rw [← hcapacity] at hfits
    rw [afterAll_concat]
    exact after_setRange_of_le hfits
  · intro first values hbeyond
    rw [← hcapacity] at hbeyond ⊢
    rw [afterAll_concat]
    exact after_setRange_of_lt hbeyond

end Runs

/-- Two slots wait with what lies between them; the earlier one holds its old value again, and a run
of writes beyond the last slot adds nothing. -/
theorem span_holds_changed_between :
    let start : SlotArray Nat := new "slots" 8 0
    let calls : List (Call Nat) := [.consume, .set 5 1, .set 2 1, .set 2 0]
    let array := start.afterAll calls
    array.dirty = some ⟨2, 6⟩ ∧ start.Changed calls 2 ∧ ¬ start.Changed calls 6 ∧
      array.pending = some (2, [0, 0, 0, 1]) ∧
      array.setRange 7 [3, 3] = .error (.slotOutOfRange "slots" 9 8) ∧
      start.afterAll (calls ++ [.setRange 7 [3, 3]]) = array := by
  intro start calls array
  obtain ⟨-, hspan, -, -, hbeyond⟩ := span_holds_changed "slots" 8 0 calls
  have hdirty : array.dirty = some ⟨2, 6⟩ := by decide
  obtain ⟨-, ⟨hfirst, -⟩, hholds, -, -⟩ := hspan ⟨2, 6⟩ hdirty
  obtain ⟨hrefused, hsame⟩ := hbeyond 7 [3, 3] (by decide)
  refine ⟨hdirty, hfirst, ?_, by decide, hrefused, hsame⟩
  intro hchanged
  obtain ⟨-, hlt⟩ := hholds 6 hchanged
  exact absurd hlt (by decide)

end SlotArray

end CrossShade
