import CrossShade.Proofs.Pipeline.InStep
import CrossShade.Proofs.Pipeline.Parts

/-!
# Settings that do not meet

Two settings of which neither reads what the other writes may be made in either order.

* `CommuteAt` is said of two changes that may be refused: the order is neither seen in their results
  nor in the state that they leave.
* `SlotArray.commuteAt_setRange` is the case of two runs of one slot array.  The writes of one run
  move past those of the other one by one, values and span alike.
* `Pipeline.commuteAt_set_of_group_ne` and `Pipeline.commuteAt_of_part` lift this to pipelines, for
  settings of different groups and of one group.
* `Session.perform_comm` is the conclusion for `Setting.Independent` settings of any session.
-/

namespace CrossShade

/-! ## Changes in either order -/

/-- In either order two changes have the same results and leave the same state. -/
structure CommuteAt {ε α : Type} (first second : α → Except ε α) (state : α) : Prop where
  firstResult : (attempt first (attempt second state).2).1 = (attempt first state).1
  secondResult : (attempt second (attempt first state).2).1 = (attempt second state).1
  state : (attempt second (attempt first state).2).2 = (attempt first (attempt second state).2).2

/-! ## Runs of one slot array -/

namespace Span

/-- No slot is in both spans. -/
def Disjoint (span other : Span) : Prop :=
  ∀ slot, span.Holds slot → ¬other.Holds slot

theorem Disjoint.symm {span other : Span} (h : span.Disjoint other) : other.Disjoint span :=
  fun slot hother hspan => h slot hspan hother

/-- The smallest span does not depend on the order in which slots were added. -/
theorem cover_comm (span : Option Span) (slot other : Nat) :
    cover (some (cover span slot)) other = cover (some (cover span other)) slot := by
  cases span <;> simp only [cover, single, mk.injEq] <;> omega

end Span

namespace SlotArray

variable {α : Type} [DecidableEq α] {array : SlotArray α} {slot other : Nat} {value later : α}

/-- A write changes a slot that is there and has another value. -/
def Changes (array : SlotArray α) (slot : Nat) (value : α) : Prop :=
  ∃ present, array.slots[slot]? = some present ∧ present ≠ value

theorem put_of_changes (h : array.Changes slot value) :
    array.put slot value =
      ⟨array.group, array.slots.set slot value, some (Span.cover array.dirty slot)⟩ := by
  obtain ⟨present, hpresent, hne⟩ := h
  simp only [put, hpresent, if_neg hne]

theorem put_of_not_changes (h : ¬array.Changes slot value) : array.put slot value = array := by
  unfold put
  split
  · rfl
  · next present hpresent =>
    refine if_pos ?_
    by_contra hne
    exact h ⟨present, hpresent, hne⟩

/-- A write to another slot makes no difference to whether a write changes something. -/
theorem changes_put (h : slot ≠ other) (array : SlotArray α) (value later : α) :
    (array.put other later).Changes slot value ↔ array.Changes slot value := by
  have hslot : (array.put other later).slots[slot]? = array.slots[slot]? := by
    simpa only [get?, if_neg h] using get?_put array other slot later
  unfold Changes
  rw [hslot]

theorem put_comm (h : slot ≠ other) (array : SlotArray α) (value later : α) :
    (array.put slot value).put other later = (array.put other later).put slot value := by
  have hslot := changes_put h array value later
  have hother := changes_put (Ne.symm h) array later value
  by_cases hvalue : array.Changes slot value
  · by_cases hlater : array.Changes other later
    · rw [put_of_changes (hother.mpr hlater), put_of_changes (hslot.mpr hvalue),
        put_of_changes hvalue, put_of_changes hlater]
      show SlotArray.mk _ _ _ = SlotArray.mk _ _ _
      rw [List.set_comm _ _ h, Span.cover_comm]
    · rw [put_of_not_changes (hlater ∘ hother.mp), put_of_not_changes hlater]
  · rw [put_of_not_changes (hvalue ∘ hslot.mp), put_of_not_changes hvalue]

/-- One write moves past a run that does not hold its slot: past the first of its writes, and by
induction past the others. -/
theorem put_putAll (array : SlotArray α) {first : Nat} {values : List α}
    (h : ¬(Span.mk first (first + values.length)).Holds slot) (value : α) :
    (array.put slot value).putAll first values = (array.putAll first values).put slot value := by
  induction values generalizing array first with
  | nil => rfl
  | cons head rest ih =>
    simp only [Span.Holds, List.length_cons] at h ih
    rw [putAll, putAll, put_comm (by omega : slot ≠ first), ih _ (by omega)]

/-- Runs without a common slot may be written in either order. -/
theorem putAll_comm (array : SlotArray α) {first other : Nat} {values later : List α}
    (h : (Span.mk first (first + values.length)).Disjoint ⟨other, other + later.length⟩) :
    (array.putAll first values).putAll other later =
      (array.putAll other later).putAll first values := by
  induction values generalizing array first with
  | nil => rfl
  | cons head rest ih =>
    have hhead : ¬(Span.mk other (other + later.length)).Holds first :=
      h first ⟨Nat.le_refl first, by simp only [List.length_cons]; omega⟩
    have hrest : (Span.mk (first + 1) (first + 1 + rest.length)).Disjoint
        ⟨other, other + later.length⟩ := by
      intro slot hslot
      refine h slot ?_
      simp only [Span.Holds, List.length_cons] at hslot ⊢
      omega
    rw [putAll, putAll, ih _ hrest, put_putAll array hhead]

@[simp] theorem group_putAll (array : SlotArray α) (first : Nat) (values : List α) :
    (array.putAll first values).group = array.group := by
  induction values generalizing array first with
  | nil => rfl
  | cons value rest ih =>
    rw [putAll, ih]
    unfold put
    split
    · rfl
    · split <;> rfl

/-- A run is refused by what the array holds and by its capacity, and no write changes these. -/
theorem commuteAt_setRange (array : SlotArray α) {first other : Nat} {values later : List α}
    (h : (Span.mk first (first + values.length)).Disjoint ⟨other, other + later.length⟩) :
    CommuteAt (·.setRange first values) (·.setRange other later) array := by
  by_cases hfirst : array.capacity < min (first + values.length) greatestSlot
  · by_cases hother : array.capacity < min (other + later.length) greatestSlot
    · constructor <;> simp only [attempt, setRange, if_pos hfirst, if_pos hother]
    · constructor <;>
        simp only [attempt, setRange, if_pos hfirst, if_neg hother, capacity_putAll, group_putAll]
  · by_cases hother : array.capacity < min (other + later.length) greatestSlot
    · constructor <;>
        simp only [attempt, setRange, if_neg hfirst, if_pos hother, capacity_putAll, group_putAll]
    · constructor <;>
        simp only [attempt, setRange, if_neg hfirst, if_neg hother, capacity_putAll,
          putAll_comm array h]

end SlotArray

/-! ## Settings of a pipeline -/

namespace Setting

/-- Neither setting writes what the other one reads or writes: they write different groups, slots of
one array that lie apart, or the two halves of the rasterizer. -/
def Independent : Setting → Setting → Prop
  | .vertexBuffers first buffers, .vertexBuffers other later =>
    (Span.mk first (first + buffers.length)).Disjoint ⟨other, other + later.length⟩
  | .resources stage category first ids, .resources otherStage otherCategory other later =>
    stage = otherStage → category = otherCategory →
      (Span.mk first (first + ids.length)).Disjoint ⟨other, other + later.length⟩
  | .cullMode _, .fillMode _ | .fillMode _, .cullMode _ => True
  | setting, other => setting.group ≠ other.group

end Setting

namespace Pipeline

variable {pipeline : Pipeline}

/-- Changes of one part commute on a pipeline if they do on that part. -/
theorem commuteAt_of_part {group : StateGroup}
    {change other : Pipeline → Except ContextError Pipeline}
    {act otherAct : group.Part → Except ContextError group.Part}
    (hchange : ∀ pipeline : Pipeline,
      change pipeline = pipeline.withPart group <$> act (pipeline.part group))
    (hother : ∀ pipeline : Pipeline,
      other pipeline = pipeline.withPart group <$> otherAct (pipeline.part group))
    (h : CommuteAt act otherAct (pipeline.part group)) : CommuteAt change other pipeline := by
  constructor <;>
    simp only [attempt_of_part (hchange _), attempt_of_part (hother _), part_withPart_self,
      withPart_withPart]
  · exact h.firstResult
  · exact h.secondResult
  · rw [h.state]

/-- Settings of different groups commute: none sees the part of the other. -/
theorem commuteAt_set_of_group_ne {setting other : Setting} (h : setting.group ≠ other.group)
    (pipeline : Pipeline) : CommuteAt (·.set setting) (·.set other) pipeline := by
  constructor <;> simp only [attempt_set, part_withPart h, part_withPart (Ne.symm h)]
  exact withPart_comm h _ _

/-- The halves of the rasterizer are set apart from each other. -/
theorem commuteAt_cullMode_fillMode (cull : CullMode) (fill : FillMode) (pipeline : Pipeline) :
    CommuteAt (·.set (.cullMode cull)) (·.set (.fillMode fill)) pipeline :=
  ⟨rfl, rfl, rfl⟩

theorem commuteAt_set {setting other : Setting} (h : setting.Independent other)
    (pipeline : Pipeline) : CommuteAt (·.set setting) (·.set other) pipeline := by
  have hgroups : setting.group ≠ other.group → ∀ pipeline : Pipeline,
      CommuteAt (·.set setting) (·.set other) pipeline := commuteAt_set_of_group_ne
  cases setting with
  | vertexBuffers first buffers =>
    cases other with
    | vertexBuffers otherFirst later =>
      exact commuteAt_of_part (set_eq · (.vertexBuffers first buffers))
        (set_eq · (.vertexBuffers otherFirst later)) (SlotArray.commuteAt_setRange _ h)
    | _ => exact hgroups h pipeline
  | resources stage category first ids =>
    cases other with
    | resources otherStage otherCategory otherFirst later =>
      by_cases hsame : stage = otherStage ∧ category = otherCategory
      · obtain ⟨rfl, rfl⟩ := hsame
        exact commuteAt_of_part (set_eq · (.resources stage category first ids))
          (set_eq · (.resources stage category otherFirst later))
          (SlotArray.commuteAt_setRange _ (h rfl rfl))
      · refine hgroups (fun hgroup => hsame ?_) pipeline
        exact StateGroup.resources.inj hgroup
    | _ => exact hgroups h pipeline
  | cullMode cull =>
    cases other with
    | fillMode fill => exact commuteAt_cullMode_fillMode cull fill pipeline
    | _ => exact hgroups h pipeline
  | fillMode fill =>
    cases other with
    | cullMode cull => exact ⟨rfl, rfl, rfl⟩
    | _ => exact hgroups h pipeline
  | _ => exact hgroups h pipeline

end Pipeline

/-! ## Calls on a session -/

namespace Session

variable {σ : Type}

/-- Two independent settings have the same results in either order and leave the same session: the
same values, marks and spans, so that work asks the target for the same afterwards. -/
theorem perform_comm (applier : Applier σ) (session : Session σ) {first second : Setting}
    (h : first.Independent second) :
    ((session.perform applier (.set second)).2.perform applier (.set first)).1 =
        (session.perform applier (.set first)).1 ∧
      ((session.perform applier (.set first)).2.perform applier (.set second)).1 =
        (session.perform applier (.set second)).1 ∧
      session.performAll applier [.set first, .set second] =
        session.performAll applier [.set second, .set first] ∧
      ∀ live work,
        (session.performAll applier [.set first, .set second]).perform applier (.work live work) =
          (session.performAll applier [.set second, .set first]).perform applier
            (.work live work) := by
  have hcommute := Pipeline.commuteAt_set h session.pipeline
  have hsession : session.performAll applier [.set first, .set second] =
      session.performAll applier [.set second, .set first] := by
    simp only [performAll, List.foldl_cons, List.foldl_nil, perform_set]
    rw [hcommute.state]
  refine ⟨?_, ?_, hsession, fun live work => by rw [hsession]⟩
  · simp only [perform_set]
    exact hcommute.firstResult
  · simp only [perform_set]
    exact hcommute.secondResult

/-- The pixel read views of a new context, after a target took them over. -/
def withViewsTaken : Session Interface :=
  ⟨({} : Pipeline).markClean (.resources .pixel .readView), (start .new).target⟩

/-- Runs of read views at both ends of slots that stay as they are.  In either order the span goes
from the first slot that changed to the last. -/
theorem perform_comm_readViews :
    let applier := Interface.applier fun _ _ => none
    let first := Setting.resources .pixel .readView 2 [some 1, some 2]
    let second := Setting.resources .pixel .readView 9 [none, some 3]
    first.Independent second ∧
      withViewsTaken.performAll applier [.set first, .set second] =
        withViewsTaken.performAll applier [.set second, .set first] ∧
      ((withViewsTaken.performAll applier [.set first, .set second]).pipeline.stage
        .pixel).readViews.dirty = some ⟨2, 11⟩ := by
  have hindependent : Setting.Independent (.resources .pixel .readView 2 [some 1, some 2])
      (.resources .pixel .readView 9 [none, some 3]) := by
    intro _ _ slot hfirst hsecond
    simp only [Span.Holds, List.length_cons, List.length_nil] at hfirst hsecond
    omega
  have hcommute := perform_comm (Interface.applier fun _ _ => none) withViewsTaken hindependent
  exact ⟨hindependent, hcommute.2.2.1, by decide +kernel⟩

end Session

end CrossShade
