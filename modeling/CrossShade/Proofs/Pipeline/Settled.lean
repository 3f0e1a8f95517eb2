import CrossShade.Proofs.Outcome
import CrossShade.Proofs.Pipeline.NativeState

/-!
# What the marks of a pipeline promise

Every part of a pipeline carries a mark, and a native state may lag behind the pipeline only where
there is one.  `Pipeline.Settled` is that invariant, part by part; it holds of a new pipeline and
any native state, every setting keeps it (`settled_set`), and so does every flush, however many of
its changes are refused (`settled_flush`).

* Marks of single parts: `Tracked.Settled`, `TrackedList.Settled`, `SlotArray.Settled`, each with
  what `set`, taking over and `markClean` do to it.
* The whole pipeline: `Pipeline.Settled`.
* Groups without marks: `Pipeline.IsClean`.  A flush that ends well leaves all its groups clean, a
  settled native state shows clean groups, and flushing clean groups asks for nothing.
-/

namespace CrossShade

/-! ## Marks of single parts -/

namespace Tracked

variable {α : Type} {tracked : Tracked α} {native : α}

/-- Without a mark the native value is the tracked one. -/
def Settled (tracked : Tracked α) (native : α) : Prop :=
  tracked.dirty = false → native = tracked.value

theorem settled_of_dirty (h : tracked.dirty = true) : tracked.Settled native := by
  intro hclean
  simp [h] at hclean

theorem settled_markClean : tracked.markClean.Settled native ↔ native = tracked.value := by
  simp [Settled, markClean]

theorem settled_set [BEq α] (h : tracked.Settled native) (value : α) :
    (tracked.set value).Settled native := by
  unfold set
  split
  · exact h
  · exact settled_of_dirty rfl

theorem pending_eq_none : tracked.pending = none ↔ tracked.dirty = false := by
  simp [pending]

theorem eq_of_pending {value : α} (h : tracked.pending = some value) : tracked.value = value := by
  simp only [pending] at h
  split at h <;> simp_all

end Tracked

namespace TrackedList

variable {α : Type} {list : TrackedList α} {native : List α}

/-- Without a mark the native values are those of the list. -/
def Settled (list : TrackedList α) (native : List α) : Prop :=
  list.dirty = false → native = list.values

theorem settled_of_dirty (h : list.dirty = true) : list.Settled native := by
  intro hclean
  simp [h] at hclean

theorem settled_markClean : list.markClean.Settled native ↔ native = list.values := by
  simp [Settled, markClean]

theorem settled_set [BEq α] {values : List α} {next : TrackedList α} (h : list.Settled native)
    (hset : list.set values = .ok next) : next.Settled native := by
  unfold set at hset
  split at hset
  · simp at hset
  · split at hset <;> simp only [Except.ok.injEq] at hset <;> subst hset
    · exact h
    · exact settled_of_dirty rfl

theorem pending_eq_none : list.pending = none ↔ list.dirty = false := by
  simp [pending]

theorem eq_of_pending {values : List α} (h : list.pending = some values) :
    list.values = values := by
  simp only [pending] at h
  split at h <;> simp_all

end TrackedList

namespace SlotArray

variable {α : Type} {array : SlotArray α} {native : Nat → α}

/-- A slot is outside the span of the slots that changed. -/
def CleanAt (array : SlotArray α) (slot : Nat) : Prop :=
  ∀ span, array.dirty = some span → ¬span.Holds slot

/-- The native value of a slot is that of the array unless the slot is among those that changed. -/
def Settled (array : SlotArray α) (native : Nat → α) : Prop :=
  ∀ slot value, array.get? slot = some value → array.CleanAt slot → native slot = value

theorem cleanAt_of_dirty_eq_none (h : array.dirty = none) (slot : Nat) : array.CleanAt slot := by
  intro span hspan
  simp [h] at hspan

theorem settled_new (group : String) (capacity : Nat) (value : α) :
    (new group capacity value).Settled native := by
  intro slot present hpresent hclean
  have hlt : slot < capacity := by
    have hsome := List.getElem?_eq_some_iff.mp hpresent
    simpa [new] using hsome.1
  refine absurd ⟨Nat.zero_le slot, hlt⟩ (hclean ⟨0, capacity⟩ ?_)
  simp [new, Nat.ne_of_gt (Nat.lt_of_le_of_lt (Nat.zero_le slot) hlt)]

theorem settled_markClean :
    array.markClean.Settled native ↔
      ∀ slot value, array.get? slot = some value → native slot = value := by
  simp [Settled, CleanAt, markClean, get?]

/-- The span that covers a written slot leaves no more slots clean than before, and not that one. -/
theorem settled_put [DecidableEq α] (h : array.Settled native) (slot : Nat) (value : α) :
    (array.put slot value).Settled native := by
  unfold put
  split
  · exact h
  · split
    · exact h
    · intro other present hpresent hclean
      have hnot := hclean _ rfl
      by_cases hsame : other = slot
      · subst hsame
        exact absurd (Span.holds_cover_self array.dirty other) hnot
      · refine h other present ?_ ?_
        · simpa [get?, List.getElem?_set, Ne.symm hsame] using hpresent
        · intro span hspan hholds
          exact hnot (hspan ▸ Span.holds_cover hholds slot)

theorem settled_putAll [DecidableEq α] (h : array.Settled native) (first : Nat)
    (values : List α) : (array.putAll first values).Settled native := by
  induction values generalizing array first with
  | nil => exact h
  | cons value rest ih => exact ih (settled_put h first value) (first + 1)

/-- A run of writes that is not refused makes all of them. -/
theorem eq_putAll_of_setRange [DecidableEq α] {first : Nat} {values : List α}
    {next : SlotArray α} (hset : array.setRange first values = .ok next) :
    next = array.putAll first values := by
  simp only [setRange] at hset
  split at hset
  · cases hset
  · cases hset
    rfl

theorem settled_setRange [DecidableEq α] {first : Nat} {values : List α} {next : SlotArray α}
    (h : array.Settled native) (hset : array.setRange first values = .ok next) :
    next.Settled native := by
  rw [eq_putAll_of_setRange hset]
  exact settled_putAll h first values

theorem getElem?_valuesOf (array : SlotArray α) {span : Span} {slot : Nat} (h : span.Holds slot) :
    (array.valuesOf span)[slot - span.start]? = array.get? slot := by
  obtain ⟨hstart, hstop⟩ := h
  have hlt : slot - span.start < span.stop - span.start := by omega
  have hsum : span.start + (slot - span.start) = slot := by omega
  simp [valuesOf, get?, hlt, hsum]

/-- A slot before or after a span keeps its native value when the values of the span are written. -/
theorem overwrite_valuesOf (array : SlotArray α) {span : Span} {slot : Nat}
    (h : ¬span.Holds slot) :
    overwrite native span.start (array.valuesOf span) slot = native slot := by
  by_cases hlt : slot < span.start
  · exact overwrite_of_lt native _ hlt
  · have hlength : (array.valuesOf span).length ≤ span.stop - span.start := by
      simp only [valuesOf, List.length_take]
      omega
    refine overwrite_of_le native _ ?_
    simp only [Span.Holds, not_and] at h
    have := h (by omega)
    omega

/-- Once the changed run is written natively, every slot shows. -/
theorem eq_overwrite_of_pending {first : Nat} {values : List α} (h : array.Settled native)
    (hpending : array.pending = some (first, values)) (slot : Nat) (value : α)
    (hvalue : array.get? slot = some value) : overwrite native first values slot = value := by
  obtain ⟨span, hspan, hpair⟩ := Option.map_eq_some_iff.mp hpending
  simp only [Prod.mk.injEq] at hpair
  obtain ⟨rfl, rfl⟩ := hpair
  by_cases hholds : span.Holds slot
  · exact overwrite_of_getElem? native hholds.1
      ((getElem?_valuesOf array hholds).trans hvalue)
  · rw [overwrite_valuesOf array hholds]
    refine h slot value hvalue ?_
    intro other hother
    rw [hspan, Option.some.injEq] at hother
    exact hother ▸ hholds

theorem pending_eq_none : array.pending = none ↔ array.dirty = none := by
  simp [pending]

end SlotArray

/-! ## The whole pipeline -/

/-- The native state lags behind the pipeline only where the pipeline is marked. -/
structure Pipeline.Settled (pipeline : Pipeline) (native : NativeState) : Prop where
  topology : pipeline.topology.Settled native.topology
  inputLayout : pipeline.inputLayout.Settled native.inputLayout
  vertexBuffers : pipeline.vertexBuffers.Settled native.vertexBuffers
  indexBuffer : pipeline.indexBuffer.Settled native.indexBuffer
  shader : ∀ stage, (pipeline.stage stage).shader.Settled (native.shader stage)
  resources : ∀ stage category,
    ((pipeline.stage stage).resources category).Settled (native.resources stage category)
  cullMode : pipeline.cullMode.Settled native.cullMode
  fillMode : pipeline.fillMode.Settled native.fillMode
  viewports : pipeline.viewports.Settled native.viewports
  scissorRects : pipeline.scissorRects.Settled native.scissorRects
  renderTargets : pipeline.renderTargets.Settled native.renderTargets
  depthTarget : pipeline.depthTarget.Settled native.depthTarget

namespace Pipeline

variable {pipeline next : Pipeline} {native : NativeState}

@[simp] theorem stage_withStage (pipeline : Pipeline) (stage other : Stage) (state : StageState) :
    (pipeline.withStage stage state).stage other =
      if other = stage then state else pipeline.stage other := by
  simp [Pipeline.stage, withStage, PerStage.get_set]

/-- Everything in a new pipeline is marked. -/
theorem settled_new (native : NativeState) : Settled {} native where
  topology := Tracked.settled_of_dirty rfl
  inputLayout := Tracked.settled_of_dirty rfl
  vertexBuffers := SlotArray.settled_new _ _ _
  indexBuffer := Tracked.settled_of_dirty rfl
  shader stage := by
    cases stage <;> exact Tracked.settled_of_dirty rfl
  resources stage category := by
    cases stage <;> cases category <;> exact SlotArray.settled_new _ _ _
  cullMode := Tracked.settled_of_dirty rfl
  fillMode := Tracked.settled_of_dirty rfl
  viewports := TrackedList.settled_of_dirty rfl
  scissorRects := TrackedList.settled_of_dirty rfl
  renderTargets := TrackedList.settled_of_dirty rfl
  depthTarget := Tracked.settled_of_dirty rfl

/-- Another state of a stage leaves the pipeline settled if its parts are. -/
theorem settled_withStage (h : pipeline.Settled native) {stage : Stage} {state : StageState}
    (hshader : state.shader.Settled (native.shader stage))
    (hresources : ∀ category,
      (state.resources category).Settled (native.resources stage category)) :
    (pipeline.withStage stage state).Settled native :=
  { h with
    shader := by
      intro other
      rw [stage_withStage]
      split
      · rename_i hsame
        exact hsame ▸ hshader
      · exact h.shader other
    resources := by
      intro other category
      rw [stage_withStage]
      split
      · rename_i hsame
        exact hsame ▸ hresources category
      · exact h.resources other category }

theorem settled_bind (h : pipeline.Settled native) (stage : Stage) (shader : Option Nat) :
    (pipeline.bind stage shader).Settled native := by
  refine settled_withStage h (Tracked.settled_set (h.shader stage) shader) ?_
  intro category
  have hsame := h.resources stage category
  cases category <;> exact hsame

/-- A setting keeps a pipeline settled: whatever it changes it marks. -/
theorem settled_set {setting : Setting} (h : pipeline.Settled native)
    (hset : pipeline.set setting = .ok next) : next.Settled native := by
  cases setting with
  | topology topology =>
    simp only [set, Except.ok.injEq] at hset
    exact hset ▸ { h with topology := Tracked.settled_set h.topology topology }
  | inputLayout layout =>
    simp only [set, Except.ok.injEq] at hset
    exact hset ▸ { h with inputLayout := Tracked.settled_set h.inputLayout layout }
  | vertexBuffers first buffers =>
    simp only [set, bind_eq_ok, pure_eq_ok] at hset
    obtain ⟨slots, hslots, rfl⟩ := hset
    exact { h with vertexBuffers := SlotArray.settled_setRange h.vertexBuffers hslots }
  | indexBuffer buffer =>
    simp only [set, Except.ok.injEq] at hset
    exact hset ▸ { h with indexBuffer := Tracked.settled_set h.indexBuffer buffer }
  | shader stage shader =>
    cases shader with
    | none =>
      simp only [set, Except.ok.injEq] at hset
      exact hset ▸ settled_bind h stage none
    | some shader =>
      simp only [set] at hset
      split at hset
      · simp only [Except.ok.injEq] at hset
        exact hset ▸ settled_bind h stage (some shader.id)
      · simp at hset
  | resources stage category first ids =>
    simp only [set, bind_eq_ok, pure_eq_ok] at hset
    obtain ⟨slots, hslots, rfl⟩ := hset
    refine settled_withStage h ?_ ?_
    · have hshader := h.shader stage
      cases category <;> exact hshader
    · intro other
      rw [StageState.resources_withResources]
      split
      · rename_i hsame
        exact hsame ▸ SlotArray.settled_setRange (h.resources stage category) hslots
      · exact h.resources stage other
  | cullMode mode =>
    simp only [set, Except.ok.injEq] at hset
    exact hset ▸ { h with cullMode := Tracked.settled_set h.cullMode mode }
  | fillMode mode =>
    simp only [set, Except.ok.injEq] at hset
    exact hset ▸ { h with fillMode := Tracked.settled_set h.fillMode mode }
  | viewports viewports =>
    simp only [set, bind_eq_ok, pure_eq_ok] at hset
    obtain ⟨list, hlist, rfl⟩ := hset
    exact { h with viewports := TrackedList.settled_set h.viewports hlist }
  | scissorRects rects =>
    simp only [set, bind_eq_ok, pure_eq_ok] at hset
    obtain ⟨list, hlist, rfl⟩ := hset
    exact { h with scissorRects := TrackedList.settled_set h.scissorRects hlist }
  | renderTargets targets depth =>
    simp only [set, bind_eq_ok, pure_eq_ok] at hset
    obtain ⟨list, hlist, rfl⟩ := hset
    exact { h with
      renderTargets := TrackedList.settled_set h.renderTargets hlist
      depthTarget := Tracked.settled_set h.depthTarget depth }

/-! ## Groups without marks -/

/-- Nothing in a group is marked. -/
def IsClean (pipeline : Pipeline) : StateGroup → Prop
  | .topology => pipeline.topology.dirty = false
  | .inputLayout => pipeline.inputLayout.dirty = false
  | .vertexBuffers => pipeline.vertexBuffers.dirty = none
  | .indexBuffer => pipeline.indexBuffer.dirty = false
  | .shader stage => (pipeline.stage stage).shader.dirty = false
  | .resources stage category => ((pipeline.stage stage).resources category).dirty = none
  | .rasterizer => pipeline.cullMode.dirty = false ∧ pipeline.fillMode.dirty = false
  | .viewports => pipeline.viewports.dirty = false
  | .scissorRects => pipeline.scissorRects.dirty = false
  | .renderTargets => pipeline.renderTargets.dirty = false ∧ pipeline.depthTarget.dirty = false

/-- A group asks for nothing exactly if it is clean. -/
theorem pending_eq_ok_none {live : LiveShaders} {group : StateGroup} :
    pipeline.pending live group = .ok none ↔ pipeline.IsClean group := by
  cases group with
  | shader stage =>
    simp only [pending, IsClean]
    split
    · rename_i hdirty
      simp [hdirty]
    · rename_i hclean
      simpa using hclean
  | _ =>
    simp [pending, IsClean, Tracked.pending_eq_none, TrackedList.pending_eq_none,
      SlotArray.pending_eq_none]

theorem isClean_markClean_self (pipeline : Pipeline) (group : StateGroup) :
    (pipeline.markClean group).IsClean group := by
  cases group with
  | resources stage category =>
    simp [markClean, IsClean, StageState.resources_withResources, SlotArray.markClean]
  | _ =>
    simp [markClean, IsClean, Tracked.markClean, TrackedList.markClean, SlotArray.markClean]

theorem resources_shader (state : StageState) (shader : Tracked (Option Nat))
    (category : BindingCategory) :
    StageState.resources { state with shader } category = state.resources category := by
  cases category <;> rfl

theorem shader_withResources (state : StageState) (category : BindingCategory)
    (slots : SlotArray (Option Nat)) :
    (state.withResources category slots).shader = state.shader := by
  cases category <;> rfl

/-- Marking a group clean marks no other. -/
theorem isClean_markClean {group : StateGroup} (h : pipeline.IsClean group)
    (other : StateGroup) : (pipeline.markClean other).IsClean group := by
  cases other with
  | shader stage =>
    cases group with
    | shader s =>
      simp only [markClean, IsClean, stage_withStage]
      split
      · rfl
      · exact h
    | resources s category =>
      simp only [markClean, IsClean, stage_withStage]
      split
      · rename_i hsame
        subst hsame
        rw [resources_shader]
        exact h
      · exact h
    | _ => exact h
  | resources stage category =>
    cases group with
    | shader s =>
      simp only [markClean, IsClean, stage_withStage]
      split
      · rename_i hsame
        subst hsame
        rw [shader_withResources]
        exact h
      · exact h
    | resources s c =>
      simp only [markClean, IsClean, stage_withStage]
      split
      · rename_i hsame
        subst hsame
        rw [StageState.resources_withResources]
        split
        · rfl
        · exact h
      · exact h
    | _ => exact h
  | _ =>
    cases group <;> first | exact h | exact isClean_markClean_self pipeline _

/-! ## Taking over a group -/

/-- The shader that a stage hands out is the one bound to it. -/
theorem id_of_pending_shader {live : LiveShaders} {stage : Stage} {change : Change}
    (hlive : live.ById) (h : pipeline.pending live (.shader stage) = .ok (some change)) :
    ∃ id, change = .shader stage id ∧ id = (pipeline.stage stage).shader.value := by
  simp only [pending] at h
  split at h
  · simp only [bind_eq_ok, pure_eq_ok, Option.some.injEq] at h
    obtain ⟨shader, hbound, rfl⟩ := h
    refine ⟨_, rfl, ?_⟩
    unfold boundShader at hbound
    split at hbound
    · rename_i hvalue
      simp only [Except.ok.injEq] at hbound
      simp [← hbound, hvalue]
    · rename_i id hvalue
      split at hbound
      · simp at hbound
      · rename_i found hfound
        simp only [Except.ok.injEq] at hbound
        simp [← hbound, hvalue, hlive id found hfound]
  · simp at h

/-- When the native state takes over the change of a group and the group is marked clean, the
pipeline stays settled: this is the only step that removes marks. -/
theorem settled_change {live : LiveShaders} {group : StateGroup} {change : Change}
    (hlive : live.ById) (h : pipeline.Settled native)
    (hpending : pipeline.pending live group = .ok (some change)) :
    (pipeline.markClean group).Settled (native.apply change) := by
  cases group with
  | topology =>
    simp only [pending, Except.ok.injEq, Option.map_eq_some_iff] at hpending
    obtain ⟨value, hvalue, rfl⟩ := hpending
    exact { h with
      topology := Tracked.settled_markClean.mpr (Tracked.eq_of_pending hvalue).symm }
  | inputLayout =>
    simp only [pending, Except.ok.injEq, Option.map_eq_some_iff] at hpending
    obtain ⟨value, hvalue, rfl⟩ := hpending
    exact { h with
      inputLayout := Tracked.settled_markClean.mpr (Tracked.eq_of_pending hvalue).symm }
  | vertexBuffers =>
    simp only [pending, Except.ok.injEq, Option.map_eq_some_iff] at hpending
    obtain ⟨⟨first, buffers⟩, hvalues, rfl⟩ := hpending
    exact { h with
      vertexBuffers := SlotArray.settled_markClean.mpr
        (SlotArray.eq_overwrite_of_pending h.vertexBuffers hvalues) }
  | indexBuffer =>
    simp only [pending, Except.ok.injEq, Option.map_eq_some_iff] at hpending
    obtain ⟨value, hvalue, rfl⟩ := hpending
    exact { h with
      indexBuffer := Tracked.settled_markClean.mpr (Tracked.eq_of_pending hvalue).symm }
  | shader stage =>
    have hid := id_of_pending_shader hlive hpending
    obtain ⟨id, rfl, hid⟩ := hid
    refine { h with shader := ?_, resources := ?_ }
    · intro other
      simp only [markClean, stage_withStage, NativeState.apply]
      split
      · exact Tracked.settled_markClean.mpr hid
      · exact h.shader other
    · intro other category
      simp only [markClean, stage_withStage, NativeState.apply]
      split
      · rename_i hsame
        rw [resources_shader]
        exact hsame ▸ h.resources other category
      · exact h.resources other category
  | resources stage category =>
    simp only [pending, Except.ok.injEq, Option.map_eq_some_iff] at hpending
    obtain ⟨⟨first, ids⟩, hvalues, rfl⟩ := hpending
    refine { h with shader := ?_, resources := ?_ }
    · intro other
      simp only [markClean, stage_withStage, NativeState.apply]
      split
      · rename_i hsame
        rw [shader_withResources]
        exact hsame ▸ h.shader other
      · exact h.shader other
    · intro other c
      simp only [markClean, stage_withStage, NativeState.apply]
      by_cases hstage : other = stage
      · subst hstage
        rw [if_pos rfl, StageState.resources_withResources]
        by_cases hcategory : c = category
        · subst hcategory
          rw [if_pos rfl, if_pos ⟨rfl, rfl⟩]
          exact SlotArray.settled_markClean.mpr
            (SlotArray.eq_overwrite_of_pending (h.resources other c) hvalues)
        · rw [if_neg hcategory, if_neg (fun hboth => hcategory hboth.2)]
          exact h.resources other c
      · rw [if_neg hstage, if_neg (fun hboth => hstage hboth.1)]
        exact h.resources other c
  | rasterizer =>
    simp only [pending, Except.ok.injEq] at hpending
    split at hpending
    · simp only [Option.some.injEq] at hpending
      subst hpending
      exact { h with
        cullMode := Tracked.settled_markClean.mpr rfl
        fillMode := Tracked.settled_markClean.mpr rfl }
    · simp at hpending
  | viewports =>
    simp only [pending, Except.ok.injEq, Option.map_eq_some_iff] at hpending
    obtain ⟨values, hvalues, rfl⟩ := hpending
    exact { h with
      viewports := TrackedList.settled_markClean.mpr (TrackedList.eq_of_pending hvalues).symm }
  | scissorRects =>
    simp only [pending, Except.ok.injEq, Option.map_eq_some_iff] at hpending
    obtain ⟨values, hvalues, rfl⟩ := hpending
    exact { h with
      scissorRects := TrackedList.settled_markClean.mpr (TrackedList.eq_of_pending hvalues).symm }
  | renderTargets =>
    simp only [pending, Except.ok.injEq] at hpending
    split at hpending
    · simp only [Option.some.injEq] at hpending
      subst hpending
      exact { h with
        renderTargets := TrackedList.settled_markClean.mpr rfl
        depthTarget := Tracked.settled_markClean.mpr rfl }
    · simp at hpending

end Pipeline

end CrossShade
