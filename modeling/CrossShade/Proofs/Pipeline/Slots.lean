import CrossShade.Proofs.Pipeline.Session

/-!
# Slots through a session

What settings and flushes do to the slots of all stages, without a target that shows them.

* `SlotArray.KeepsClean` says that writes only add to the slots that wait for a target.
* `Pipeline.slots` gives the slots of a stage, with what settings (`keepsClean_set`) and marks
  (`slots_markClean`) do to them.
* `Pipeline.HasAllSlots` says that every stage has the slots that it should have.
* A flush leaves all values (`get?_slots_flush`) and the marks of slots that it does not hand over
  (`slots_flush`); `pending_cases` tells the changes of slots from all others.
-/

namespace CrossShade

namespace SlotArray

variable {α : Type} {array next later : SlotArray α}

/-- The slots that are clean in a later array were clean before and hold what they held. -/
structure KeepsClean (array next : SlotArray α) : Prop where
  capacity : next.capacity = array.capacity
  clean : ∀ slot, next.CleanAt slot → array.CleanAt slot ∧ next.get? slot = array.get? slot

theorem KeepsClean.refl (array : SlotArray α) : array.KeepsClean array :=
  ⟨rfl, fun _ hclean => ⟨hclean, rfl⟩⟩

theorem KeepsClean.trans (hfirst : array.KeepsClean next) (hsecond : next.KeepsClean later) :
    array.KeepsClean later := by
  refine ⟨hsecond.capacity.trans hfirst.capacity, fun slot hclean => ?_⟩
  obtain ⟨hnext, hsame⟩ := hsecond.clean slot hclean
  obtain ⟨harray, hbefore⟩ := hfirst.clean slot hnext
  exact ⟨harray, hsame.trans hbefore⟩

theorem keepsClean_put [DecidableEq α] (array : SlotArray α) (slot : Nat) (value : α) :
    array.KeepsClean (array.put slot value) := by
  refine ⟨capacity_put array slot value, fun other hclean => ?_⟩
  by_cases hsame : other = slot
  · subst hsame
    unfold put at hclean ⊢
    split at hclean
    · exact ⟨hclean, rfl⟩
    · split at hclean
      · rename_i hvalue
        rw [if_pos hvalue]
        exact ⟨hclean, rfl⟩
      · exact absurd (Span.holds_cover_self array.dirty other) (hclean _ rfl)
  · refine ⟨?_, by rw [get?_put, if_neg hsame]⟩
    unfold put at hclean
    split at hclean
    · exact hclean
    · split at hclean
      · exact hclean
      · intro span hspan hholds
        exact hclean _ rfl (hspan ▸ Span.holds_cover hholds slot)

theorem keepsClean_putAll [DecidableEq α] (array : SlotArray α) (first : Nat) (values : List α) :
    array.KeepsClean (array.putAll first values) := by
  induction values generalizing array first with
  | nil => exact .refl array
  | cons value rest ih =>
    exact (keepsClean_put array first value).trans (ih (array.put first value) (first + 1))

theorem keepsClean_setRange [DecidableEq α] {first : Nat} {values : List α}
    (hset : array.setRange first values = .ok next) : array.KeepsClean next := by
  rw [eq_putAll_of_setRange hset]
  exact keepsClean_putAll array first values

/-- The values of a span name nothing for a slot behind it. -/
theorem getElem?_valuesOf_of_not_holds (array : SlotArray α) {span : Span} {slot : Nat}
    (hle : span.start ≤ slot) (h : ¬span.Holds slot) :
    (array.valuesOf span)[slot - span.start]? = none := by
  have hstop : span.stop ≤ slot := Nat.not_lt.mp fun hlt => h ⟨hle, hlt⟩
  have hlength : (array.valuesOf span).length ≤ span.stop - span.start :=
    List.length_take_le _ _
  exact List.getElem?_eq_none (by omega)

/-- A span behind the last slot has no values. -/
theorem valuesOf_eq_nil (array : SlotArray α) {span : Span} (h : array.capacity ≤ span.start) :
    array.valuesOf span = [] := by
  rw [valuesOf, List.drop_eq_nil_of_le h, List.take_nil]

end SlotArray

namespace Pipeline

variable {pipeline next : Pipeline}

/-- The slots of a stage for a category. -/
def slots (pipeline : Pipeline) (stage : Stage) (category : BindingCategory) :
    SlotArray (Option Nat) :=
  (pipeline.stage stage).resources category

theorem slots_withStage (pipeline : Pipeline) (stage other : Stage) (state : StageState)
    (category : BindingCategory) :
    (pipeline.withStage stage state).slots other category =
      if other = stage then state.resources category else pipeline.slots other category := by
  unfold slots
  rw [stage_withStage]
  split <;> rfl

theorem slots_bind (pipeline : Pipeline) (stage other : Stage) (shader : Option Nat)
    (category : BindingCategory) :
    (pipeline.bind stage shader).slots other category = pipeline.slots other category := by
  unfold bind
  rw [slots_withStage]
  split
  · rename_i hsame
    rw [resources_shader, hsame]
    rfl
  · rfl

/-- A new pipeline holds no resource. -/
theorem get?_slots_new {stage : Stage} {category : BindingCategory} {slot id : Nat} :
    (slots {} stage category).get? slot ≠ some (some id) := by
  intro hheld
  have hmem := List.mem_of_getElem? hheld
  have hempty : (slots {} stage category).slots =
      List.replicate (StageState.slotCount stage category) none := by
    cases stage <;> cases category <;> rfl
  rw [hempty] at hmem
  exact absurd (List.eq_of_mem_replicate hmem) (Option.some_ne_none id)

/-- A setting writes to the slots of one stage and category at most. -/
theorem keepsClean_set {setting : Setting} (hset : pipeline.set setting = .ok next) (stage : Stage)
    (category : BindingCategory) :
    (pipeline.slots stage category).KeepsClean (next.slots stage category) := by
  cases setting with
  | topology topology => cases hset; exact .refl _
  | inputLayout layout => cases hset; exact .refl _
  | vertexBuffers first buffers =>
    simp only [set, bind_eq_ok, pure_eq_ok] at hset
    obtain ⟨_, -, rfl⟩ := hset
    exact .refl _
  | indexBuffer buffer => cases hset; exact .refl _
  | shader bound shader =>
    cases shader with
    | none =>
      cases hset
      rw [slots_bind]
      exact .refl _
    | some shader =>
      simp only [set] at hset
      split at hset
      · cases hset
        rw [slots_bind]
        exact .refl _
      · cases hset
  | resources written writtenCategory first ids =>
    simp only [set, bind_eq_ok, pure_eq_ok] at hset
    obtain ⟨slots, hslots, rfl⟩ := hset
    rw [slots_withStage]
    split
    · rename_i hstage
      subst hstage
      rw [StageState.resources_withResources]
      split
      · rename_i hcategory
        subst hcategory
        exact SlotArray.keepsClean_setRange hslots
      · exact .refl _
    · exact .refl _
  | cullMode mode => cases hset; exact .refl _
  | fillMode mode => cases hset; exact .refl _
  | viewports viewports =>
    simp only [set, bind_eq_ok, pure_eq_ok] at hset
    obtain ⟨_, -, rfl⟩ := hset
    exact .refl _
  | scissorRects rects =>
    simp only [set, bind_eq_ok, pure_eq_ok] at hset
    obtain ⟨_, -, rfl⟩ := hset
    exact .refl _
  | renderTargets targets depth =>
    simp only [set, bind_eq_ok, pure_eq_ok] at hset
    obtain ⟨_, -, rfl⟩ := hset
    exact .refl _

/-- Marking a group clean leaves every value, and the marks of all slots but those of the group. -/
theorem slots_markClean (pipeline : Pipeline) (group : StateGroup) (stage : Stage)
    (category : BindingCategory) :
    (pipeline.markClean group).slots stage category =
      if group = .resources stage category then (pipeline.slots stage category).markClean
      else pipeline.slots stage category := by
  cases group with
  | shader marked =>
    simp only [markClean, slots_withStage, reduceCtorEq, if_false]
    split
    · rename_i hsame
      rw [resources_shader, hsame]
      rfl
    · rfl
  | resources marked markedCategory =>
    simp only [markClean, slots_withStage, StateGroup.resources.injEq,
      StageState.resources_withResources]
    by_cases hstage : stage = marked
    · subst hstage
      by_cases hcategory : category = markedCategory
      · subst hcategory
        simp [slots]
      · simp [hcategory, Ne.symm hcategory, slots]
    · simp [hstage, Ne.symm hstage]
  | _ => rfl

theorem get?_slots_markClean (pipeline : Pipeline) (group : StateGroup) (stage : Stage)
    (category : BindingCategory) (slot : Nat) :
    ((pipeline.markClean group).slots stage category).get? slot =
      (pipeline.slots stage category).get? slot := by
  rw [slots_markClean]
  split <;> rfl

/-- Every stage has its slots of every category. -/
def HasAllSlots (pipeline : Pipeline) : Prop :=
  ∀ stage category, (pipeline.slots stage category).capacity = StageState.slotCount stage category

theorem hasAllSlots_new : HasAllSlots {} := by
  intro stage category
  cases stage <;> cases category <;> rfl

theorem HasAllSlots.set {setting : Setting} (h : pipeline.HasAllSlots)
    (hset : pipeline.set setting = .ok next) : next.HasAllSlots :=
  fun stage category => (keepsClean_set hset stage category).capacity.trans (h stage category)

theorem HasAllSlots.markClean (h : pipeline.HasAllSlots) (group : StateGroup) :
    (pipeline.markClean group).HasAllSlots := by
  intro stage category
  rw [slots_markClean]
  split
  · exact h stage category
  · exact h stage category

theorem HasAllSlots.capacity_le (h : pipeline.HasAllSlots) (stage : Stage)
    (category : BindingCategory) : (pipeline.slots stage category).capacity ≤ 128 := by
  rw [h stage category]
  cases stage <;> cases category <;> decide

theorem HasAllSlots.lt_of_get? (h : pipeline.HasAllSlots) {stage : Stage}
    {category : BindingCategory} {slot : Nat} {value : Option Nat}
    (hvalue : (pipeline.slots stage category).get? slot = some value) : slot < 128 :=
  Nat.lt_of_lt_of_le (List.getElem?_eq_some_iff.mp hvalue).1 (h.capacity_le stage category)

/-! ## Flushes -/

/-- A group is either the slots of a stage for a category, or its change is about no slots. -/
theorem pending_cases {live : LiveShaders} {group : StateGroup} {change : Change}
    (h : pipeline.pending live group = .ok (some change)) :
    (∃ stage category first ids, group = .resources stage category ∧
      change = .resources stage category first ids ∧
      (pipeline.slots stage category).pending = some (first, ids)) ∨
    ((∀ stage category, group ≠ .resources stage category) ∧
      ∀ stage category first ids, change ≠ .resources stage category first ids) := by
  cases group with
  | resources stage category =>
    simp only [pending, Except.ok.injEq, Option.map_eq_some_iff] at h
    obtain ⟨⟨first, ids⟩, hvalues, rfl⟩ := h
    exact .inl ⟨stage, category, first, ids, rfl, rfl, hvalues⟩
  | shader stage =>
    simp only [pending] at h
    split at h
    · simp only [bind_eq_ok, pure_eq_ok, Option.some.injEq] at h
      obtain ⟨shader, -, rfl⟩ := h
      exact .inr ⟨by simp, by simp⟩
    · cases h
  | rasterizer =>
    simp only [pending, Except.ok.injEq] at h
    split at h
    · cases h
      exact .inr ⟨by simp, by simp⟩
    · cases h
  | renderTargets =>
    simp only [pending, Except.ok.injEq] at h
    split at h
    · cases h
      exact .inr ⟨by simp, by simp⟩
    · cases h
  | _ =>
    simp only [pending, Except.ok.injEq, Option.map_eq_some_iff] at h
    obtain ⟨value, -, rfl⟩ := h
    exact .inr ⟨by simp, by simp⟩

section Flush

variable {σ : Type} (live : LiveShaders) (applier : Applier σ) (groups : List StateGroup)
  (pipeline : Pipeline) (target : σ)

/-- A flush leaves the values of all slots. -/
theorem get?_slots_flush (stage : Stage) (category : BindingCategory) (slot : Nat) :
    ((flush live applier groups pipeline target).2.1.slots stage category).get? slot =
      (pipeline.slots stage category).get? slot := by
  refine flush_induction live applier
    (fun next _ => (next.slots stage category).get? slot =
      (pipeline.slots stage category).get? slot) ?_ ?_ groups pipeline target rfl
  · intro group change between target next hsame hpending hchange
    exact (get?_slots_markClean ..).trans hsame
  · intro change between target next error hsame hchange
    exact hsame

/-- A flush does not touch slots that are not among its groups. -/
theorem slots_flush {stage : Stage} {category : BindingCategory}
    (hother : .resources stage category ∉ groups) :
    (flush live applier groups pipeline target).2.1.slots stage category =
      pipeline.slots stage category := by
  refine flush_induction_of_mem live applier
    (fun next _ => next.slots stage category = pipeline.slots stage category) groups ?_ ?_ pipeline
    target rfl
  · intro group hgroup change between target next hsame hpending hchange
    have hkept : group ≠ .resources stage category := by
      rintro rfl
      exact hother hgroup
    rw [slots_markClean, if_neg hkept]
    exact hsame
  · intro change between target next error hsame hchange
    exact hsame

end Flush

end Pipeline

end CrossShade
