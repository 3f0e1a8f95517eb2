import CrossShade.Proofs.Outcome
import CrossShade.Shader.Reader
import Mathlib.Data.List.Basic

/-!
# Parts of a description

A description has one part for each kind of section, and what a section says goes to its own part.

* `Description.withPart` takes one part from another description; `eq_of_forall_withPart` says that
  all parts make up the whole.
* `Description.ActsOn` is said of a step that reads and changes one part alone.  Such a step leaves
  the others alone (`ActsOn.eq_withPart`) and does not ask for them (`ActsOn.ok_withPart_iff`).
* `actsOn_addLine`: a line of a section is such a step.
-/

namespace CrossShade

namespace Description

/-- A description with the part of one section taken from another description. -/
def withPart (description : Description) (part : Section) (source : Description) : Description :=
  match part with
  | .preamble => description
  | .properties => { description with properties := source.properties }
  | .interface .input => { description with input := source.input }
  | .interface .output => { description with output := source.output }
  | .interface .inputExtra => { description with inputExtra := source.inputExtra }
  | .interface .inputPatch => { description with inputPatch := source.inputPatch }
  | .interface .outputPatch => { description with outputPatch := source.outputPatch }
  | .interface .stream => { description with streams := source.streams }
  | .uniformBuffers => { description with uniformBuffers := source.uniformBuffers }
  | .samplers => { description with samplers := source.samplers }
  | .readViews => { description with readViews := source.readViews }
  | .writeViews => { description with writeViews := source.writeViews }
  | .structures => { description with structures := source.structures }
  | .fixedSampling => { description with fixedSampling := source.fixedSampling }
  | .code .global => { description with globalCode := source.globalCode }
  | .code .patch => { description with patchCode := source.patchCode }
  | .code .main => { description with mainCode := source.mainCode }

variable {part other : Section} {description source later : Description}

@[simp] theorem withPart_self (description : Description) (part : Section) :
    description.withPart part description = description := by
  unfold withPart
  split <;> rfl

@[simp] theorem withPart_withPart (description source later : Description) (part : Section) :
    (description.withPart part source).withPart part later = description.withPart part later := by
  unfold withPart
  split <;> rfl

@[simp] theorem withPart_source (description source later : Description) (part : Section) :
    description.withPart part (source.withPart part later) = description.withPart part later := by
  unfold withPart
  split <;> rfl

theorem withPart_comm (h : part ≠ other) :
    (description.withPart part source).withPart other later =
      (description.withPart other later).withPart part source := by
  unfold withPart
  split <;> split <;> first | rfl | exact absurd rfl h

/-- All parts of a description make it up. -/
theorem eq_of_forall_withPart (h : ∀ part, description.withPart part source = description) :
    source = description := by
  have hall : (Section.names.map (·.2)).foldl (fun whole part => whole.withPart part source)
      description = source := by
    simp only [Section.names, List.map_cons, List.map_nil, List.foldl_cons, List.foldl_nil,
      withPart]
  rw [← hall]
  exact List.foldl_fixed' h _

/-- What a step does depends on one part of a description and concerns that part alone. -/
def ActsOn (part : Section) (step : Description → Except LineFault Description) : Prop :=
  ∀ frame source : Description,
    step (frame.withPart part source) = (frame.withPart part ·) <$> step source

variable {step next : Description → Except LineFault Description}

/-- Such a step leaves all other parts as they are. -/
theorem ActsOn.eq_withPart (h : ActsOn part step) {after : Description}
    (hstep : step description = .ok after) : after = description.withPart part after := by
  have hself := h description description
  rw [withPart_self, hstep] at hself
  exact Except.ok.inj hself

theorem ActsOn.ok_withPart (h : ActsOn part step) (hne : part ≠ other) {after : Description}
    (hstep : step description = .ok (description.withPart part after)) (source : Description) :
    step (description.withPart other source) =
      .ok ((description.withPart other source).withPart part after) := by
  have hframe := h (description.withPart other source) description
  rw [← withPart_comm hne, withPart_self, hstep] at hframe
  rw [hframe, ← withPart_source (description.withPart other source) description]
  rfl

/-- Nor does it ask for them. -/
theorem ActsOn.ok_withPart_iff (h : ActsOn part step) (hne : part ≠ other) {after : Description}
    (source : Description) :
    step (description.withPart other source) =
        .ok ((description.withPart other source).withPart part after) ↔
      step description = .ok (description.withPart part after) := by
  constructor
  · intro hstep
    have hback := h.ok_withPart hne hstep description
    rwa [withPart_withPart, withPart_self] at hback
  · intro hstep
    exact h.ok_withPart hne hstep source

theorem actsOn_pure (part : Section) : ActsOn part pure :=
  fun _ _ => rfl

theorem ActsOn.bind (h : ActsOn part step) (hnext : ActsOn part next) :
    ActsOn part fun description => step description >>= next := by
  intro frame source
  show step (frame.withPart part source) >>= next =
    (frame.withPart part ·) <$> (step source >>= next)
  rw [h]
  cases step source with
  | error fault => rfl
  | ok between => exact hnext frame between

theorem actsOn_foldlM {α : Type} {add : Description → α → Except LineFault Description}
    {list : List α} (h : ∀ x ∈ list, ActsOn part fun description => add description x) :
    ActsOn part fun description => list.foldlM add description := by
  induction list with
  | nil => exact actsOn_pure part
  | cons x rest ih =>
    simp only [List.foldlM_cons]
    exact (h x List.mem_cons_self).bind (ih fun y hy => h y (List.mem_cons_of_mem x hy))

/-! ## Lines -/

theorem actsOn_addProperty (line : List Char) :
    ActsOn .properties fun description => description.addProperty line := by
  intro frame source
  have hproperties : (frame.withPart .properties source).properties = source.properties := rfl
  simp only [addProperty, hproperties]
  split
  · rfl
  · split
    · rfl
    · split <;> rfl

theorem actsOn_addVariable (group : VariableGroup) (v : Variable) :
    ActsOn (.interface group) fun description => .ok (description.addVariable group v) := by
  intro frame source
  cases group <;> rfl

theorem actsOn_addUniformLine (line : List Char) :
    ActsOn .uniformBuffers fun description => description.addUniformLine line := by
  intro frame source
  have hbuffers : (frame.withPart .uniformBuffers source).uniformBuffers =
    source.uniformBuffers := rfl
  simp only [addUniformLine, hbuffers]
  split
  · cases readNamedSlot _ <;> rfl
  · cases readField line with
    | error fault => rfl
    | ok field =>
      simp only [ok_bind]
      split <;> rfl

theorem actsOn_addStructureLine (line : List Char) :
    ActsOn .structures fun description => description.addStructureLine line := by
  intro frame source
  have hstructures : (frame.withPart .structures source).structures = source.structures := rfl
  simp only [addStructureLine, hstructures]
  split
  · cases readIdentifier _ <;> rfl
  · cases readField line with
    | error fault => rfl
    | ok field =>
      simp only [ok_bind]
      split <;> rfl

theorem actsOn_addFixedSampling (line : List Char) :
    ActsOn .fixedSampling fun description => description.addFixedSampling line := by
  intro frame source
  simp only [addFixedSampling]
  split
  · rfl
  · rename_i view sampler _
    cases readIdentifier (Text.trim view) with
    | error fault => rfl
    | ok view => cases readIdentifier (Text.trim sampler) <;> rfl

theorem actsOn_addCode (block : CodeBlock) (line : List Char) :
    ActsOn (.code block) fun description => .ok (description.addCode block line) := by
  intro frame source
  cases block <;> rfl

/-- A line concerns the part of the section that it stands in. -/
theorem actsOn_addLine (part : Section) (line : List Char) :
    ActsOn part fun description => description.addLine part line := by
  cases part with
  | preamble => exact fun _ _ => rfl
  | properties => exact actsOn_addProperty line
  | interface group =>
    intro frame source
    simp only [addLine]
    cases readVariable line with
    | error fault => rfl
    | ok v => exact actsOn_addVariable group v frame source
  | uniformBuffers => exact actsOn_addUniformLine line
  | samplers =>
    intro frame source
    simp only [addLine]
    cases readSampler line <;> rfl
  | readViews =>
    intro frame source
    simp only [addLine]
    cases readView line <;> rfl
  | writeViews =>
    intro frame source
    simp only [addLine]
    cases readView line <;> rfl
  | structures => exact actsOn_addStructureLine line
  | fixedSampling => exact actsOn_addFixedSampling line
  | code block => exact actsOn_addCode block line

end Description
end CrossShade
