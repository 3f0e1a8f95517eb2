import CrossShade.Proofs.Pipeline.Session

/-!
# Parts of a pipeline

A target takes over a pipeline group by group, and a caller sets it group by group too.  What the
pipeline keeps for a group is its part.

* `Pipeline.part` reads the part of a group and `Pipeline.withPart` replaces it; the parts make up
  the pipeline (`eq_of_part`) and do not touch each other (`part_withPart`).
* Every setting reads and replaces the part of one group alone (`set_eq`).  With `attempt`, which
  keeps the state that a refusal leaves, this says what a setting does in every case
  (`attempt_set`).
* Marking a group clean clears the marks of its part (`markClean_eq`), and what a group hands over
  is read off its part (`pending_congr`).
-/

namespace CrossShade

namespace StateGroup

/-- What a pipeline keeps for a group. -/
abbrev Part : StateGroup → Type
  | .topology => Tracked PrimitiveTopology
  | .inputLayout => Tracked (Option Nat)
  | .vertexBuffers => SlotArray (Option VertexBuffer)
  | .indexBuffer => Tracked (Option IndexBuffer)
  | .shader _ => Tracked (Option Nat)
  | .resources _ _ => SlotArray (Option Nat)
  | .rasterizer => Tracked CullMode × Tracked FillMode
  | .viewports => TrackedList Viewport
  | .scissorRects => TrackedList ScissorRect
  | .renderTargets => TrackedList (Option Nat) × Tracked (Option Nat)

/-- A part without its marks. -/
def unmarked : (group : StateGroup) → group.Part → group.Part
  | .topology, part => Tracked.markClean part
  | .inputLayout, part => Tracked.markClean part
  | .vertexBuffers, part => SlotArray.markClean part
  | .indexBuffer, part => Tracked.markClean part
  | .shader _, part => Tracked.markClean part
  | .resources _ _, part => SlotArray.markClean part
  | .rasterizer, (cull, fill) => (cull.markClean, fill.markClean)
  | .viewports, part => TrackedList.markClean part
  | .scissorRects, part => TrackedList.markClean part
  | .renderTargets, (targets, depth) => (targets.markClean, depth.markClean)

theorem unmarked_unmarked (group : StateGroup) (part : group.Part) :
    group.unmarked (group.unmarked part) = group.unmarked part := by
  cases group <;> rfl

end StateGroup

/-- The shader and the slots of a stage make it up. -/
theorem StageState.eq_of_parts {state other : StageState} (hshader : state.shader = other.shader)
    (hresources : ∀ category, state.resources category = other.resources category) :
    state = other := by
  cases state
  cases other
  have uniformBuffers := hresources .uniformBuffer
  have samplers := hresources .sampler
  have readViews := hresources .readView
  have writeViews := hresources .writeView
  simp_all [StageState.resources]

namespace Pipeline

variable {pipeline source : Pipeline} {group other : StateGroup}

/-! ## Reading and replacing -/

/-- The part of a group. -/
def part (pipeline : Pipeline) : (group : StateGroup) → group.Part
  | .topology => pipeline.topology
  | .inputLayout => pipeline.inputLayout
  | .vertexBuffers => pipeline.vertexBuffers
  | .indexBuffer => pipeline.indexBuffer
  | .shader stage => (pipeline.stage stage).shader
  | .resources stage category => (pipeline.stage stage).resources category
  | .rasterizer => (pipeline.cullMode, pipeline.fillMode)
  | .viewports => pipeline.viewports
  | .scissorRects => pipeline.scissorRects
  | .renderTargets => (pipeline.renderTargets, pipeline.depthTarget)

/-- The pipeline with another part for a group. -/
def withPart (pipeline : Pipeline) : (group : StateGroup) → group.Part → Pipeline
  | .topology, topology => { pipeline with topology }
  | .inputLayout, inputLayout => { pipeline with inputLayout }
  | .vertexBuffers, vertexBuffers => { pipeline with vertexBuffers }
  | .indexBuffer, indexBuffer => { pipeline with indexBuffer }
  | .shader stage, shader =>
    pipeline.withStage stage { pipeline.stage stage with shader }
  | .resources stage category, slots =>
    pipeline.withStage stage ((pipeline.stage stage).withResources category slots)
  | .rasterizer, (cullMode, fillMode) => { pipeline with cullMode, fillMode }
  | .viewports, viewports => { pipeline with viewports }
  | .scissorRects, scissorRects => { pipeline with scissorRects }
  | .renderTargets, (renderTargets, depthTarget) =>
    { pipeline with renderTargets, depthTarget }

theorem part_withPart_self (pipeline : Pipeline) (group : StateGroup) (part : group.Part) :
    (pipeline.withPart group part).part group = part := by
  cases group with
  | shader stage =>
    show ((pipeline.withStage stage _).stage stage).shader = part
    rw [stage_withStage, if_pos rfl]
  | resources stage category =>
    show ((pipeline.withStage stage _).stage stage).resources category = part
    rw [stage_withStage, if_pos rfl, StageState.resources_withResources, if_pos rfl]
  | _ => rfl

/-- Replacing one part leaves all others. -/
theorem part_withPart (h : other ≠ group) (part : group.Part) :
    (pipeline.withPart group part).part other = pipeline.part other := by
  cases group with
  | shader stage =>
    cases other with
    | shader read =>
      show ((pipeline.withStage stage _).stage read).shader = (pipeline.stage read).shader
      rw [stage_withStage, if_neg fun hsame => h (congrArg StateGroup.shader hsame)]
    | resources read category =>
      show ((pipeline.withStage stage _).stage read).resources category =
        (pipeline.stage read).resources category
      rw [stage_withStage]
      split
      · next hsame => rw [resources_shader, hsame]
      · rfl
    | _ => rfl
  | resources stage category =>
    cases other with
    | shader read =>
      show ((pipeline.withStage stage _).stage read).shader = (pipeline.stage read).shader
      rw [stage_withStage]
      split
      · next hsame => rw [shader_withResources, hsame]
      · rfl
    | resources read readCategory =>
      show ((pipeline.withStage stage _).stage read).resources readCategory =
        (pipeline.stage read).resources readCategory
      rw [stage_withStage]
      split
      · next hsame =>
        subst hsame
        rw [StageState.resources_withResources,
          if_neg fun hcategory => h (congrArg (StateGroup.resources read) hcategory)]
      · rfl
    | _ => rfl
  | _ => cases other <;> first | rfl | exact absurd rfl h

/-- All parts of a pipeline make it up. -/
theorem eq_of_part (h : ∀ group, pipeline.part group = source.part group) : pipeline = source := by
  have hstages : pipeline.stages = source.stages := by
    refine PerStage.ext_get fun stage => ?_
    exact StageState.eq_of_parts (h (.shader stage)) fun category => h (.resources stage category)
  have rasterizer := Prod.ext_iff.mp (h .rasterizer)
  have renderTargets := Prod.ext_iff.mp (h .renderTargets)
  have topology := h .topology
  have inputLayout := h .inputLayout
  have vertexBuffers := h .vertexBuffers
  have indexBuffer := h .indexBuffer
  have viewports := h .viewports
  have scissorRects := h .scissorRects
  cases pipeline
  cases source
  simp_all [Pipeline.part]

theorem withPart_part (pipeline : Pipeline) (group : StateGroup) :
    pipeline.withPart group (pipeline.part group) = pipeline := by
  refine eq_of_part fun other => ?_
  by_cases h : other = group
  · subst h
    exact part_withPart_self pipeline other _
  · exact part_withPart h _

/-- Parts of different groups may be replaced in either order. -/
theorem withPart_comm (h : group ≠ other) (part : group.Part) (otherPart : other.Part) :
    (pipeline.withPart group part).withPart other otherPart =
      (pipeline.withPart other otherPart).withPart group part := by
  refine eq_of_part fun read => ?_
  by_cases hgroup : read = group
  · subst hgroup
    rw [part_withPart h, part_withPart_self, part_withPart_self]
  · by_cases hother : read = other
    · subst hother
      rw [part_withPart_self, part_withPart (Ne.symm h), part_withPart_self]
    · rw [part_withPart hother, part_withPart hgroup, part_withPart hgroup, part_withPart hother]

theorem withPart_withPart (pipeline : Pipeline) (group : StateGroup) (part later : group.Part) :
    (pipeline.withPart group part).withPart group later = pipeline.withPart group later := by
  refine eq_of_part fun other => ?_
  by_cases h : other = group
  · subst h
    rw [part_withPart_self, part_withPart_self]
  · rw [part_withPart h, part_withPart h, part_withPart h]

end Pipeline

/-! ## Settings -/

namespace Setting

/-- The group that a setting writes. -/
abbrev group : Setting → StateGroup
  | .topology _ => .topology
  | .inputLayout _ => .inputLayout
  | .vertexBuffers _ _ => .vertexBuffers
  | .indexBuffer _ => .indexBuffer
  | .shader stage _ => .shader stage
  | .resources stage category _ _ => .resources stage category
  | .cullMode _ | .fillMode _ => .rasterizer
  | .viewports _ => .viewports
  | .scissorRects _ => .scissorRects
  | .renderTargets _ _ => .renderTargets

/-- What a setting makes of the part of its group. -/
def act : (setting : Setting) → setting.group.Part → Except ContextError setting.group.Part
  | .topology given, part => .ok (Tracked.set part given)
  | .inputLayout layout, part => .ok (Tracked.set part layout)
  | .vertexBuffers first buffers, part => SlotArray.setRange part first buffers
  | .indexBuffer buffer, part => .ok (Tracked.set part buffer)
  | .shader _ none, part => .ok (Tracked.set part none)
  | .shader stage (some given), part =>
    if given.stage = stage then .ok (Tracked.set part (some given.id))
    else .error (.stageMismatch given.id given.stage stage)
  | .resources _ _ first ids, part => SlotArray.setRange part first ids
  | .cullMode mode, (cull, fill) => .ok (cull.set mode, fill)
  | .fillMode mode, (cull, fill) => .ok (cull, fill.set mode)
  | .viewports given, part => TrackedList.set part given
  | .scissorRects rects, part => TrackedList.set part rects
  | .renderTargets targets depth, (present, depthTarget) =>
    (fun written => (written, depthTarget.set depth)) <$> present.set targets

end Setting

/-- Tries a change, and stays with the present state if it is refused. -/
def attempt {ε α : Type} (change : α → Except ε α) (state : α) : Except ε Unit × α :=
  match change state with
  | .ok next => (.ok (), next)
  | .error error => (.error error, state)

section Attempt

variable {ε α : Type} {change : α → Except ε α} {state : α}

theorem attempt_of_ok {next : α} (h : change state = .ok next) :
    attempt change state = (.ok (), next) := by
  rw [attempt, h]

theorem attempt_of_error {error : ε} (h : change state = .error error) :
    attempt change state = (.error error, state) := by
  rw [attempt, h]

end Attempt

/-- A call that sets something is an attempt to set it. -/
theorem Session.perform_set {σ : Type} (applier : Applier σ) (session : Session σ)
    (setting : Setting) :
    session.perform applier (.set setting) =
      ((attempt (·.set setting) session.pipeline).1,
        { session with pipeline := (attempt (·.set setting) session.pipeline).2 }) := by
  cases h : session.pipeline.set setting <;> simp only [Session.perform, attempt, h]

namespace Pipeline

variable {pipeline : Pipeline}

/-- A setting reads the part of its group, and replaces it if it is not refused. -/
theorem set_eq (pipeline : Pipeline) (setting : Setting) :
    pipeline.set setting =
      pipeline.withPart setting.group <$> setting.act (pipeline.part setting.group) := by
  cases setting with
  | shader stage shader =>
    cases shader with
    | none => rfl
    | some shader =>
      simp only [set, Setting.act]
      split <;> rfl
  | vertexBuffers first buffers =>
    show _ = pipeline.withPart .vertexBuffers <$> pipeline.vertexBuffers.setRange first buffers
    cases h : pipeline.vertexBuffers.setRange first buffers <;> simp only [set, h] <;> rfl
  | resources stage category first resources =>
    show _ = pipeline.withPart (.resources stage category) <$>
      ((pipeline.stage stage).resources category).setRange first resources
    cases h : ((pipeline.stage stage).resources category).setRange first resources <;>
      simp only [set, h] <;> rfl
  | viewports viewports =>
    show _ = pipeline.withPart .viewports <$> pipeline.viewports.set viewports
    cases h : pipeline.viewports.set viewports <;> simp only [set, h] <;> rfl
  | scissorRects rects =>
    show _ = pipeline.withPart .scissorRects <$> pipeline.scissorRects.set rects
    cases h : pipeline.scissorRects.set rects <;> simp only [set, h] <;> rfl
  | renderTargets targets depth =>
    show _ = pipeline.withPart .renderTargets <$>
      ((fun written => (written, pipeline.depthTarget.set depth)) <$>
        pipeline.renderTargets.set targets)
    cases h : pipeline.renderTargets.set targets <;> simp only [set, h] <;> rfl
  | _ => rfl

/-- A change that reads and replaces the part of one group is an attempt on that part. -/
theorem attempt_of_part {group : StateGroup} {change : Pipeline → Except ContextError Pipeline}
    {act : group.Part → Except ContextError group.Part}
    (h : change pipeline = pipeline.withPart group <$> act (pipeline.part group)) :
    attempt change pipeline =
      ((attempt act (pipeline.part group)).1,
        pipeline.withPart group (attempt act (pipeline.part group)).2) := by
  cases hact : act (pipeline.part group) with
  | ok part =>
    rw [hact] at h
    rw [attempt_of_ok hact, attempt_of_ok h]
  | error error =>
    rw [hact] at h
    rw [attempt_of_error hact, attempt_of_error h, withPart_part]

theorem attempt_set (pipeline : Pipeline) (setting : Setting) :
    attempt (·.set setting) pipeline =
      ((attempt setting.act (pipeline.part setting.group)).1,
        pipeline.withPart setting.group (attempt setting.act (pipeline.part setting.group)).2) :=
  attempt_of_part (set_eq pipeline setting)

/-! ## Marks and changes -/

theorem markClean_eq (pipeline : Pipeline) (group : StateGroup) :
    pipeline.markClean group = pipeline.withPart group (group.unmarked (pipeline.part group)) := by
  cases group <;> rfl

/-- A group hands over what its part says. -/
theorem pending_congr {other : Pipeline} {group : StateGroup}
    (h : pipeline.part group = other.part group) (live : LiveShaders) :
    pipeline.pending live group = other.pending live group := by
  cases group with
  | shader stage =>
    have hshader : (pipeline.stage stage).shader = (other.stage stage).shader := h
    simp only [pending, boundShader, hshader]
  | resources stage category =>
    have hslots : (pipeline.stage stage).resources category =
      (other.stage stage).resources category := h
    simp only [pending, hslots]
  | topology =>
    have htopology : pipeline.topology = other.topology := h
    simp only [pending, htopology]
  | inputLayout =>
    have hlayout : pipeline.inputLayout = other.inputLayout := h
    simp only [pending, hlayout]
  | vertexBuffers =>
    have hbuffers : pipeline.vertexBuffers = other.vertexBuffers := h
    simp only [pending, hbuffers]
  | indexBuffer =>
    have hbuffer : pipeline.indexBuffer = other.indexBuffer := h
    simp only [pending, hbuffer]
  | rasterizer =>
    obtain ⟨hcull, hfill⟩ := Prod.ext_iff.mp h
    simp only [part] at hcull hfill
    simp only [pending, hcull, hfill]
  | viewports =>
    have hviewports : pipeline.viewports = other.viewports := h
    simp only [pending, hviewports]
  | scissorRects =>
    have hrects : pipeline.scissorRects = other.scissorRects := h
    simp only [pending, hrects]
  | renderTargets =>
    obtain ⟨htargets, hdepth⟩ := Prod.ext_iff.mp h
    simp only [part] at htargets hdepth
    simp only [pending, htargets, hdepth]

end Pipeline

end CrossShade
