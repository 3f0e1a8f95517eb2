import CrossShade.Proofs.Pipeline.Session

/-!
# Bound shaders

A pipeline binds shaders by their ids, and a shader may end while it is bound.

* `boundId` is what a stage binds.  Only a setting that binds a shader changes it: other settings,
  flushes and work leave it (`boundId_set`, `boundId_run`).
* `Misses` says that a stage binds a shader that does not exist.  `validate_cases` says that work
  is found invalid for this reason exactly if one of its stages does, and `run_of_misses` that it
  then reaches no target.
* After work was found valid, a flush meets no missing shader (`flush_ne_unknownShader`): a flush
  changes marks, and what is bound is no mark.
-/

namespace CrossShade

/-- The stages whose shaders are run by some work. -/
def Work.stages : Work → List Stage
  | .draw _ _ | .drawIndexed _ _ _ => Stage.graphics
  | .dispatch _ _ _ => [.compute]

/-- The shaders that work needs are those of the stages that it runs. -/
theorem StateGroup.shader_mem_neededBy {stage : Stage} {work : Work} :
    StateGroup.shader stage ∈ StateGroup.neededBy work ↔ stage ∈ work.stages := by
  cases work <;> cases stage <;> simp only [StateGroup.neededBy, Work.stages] <;> decide

/-- Whether a setting binds a shader or unbinds one. -/
def Setting.bindsShader : Setting → Bool
  | .shader _ _ => true
  | _ => false

namespace Pipeline

variable {σ : Type} {live : LiveShaders} {pipeline next : Pipeline} {stage : Stage}

/-! ## What is bound -/

/-- The id of the shader that is bound to a stage. -/
def boundId (pipeline : Pipeline) (stage : Stage) : Option Nat :=
  (pipeline.stage stage).shader.value

theorem boundId_new (stage : Stage) : boundId {} stage = none := by
  cases stage <;> rfl

theorem boundId_bind (pipeline : Pipeline) (stage : Stage) (id : Option Nat) (other : Stage) :
    (pipeline.bind stage id).boundId other =
      if other = stage then id else pipeline.boundId other := by
  unfold boundId bind
  rw [stage_withStage]
  split
  · exact Tracked.value_set _ id
  · rfl

/-- Binding a shader or none changes what its stage binds, and no other stage. -/
theorem boundId_set_shader {shader : Option CompiledShader}
    (h : pipeline.set (.shader stage shader) = .ok next) (other : Stage) :
    next.boundId other = if other = stage then shader.map (·.id) else pipeline.boundId other := by
  cases shader with
  | none =>
    cases h
    exact boundId_bind pipeline stage none other
  | some shader =>
    simp only [set] at h
    split at h
    · cases h
      exact boundId_bind pipeline stage (some shader.id) other
    · cases h

/-- Only a shader of its own stage is bound to a stage. -/
theorem stage_of_set_shader {shader : CompiledShader}
    (h : pipeline.set (.shader stage (some shader)) = .ok next) : shader.stage = stage := by
  simp only [set] at h
  split at h
  · rename_i hstage
    exact hstage
  · cases h

/-- Other settings change nothing that is bound. -/
theorem boundId_set {setting : Setting} (hother : setting.bindsShader = false)
    (h : pipeline.set setting = .ok next) (stage : Stage) :
    next.boundId stage = pipeline.boundId stage := by
  cases setting with
  | shader other shader => cases hother
  | resources other category first ids =>
    simp only [set, bind_eq_ok, pure_eq_ok] at h
    obtain ⟨slots, -, rfl⟩ := h
    unfold boundId
    rw [stage_withStage]
    split
    · rename_i hsame
      rw [shader_withResources, hsame]
    · rfl
  | topology | inputLayout | indexBuffer | cullMode | fillMode =>
    cases h
    rfl
  | vertexBuffers | viewports | scissorRects | renderTargets =>
    simp only [set, bind_eq_ok, pure_eq_ok] at h
    obtain ⟨_, -, rfl⟩ := h
    rfl

theorem boundId_markClean (pipeline : Pipeline) (group : StateGroup) (stage : Stage) :
    (pipeline.markClean group).boundId stage = pipeline.boundId stage := by
  cases group with
  | shader other =>
    unfold boundId markClean
    rw [stage_withStage]
    split
    · rename_i hsame
      rw [Tracked.value_markClean, hsame]
    · rfl
  | resources other category =>
    unfold boundId markClean
    rw [stage_withStage]
    split
    · rename_i hsame
      rw [shader_withResources, hsame]
    · rfl
  | _ => rfl

theorem boundId_flush (live : LiveShaders) (applier : Applier σ) (groups : List StateGroup)
    (pipeline : Pipeline) (target : σ) (stage : Stage) :
    (flush live applier groups pipeline target).2.1.boundId stage = pipeline.boundId stage := by
  refine flush_induction live applier
    (fun after _ => after.boundId stage = pipeline.boundId stage) ?_ ?_ groups pipeline target rfl
  · intro group change after target next hafter hpending hchange
    rw [boundId_markClean, hafter]
  · intro change after target next error hafter hchange
    exact hafter

/-- Work changes nothing that is bound, whether it is done or not. -/
theorem boundId_run (pipeline : Pipeline) (live : LiveShaders) (applier : Applier σ) (work : Work)
    (target : σ) (stage : Stage) :
    (pipeline.run live applier work target).2.1.boundId stage = pipeline.boundId stage := by
  exact run_of_flush (P := fun after _ => after.boundId stage = pipeline.boundId stage) rfl
    (boundId_flush live applier (StateGroup.neededBy work) pipeline target stage)
    fun _ _ hbound => hbound

/-! ## Shaders that are missing -/

/-- A stage binds a shader that does not exist. -/
structure Misses (pipeline : Pipeline) (live : LiveShaders) (stage : Stage) (id : Nat) : Prop where
  bound : pipeline.boundId stage = some id
  gone : live id = none

theorem Misses.boundShader {id : Nat} (h : pipeline.Misses live stage id) :
    pipeline.boundShader live stage = .error (.unknownShader id) := by
  obtain ⟨hbound, hgone⟩ := h
  unfold boundId at hbound
  unfold Pipeline.boundShader
  simp only [hbound, hgone]

/-- Asking for the shader of a stage fails only because it is missing. -/
theorem boundShader_cases (pipeline : Pipeline) (live : LiveShaders) (stage : Stage) :
    (∃ id, pipeline.Misses live stage id ∧
      pipeline.boundShader live stage = .error (.unknownShader id)) ∨
    ∃ shader, pipeline.boundShader live stage = .ok shader := by
  cases hbound : pipeline.boundId stage with
  | none =>
    unfold boundId at hbound
    exact .inr ⟨none, by simp only [boundShader, hbound]⟩
  | some id =>
    cases hfound : live id with
    | none => exact .inl ⟨id, ⟨hbound, hfound⟩, (Misses.mk hbound hfound).boundShader⟩
    | some shader =>
      unfold boundId at hbound
      exact .inr ⟨some shader, by simp only [boundShader, hbound, hfound]⟩

/-- What is assembled is refused for other reasons than a missing shader. -/
theorem assembled_ne_unknownShader (topology : PrimitiveTopology)
    (hull domain : Option CompiledShader) (id : Nat) :
    assembled topology hull domain ≠ .error (.unknownShader id) := by
  intro h
  unfold assembled at h
  dsimp only at h
  split at h
  · split at h
    · split at h <;> cases h
    · cases h
  · cases h
  · cases h
  · split at h <;> cases h

theorem checkGeometry_ne_unknownShader (topology : PrimitiveTopology)
    (primitive : Option GeometryPrimitive) (shader : Option CompiledShader) (id : Nat) :
    checkGeometry topology primitive shader ≠ .error (.unknownShader id) := by
  intro h
  unfold checkGeometry at h
  split at h
  · cases h
  · split at h
    · split at h <;> cases h
    · cases h

/-- A draw asks for the shaders of its stages before it checks anything else, so the first that is
missing is what it fails with.  If none is, it does not fail with a missing shader. -/
theorem validateDraw_cases (pipeline : Pipeline) (live : LiveShaders) :
    (∃ stage ∈ Stage.graphics, ∃ gone, pipeline.Misses live stage gone ∧
      pipeline.validateDraw live = .error (.unknownShader gone)) ∨
    ((∀ stage ∈ Stage.graphics, ∀ id, ¬ pipeline.Misses live stage id) ∧
      ∀ id, pipeline.validateDraw live ≠ .error (.unknownShader id)) := by
  -- The order of the cases is the order in which a draw asks.
  rcases boundShader_cases pipeline live .hull with ⟨gone, hgone, herror⟩ | ⟨hull, hhull⟩
  · exact .inl ⟨.hull, by decide, gone, hgone, by simp [validateDraw, herror]⟩
  rcases boundShader_cases pipeline live .domain with ⟨gone, hgone, herror⟩ | ⟨domain, hdomain⟩
  · exact .inl ⟨.domain, by decide, gone, hgone, by simp [validateDraw, hhull, herror]⟩
  rcases boundShader_cases pipeline live .geometry with
    ⟨gone, hgone, herror⟩ | ⟨geometry, hgeometry⟩
  · exact .inl ⟨.geometry, by decide, gone, hgone, by simp [validateDraw, hhull, hdomain, herror]⟩
  rcases boundShader_cases pipeline live .pixel with ⟨gone, hgone, herror⟩ | ⟨pixel, hpixel⟩
  · exact .inl ⟨.pixel, by decide, gone, hgone,
      by simp [validateDraw, hhull, hdomain, hgeometry, herror]⟩
  rcases boundShader_cases pipeline live .vertex with ⟨gone, hgone, herror⟩ | ⟨vertex, hvertex⟩
  · exact .inl ⟨.vertex, by decide, gone, hgone,
      by simp [validateDraw, hhull, hdomain, hgeometry, hpixel, herror]⟩
  refine .inr ⟨?_, ?_⟩
  · intro stage hstage id hmisses
    have hmissing := hmisses.boundShader
    cases stage with
    | hull => exact nomatch hhull.symm.trans hmissing
    | domain => exact nomatch hdomain.symm.trans hmissing
    | geometry => exact nomatch hgeometry.symm.trans hmissing
    | pixel => exact nomatch hpixel.symm.trans hmissing
    | vertex => exact nomatch hvertex.symm.trans hmissing
    | compute => exact absurd hstage (by decide)
  · intro id h
    simp only [validateDraw, hhull, hdomain, hgeometry, hpixel, hvertex, ok_bind] at h
    cases vertex with
    | none => cases h
    | some shader =>
      cases hassembled : assembled pipeline.topology.value hull domain with
      | error error =>
        simp only [hassembled, error_bind] at h
        cases h
        exact assembled_ne_unknownShader _ hull domain id hassembled
      | ok primitive =>
        simp only [hassembled, ok_bind] at h
        exact checkGeometry_ne_unknownShader _ primitive geometry id h

/-- Work is found invalid because of a missing shader exactly if one of its stages binds one. -/
theorem validate_cases (pipeline : Pipeline) (live : LiveShaders) (work : Work) :
    (∃ stage ∈ work.stages, ∃ gone, pipeline.Misses live stage gone ∧
      pipeline.validate live work = .error (.unknownShader gone)) ∨
    ((∀ stage ∈ work.stages, ∀ id, ¬ pipeline.Misses live stage id) ∧
      ∀ id, pipeline.validate live work ≠ .error (.unknownShader id)) := by
  cases work with
  | draw count start => exact validateDraw_cases pipeline live
  | drawIndexed count start base =>
    rcases validateDraw_cases pipeline live with ⟨stage, hstage, gone, hgone, herror⟩ | ⟨hnone, hne⟩
    · exact .inl ⟨stage, hstage, gone, hgone, by rw [validate, herror, error_bind]⟩
    · refine .inr ⟨hnone, fun id h => ?_⟩
      rw [validate] at h
      cases hdraw : pipeline.validateDraw live with
      | error error =>
        rw [hdraw, error_bind] at h
        exact hne id (hdraw.trans h)
      | ok _ =>
        rw [hdraw, ok_bind] at h
        split at h <;> cases h
  | dispatch x y z =>
    rcases boundShader_cases pipeline live .compute with
      ⟨gone, hgone, herror⟩ | ⟨shader, hshader⟩
    · exact .inl ⟨.compute, List.mem_singleton_self _, gone, hgone,
        by rw [validate, herror, error_bind]⟩
    · refine .inr ⟨fun stage hstage id hmisses => ?_, fun id h => ?_⟩
      · obtain rfl : stage = .compute := List.mem_singleton.mp hstage
        exact nomatch hshader.symm.trans hmisses.boundShader
      · rw [validate, hshader, ok_bind] at h
        split at h <;> cases h

/-- Work that runs a stage whose shader is missing reaches no target and leaves the pipeline as it
is. -/
theorem run_of_misses {work : Work} {id : Nat} (hstage : stage ∈ work.stages)
    (h : pipeline.Misses live stage id) :
    ∃ other ∈ work.stages, ∃ gone, pipeline.Misses live other gone ∧
      ∀ (τ : Type) (applier : Applier τ) (target : τ), pipeline.run live applier work target =
        (.error (.unknownShader gone), pipeline, target) := by
  rcases validate_cases pipeline live work with ⟨other, hother, gone, hgone, herror⟩ | ⟨hnone, -⟩
  · refine ⟨other, hother, gone, hgone, fun τ applier target => ?_⟩
    rw [run, herror]
  · exact absurd h (hnone stage hstage id)

/-! ## Flushes after a check -/

/-- Only a missing shader keeps a group from being handed out. -/
theorem misses_of_pending_eq_error {group : StateGroup} {error : ContextError}
    (h : pipeline.pending live group = .error error) :
    ∃ stage id, group = .shader stage ∧ pipeline.Misses live stage id := by
  cases group with
  | shader stage =>
    simp only [pending] at h
    split at h
    · rcases boundShader_cases pipeline live stage with ⟨id, hid, -⟩ | ⟨shader, hshader⟩
      · exact ⟨stage, id, rfl, hid⟩
      · rw [hshader] at h
        cases h
    · cases h
  | _ => cases h

theorem Misses.of_markClean {group : StateGroup} {id : Nat}
    (h : (pipeline.markClean group).Misses live stage id) : pipeline.Misses live stage id :=
  ⟨(boundId_markClean pipeline group stage).symm.trans h.bound, h.gone⟩

/-- A flush of stages whose shaders are all there meets no missing one.  The induction is on the
groups: marking one clean leaves what is bound. -/
theorem flush_ne_unknownShader_of_not_misses {applier : Applier σ} {groups : List StateGroup}
    {target : σ} (h : ∀ stage, .shader stage ∈ groups → ∀ id, ¬ pipeline.Misses live stage id)
    (id : Nat) :
    (flush live applier groups pipeline target).1 ≠ .error (.unknownShader id) := by
  induction groups generalizing pipeline target with
  | nil =>
    intro herror
    cases herror
  | cons group rest ih =>
    have hrest : ∀ stage, .shader stage ∈ rest → ∀ id, ¬ pipeline.Misses live stage id :=
      fun stage hstage => h stage (List.mem_cons_of_mem _ hstage)
    unfold flush
    split
    · rename_i error hpending
      obtain ⟨stage, missing, rfl, hmissing⟩ := misses_of_pending_eq_error hpending
      exact absurd hmissing (h stage List.mem_cons_self missing)
    · exact ih hrest
    · split
      · intro herror
        cases herror
      · exact ih fun stage hstage missing hmissing =>
          hrest stage hstage missing hmissing.of_markClean

/-- A flush for work that was found valid meets no missing shader. -/
theorem flush_ne_unknownShader {applier : Applier σ} {work : Work} {target : σ}
    (h : pipeline.validate live work = .ok ()) (id : Nat) :
    (flush live applier (StateGroup.neededBy work) pipeline target).1 ≠
      .error (.unknownShader id) := by
  refine flush_ne_unknownShader_of_not_misses ?_ id
  intro stage hneeded missing
  rcases validate_cases pipeline live work with ⟨_, _, _, _, herror⟩ | ⟨hnone, -⟩
  · exact nomatch h.symm.trans herror
  · exact hnone stage (StateGroup.shader_mem_neededBy.mp hneeded) missing

/-- Work fails with a missing shader only because one of its stages binds it. -/
theorem misses_of_run_eq_unknownShader {applier : Applier σ} {work : Work} {target : σ} {id : Nat}
    (h : (pipeline.run live applier work target).1 = .error (.unknownShader id)) :
    ∃ stage ∈ work.stages, pipeline.Misses live stage id := by
  rcases validate_cases pipeline live work with ⟨stage, hstage, gone, hgone, herror⟩ | ⟨-, hne⟩
  · rw [run, herror] at h
    cases h
    exact ⟨stage, hstage, hgone⟩
  · unfold run at h
    split at h
    · rename_i error herror
      cases h
      exact absurd herror (hne id)
    · rename_i hvalid
      have hflush : (flush live applier (StateGroup.neededBy work) pipeline target).1 ≠
          .error (.unknownShader id) := flush_ne_unknownShader hvalid id
      split at h
      · rename_i error next after hflushed
        rw [hflushed] at hflush
        exact absurd h hflush
      · split at h <;> cases h

end Pipeline

end CrossShade
