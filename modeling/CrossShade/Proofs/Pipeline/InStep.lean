import CrossShade.Proofs.Pipeline.Session

/-!
# Targets in step with a pipeline

A target that remembers what it took over shows a native state.  Whatever calls are made and
whatever is refused, that state lags behind the pipeline only where the pipeline is marked, so work
is done by a target that shows all of the pipeline that the work needs.

* `Applier.InStep` is what a target has to do with one change and one piece of work.
* `Applier.InStep.performAll` is the invariant of a session, and `Applier.InStep.shows_of_done` the
  conclusion for work that went well.
-/

namespace CrossShade

variable {σ : Type} {applier : Applier σ} {shows : NativeState → σ → Prop} {live : LiveShaders}
  {pipeline next : Pipeline} {target after : σ} {session : Session σ}

/-- The state of an interface before any call. -/
def NativeState.new : NativeState where
  topology := .triangleList
  inputLayout := none
  vertexBuffers := fun _ => none
  indexBuffer := none
  shader := fun _ => none
  resources := fun _ _ _ => none
  cullMode := .back
  fillMode := .solid
  viewports := []
  scissorRects := []
  renderTargets := []
  depthTarget := none

/-- A target shows a native state: an accepted change makes it show the changed state, a refused one
and work leave what it shows. -/
structure Applier.InStep (applier : Applier σ) (shows : NativeState → σ → Prop) : Prop where
  accepted : ∀ change native target next, shows native target →
    applier.change change target = (.ok (), next) → shows (native.apply change) next
  refused : ∀ change native target next error, shows native target →
    applier.change change target = (.error error, next) → shows native next
  worked : ∀ work native target, shows native target → shows native (applier.work work target).2

namespace Pipeline

/-- The target shows a state that lags behind the pipeline only where the pipeline is marked. -/
def Followed (shows : NativeState → σ → Prop) (pipeline : Pipeline) (target : σ) : Prop :=
  ∃ native, pipeline.Settled native ∧ shows native target

/-- A new pipeline is followed by a target that shows any state. -/
theorem followed_new {native : NativeState} (h : shows native target) :
    Pipeline.Followed shows {} target :=
  ⟨native, settled_new native, h⟩

/-- Work that went well was valid. -/
theorem validate_of_run {work : Work}
    (h : pipeline.run live applier work target = (.ok (), next, after)) :
    pipeline.validate live work = .ok () := by
  unfold run at h
  split at h
  · cases h
  · assumption

/-- An indexed draw needs an index buffer. -/
theorem exists_indexBuffer_of_validate {count start : UInt32} {base : Int}
    (h : pipeline.validate live (.drawIndexed count start base) = .ok ()) :
    ∃ buffer, pipeline.indexBuffer.value = some buffer := by
  obtain ⟨-, -, h⟩ := bind_eq_ok.mp h
  cases hvalue : pipeline.indexBuffer.value with
  | none =>
    rw [hvalue] at h
    cases h
  | some buffer => exact ⟨buffer, rfl⟩

end Pipeline

namespace Applier.InStep

theorem flush (h : applier.InStep shows) (hlive : live.ById) (groups : List StateGroup)
    (hfollowed : pipeline.Followed shows target) :
    (pipeline.flush live applier groups target).2.1.Followed shows
      (pipeline.flush live applier groups target).2.2 := by
  refine Pipeline.flush_induction live applier (Pipeline.Followed shows) ?_ ?_ groups pipeline
    target hfollowed
  · rintro group change pipeline target next ⟨native, hsettled, hshows⟩ hpending hchange
    exact ⟨native.apply change, Pipeline.settled_change hlive hsettled hpending,
      h.accepted change native target next hshows hchange⟩
  · rintro change pipeline target next error ⟨native, hsettled, hshows⟩ hchange
    exact ⟨native, hsettled, h.refused change native target next error hshows hchange⟩

theorem run (h : applier.InStep shows) (hlive : live.ById) (work : Work)
    (hfollowed : pipeline.Followed shows target) :
    (pipeline.run live applier work target).2.1.Followed shows
      (pipeline.run live applier work target).2.2 := by
  refine Pipeline.run_of_flush hfollowed (h.flush hlive (StateGroup.neededBy work) hfollowed) ?_
  rintro next after ⟨native, hsettled, hshows⟩
  exact ⟨native, hsettled, h.worked work native after hshows⟩

theorem perform (h : applier.InStep shows) {call : ContextCall} (hcall : call.ById)
    (hfollowed : session.pipeline.Followed shows session.target) :
    (session.perform applier call).2.pipeline.Followed shows
      (session.perform applier call).2.target := by
  cases call with
  | set setting =>
    simp only [Session.perform]
    split
    · rename_i next hset
      obtain ⟨native, hsettled, hshows⟩ := hfollowed
      exact ⟨native, Pipeline.settled_set hsettled hset, hshows⟩
    · exact hfollowed
  | work live work => exact h.run hcall work hfollowed

theorem performAll (h : applier.InStep shows) {calls : List ContextCall}
    (hcalls : ∀ call ∈ calls, call.ById)
    (hfollowed : session.pipeline.Followed shows session.target) :
    (Session.performAll applier calls session).pipeline.Followed shows
      (Session.performAll applier calls session).target := by
  induction calls generalizing session with
  | nil => exact hfollowed
  | cons call rest ih =>
    exact ih (fun other hother => hcalls other (List.mem_cons_of_mem _ hother))
      (h.perform (hcalls call List.mem_cons_self) hfollowed)

/-- Work that went well was done by a target that shows what the work needs of the pipeline. -/
theorem shows_of_done (h : applier.InStep shows) (hlive : live.ById) {work : Work}
    (hfollowed : pipeline.Followed shows target)
    (hrun : pipeline.run live applier work target = (.ok (), next, after)) :
    ∃ native reached, native.Shows pipeline work ∧ shows native reached ∧
      applier.work work reached = (.ok (), after) := by
  obtain ⟨reached, hflushed, hwork⟩ := Pipeline.flush_of_run hrun
  obtain ⟨native, hsettled, hshows⟩ := h.flush hlive (StateGroup.neededBy work) hfollowed
  have hafter : native.Shows (pipeline.flush live applier (StateGroup.neededBy work) target).2.1
      work := by
    rw [hflushed] at hsettled ⊢
    exact hsettled.shows fun group hgroup => Pipeline.isClean_flush hflushed (.inl hgroup)
  rw [hflushed] at hshows
  exact ⟨native, reached, Pipeline.shows_of_flush hafter, hshows, hwork⟩

end Applier.InStep

end CrossShade
