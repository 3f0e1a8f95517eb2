import CrossShade.Proofs.Pipeline.Settled

/-!
# Sessions

A context in use: settings and work in any order, on one pipeline and one target.  The shaders that
exist may be others at every piece of work.

* `Session.perform` makes one call and `Session.performAll` a row of them.
* `Pipeline.flush_induction` is the induction on a flush: what an accepted change and a refused one
  keep, the whole flush keeps.  `Pipeline.run_cases` splits the ways in which work can end;
  `Pipeline.run_of_flush` and `Pipeline.flush_of_run` are what follows for all work and for work
  that went well.
* `Session.settled_performAll` is the invariant of a session, and `work_shows_pipeline` draws the
  conclusion: the target is asked for work only in a state that shows the pipeline.
-/

namespace CrossShade

/-- A call on a context.  Work comes with the shaders that exist at that moment. -/
inductive ContextCall where
  | set (setting : Setting)
  | work (live : LiveShaders) (work : Work)

/-- The shaders of a call are found under their own ids. -/
def ContextCall.ById : ContextCall → Prop
  | .set _ => True
  | .work live _ => live.ById

/-- A pipeline with the target that it drives. -/
structure Session (σ : Type) where
  pipeline : Pipeline := {}
  target : σ

namespace Session

variable {σ : Type}

/-- Makes one call.  A setting that is refused changes nothing. -/
def perform (applier : Applier σ) (session : Session σ) :
    ContextCall → Except ContextError Unit × Session σ
  | .set setting =>
    match session.pipeline.set setting with
    | .ok pipeline => (.ok (), { session with pipeline })
    | .error error => (.error error, session)
  | .work live work =>
    let outcome := session.pipeline.run live applier work session.target
    (outcome.1, ⟨outcome.2.1, outcome.2.2⟩)

/-- Makes calls one after the other, whatever their results. -/
def performAll (applier : Applier σ) (calls : List ContextCall) (session : Session σ) :
    Session σ :=
  calls.foldl (fun session call => (session.perform applier call).2) session

end Session

namespace Pipeline

variable {σ : Type} {live : LiveShaders} {applier : Applier σ}

/-! ## Flushes -/

/-- What an accepted change and a refused change keep, a flush keeps.  The induction is on the
groups; a group that asks for nothing is passed over. -/
theorem flush_induction_of_mem (live : LiveShaders) (applier : Applier σ)
    (P : Pipeline → σ → Prop) (groups : List StateGroup)
    (haccept : ∀ group ∈ groups, ∀ change pipeline target next, P pipeline target →
      pipeline.pending live group = .ok (some change) →
      applier.change change target = (.ok (), next) → P (pipeline.markClean group) next)
    (hrefuse : ∀ change pipeline target next error, P pipeline target →
      applier.change change target = (.error error, next) → P pipeline next)
    (pipeline : Pipeline) (target : σ) (h : P pipeline target) :
    P (flush live applier groups pipeline target).2.1
      (flush live applier groups pipeline target).2.2 := by
  induction groups generalizing pipeline target with
  | nil => exact h
  | cons group rest ih =>
    have hrest := ih fun other hother => haccept other (List.mem_cons_of_mem _ hother)
    unfold flush
    split
    · exact h
    · exact hrest pipeline target h
    · rename_i change hpending
      split
      · rename_i error next hchange
        exact hrefuse change pipeline target next error h hchange
      · rename_i next hchange
        exact hrest _ next
          (haccept group List.mem_cons_self change pipeline target next h hpending hchange)

/-- The same where it does not matter which groups there are. -/
theorem flush_induction (live : LiveShaders) (applier : Applier σ) (P : Pipeline → σ → Prop)
    (haccept : ∀ group change pipeline target next, P pipeline target →
      pipeline.pending live group = .ok (some change) →
      applier.change change target = (.ok (), next) → P (pipeline.markClean group) next)
    (hrefuse : ∀ change pipeline target next error, P pipeline target →
      applier.change change target = (.error error, next) → P pipeline next)
    (groups : List StateGroup) (pipeline : Pipeline) (target : σ) (h : P pipeline target) :
    P (flush live applier groups pipeline target).2.1
      (flush live applier groups pipeline target).2.2 :=
  flush_induction_of_mem live applier P groups (fun group _ => haccept group) hrefuse pipeline
    target h

/-- A flush that ends well leaves its groups clean, and those that were. -/
theorem isClean_flush {groups : List StateGroup} {pipeline next : Pipeline} {target after : σ}
    (hflush : flush live applier groups pipeline target = (.ok (), next, after))
    {group : StateGroup} (h : group ∈ groups ∨ pipeline.IsClean group) : next.IsClean group := by
  induction groups generalizing pipeline target with
  | nil =>
    simp only [flush, Prod.mk.injEq] at hflush
    simpa [hflush.2.1] using h
  | cons head rest ih =>
    unfold flush at hflush
    split at hflush
    · simp at hflush
    · rename_i hpending
      refine ih hflush ?_
      rcases h with hmem | hclean
      · rcases List.mem_cons.mp hmem with rfl | hrest
        · exact .inr (pending_eq_ok_none.mp hpending)
        · exact .inl hrest
      · exact .inr hclean
    · split at hflush
      · simp at hflush
      · refine ih hflush ?_
        rcases h with hmem | hclean
        · rcases List.mem_cons.mp hmem with rfl | hrest
          · exact .inr (isClean_markClean_self pipeline group)
          · exact .inl hrest
        · exact .inr (isClean_markClean hclean head)

/-- Flushing clean groups asks the target for nothing. -/
theorem flush_of_isClean (live : LiveShaders) (applier : Applier σ) {groups : List StateGroup}
    {pipeline : Pipeline} (target : σ)
    (h : ∀ group ∈ groups, pipeline.IsClean group) :
    flush live applier groups pipeline target = (.ok (), pipeline, target) := by
  induction groups with
  | nil => rfl
  | cons group rest ih =>
    have hpending : pipeline.pending live group = .ok none :=
      pending_eq_ok_none.mpr (h group (by simp))
    have hrest := ih fun other hother => h other (by simp [hother])
    simp [flush, hpending, hrest]

/-- The ways in which work can end: it is not valid, a change is refused, or the target is asked
for it. -/
theorem run_cases (pipeline : Pipeline) (live : LiveShaders) (applier : Applier σ) (work : Work)
    (target : σ) :
    (∃ error, pipeline.run live applier work target = (.error error, pipeline, target)) ∨
    (∃ error next after,
      flush live applier (StateGroup.neededBy work) pipeline target =
        (.error error, next, after) ∧
      pipeline.run live applier work target = (.error error, next, after)) ∨
    (∃ next after,
      flush live applier (StateGroup.neededBy work) pipeline target = (.ok (), next, after) ∧
      pipeline.run live applier work target =
        ((applier.work work after).1.mapError .shader, next, (applier.work work after).2)) := by
  unfold run
  split
  · exact .inl ⟨_, rfl⟩
  · split
    · rename_i error next after hflush
      exact .inr (.inl ⟨error, next, after, hflush, rfl⟩)
    · rename_i next after hflush
      refine .inr (.inr ⟨next, after, hflush, ?_⟩)
      split <;> rename_i hwork <;> simp [hwork]

/-- What a flush keeps and the work itself keeps, doing work keeps. -/
theorem run_of_flush {P : Pipeline → σ → Prop} {work : Work} {pipeline : Pipeline} {target : σ}
    (h : P pipeline target)
    (hflush : P (flush live applier (StateGroup.neededBy work) pipeline target).2.1
      (flush live applier (StateGroup.neededBy work) pipeline target).2.2)
    (hwork : ∀ next after, P next after → P next (applier.work work after).2) :
    P (pipeline.run live applier work target).2.1 (pipeline.run live applier work target).2.2 := by
  rcases run_cases pipeline live applier work target with
    ⟨error, hrun⟩ | ⟨error, next, after, hflushed, hrun⟩ | ⟨next, after, hflushed, hrun⟩
  · rw [hrun]
    exact h
  · rw [hrun]
    rwa [hflushed] at hflush
  · rw [hrun]
    rw [hflushed] at hflush
    exact hwork next after hflush

/-- Work that went well was done after a flush that went well. -/
theorem flush_of_run {work : Work} {pipeline next : Pipeline} {target after : σ}
    (h : pipeline.run live applier work target = (.ok (), next, after)) :
    ∃ reached, flush live applier (StateGroup.neededBy work) pipeline target =
      (.ok (), next, reached) ∧ applier.work work reached = (.ok (), after) := by
  rcases run_cases pipeline live applier work target with
    ⟨error, hcase⟩ | ⟨error, flushed, reached, hflushed, hcase⟩ |
      ⟨flushed, reached, hflushed, hcase⟩
  · rw [hcase] at h
    cases h
  · rw [hcase] at h
    cases h
  · rw [hcase, Prod.mk.injEq, Prod.mk.injEq] at h
    obtain ⟨hok, rfl, rfl⟩ := h
    refine ⟨reached, hflushed, Prod.ext ?_ rfl⟩
    cases hwork : (applier.work work reached).1 with
    | error error =>
      rw [hwork] at hok
      cases hok
    | ok done => rfl

/-! ## What a flush does to an interface -/

section Interface

variable {verdict : Verdict} {pipeline : Pipeline} {native : NativeState}

/-- A settled native state shows a stage whose groups are clean. -/
theorem Settled.showsStage (h : pipeline.Settled native) {stage : Stage}
    (hclean : ∀ group ∈ StateGroup.ofStage stage, pipeline.IsClean group) :
    native.ShowsStage pipeline stage := by
  have hshader : pipeline.IsClean (.shader stage) := hclean _ (by simp [StateGroup.ofStage])
  refine ⟨h.shader stage hshader, ?_⟩
  intro category slot id hid
  have hslots : pipeline.IsClean (.resources stage category) := by
    refine hclean _ ?_
    cases category <;> simp [StateGroup.ofStage, BindingCategory.all]
  exact h.resources stage category slot id hid (SlotArray.cleanAt_of_dirty_eq_none hslots slot)

/-- A settled native state shows a pipeline whose groups are clean. -/
theorem Settled.showsGraphics (h : pipeline.Settled native)
    (hclean : ∀ group ∈ StateGroup.graphics, pipeline.IsClean group) :
    native.ShowsGraphics pipeline := by
  have hpart (group : StateGroup) (hmem : group ∈ StateGroup.graphics := by decide) :
      pipeline.IsClean group := hclean group hmem
  refine
    { topology := h.topology (hpart .topology)
      inputLayout := h.inputLayout (hpart .inputLayout)
      vertexBuffers := ?_
      indexBuffer := h.indexBuffer (hpart .indexBuffer)
      stages := ?_
      cullMode := h.cullMode (hpart .rasterizer).1
      fillMode := h.fillMode (hpart .rasterizer).2
      viewports := h.viewports (hpart .viewports)
      scissorRects := h.scissorRects (hpart .scissorRects)
      renderTargets := h.renderTargets (hpart .renderTargets).1
      depthTarget := h.depthTarget (hpart .renderTargets).2 }
  · intro slot buffer hbuffer
    exact h.vertexBuffers slot buffer hbuffer
      (SlotArray.cleanAt_of_dirty_eq_none (hpart .vertexBuffers) slot)
  · intro stage hstage
    refine h.showsStage fun group hgroup => hclean group ?_
    simp only [StateGroup.graphics, List.mem_append, List.mem_flatMap]
    exact .inl (.inr ⟨stage, hstage, hgroup⟩)

theorem Settled.shows (h : pipeline.Settled native) {work : Work}
    (hclean : ∀ group ∈ StateGroup.neededBy work, pipeline.IsClean group) :
    native.Shows pipeline work := by
  cases work with
  | draw count start => exact h.showsGraphics hclean
  | drawIndexed count start base => exact h.showsGraphics hclean
  | dispatch x y z => exact h.showsStage hclean

/-- Marks are no values, so a stage that is shown with fewer marks is shown. -/
theorem showsStage_of_markClean {group : StateGroup} {stage : Stage}
    (h : native.ShowsStage (pipeline.markClean group) stage) :
    native.ShowsStage pipeline stage := by
  obtain ⟨hshader, hresources⟩ := h
  cases group with
  | shader s =>
    simp only [markClean, stage_withStage] at hshader hresources
    split at hshader <;> rename_i hsame
    · subst hsame
      refine ⟨hshader, ?_⟩
      simpa [resources_shader] using hresources
    · exact ⟨hshader, by simpa [hsame] using hresources⟩
  | resources s category =>
    simp only [markClean, stage_withStage] at hshader hresources
    split at hshader <;> rename_i hsame
    · subst hsame
      rw [shader_withResources] at hshader
      refine ⟨hshader, ?_⟩
      intro other slot id hid
      refine hresources other slot id ?_
      rw [if_pos rfl, StageState.resources_withResources]
      split
      · rename_i hcategory
        exact hcategory ▸ hid
      · exact hid
    · exact ⟨hshader, by simpa [hsame] using hresources⟩
  | _ => exact ⟨hshader, hresources⟩

theorem showsGraphics_of_markClean {group : StateGroup}
    (h : native.ShowsGraphics (pipeline.markClean group)) : native.ShowsGraphics pipeline where
  topology := h.topology.trans (by cases group <;> rfl)
  inputLayout := h.inputLayout.trans (by cases group <;> rfl)
  vertexBuffers slot buffer hbuffer :=
    h.vertexBuffers slot buffer (by cases group <;> exact hbuffer)
  indexBuffer := h.indexBuffer.trans (by cases group <;> rfl)
  stages stage hstage := showsStage_of_markClean (h.stages stage hstage)
  cullMode := h.cullMode.trans (by cases group <;> rfl)
  fillMode := h.fillMode.trans (by cases group <;> rfl)
  viewports := h.viewports.trans (by cases group <;> rfl)
  scissorRects := h.scissorRects.trans (by cases group <;> rfl)
  renderTargets := h.renderTargets.trans (by cases group <;> rfl)
  depthTarget := h.depthTarget.trans (by cases group <;> rfl)

theorem shows_of_markClean {group : StateGroup} {work : Work}
    (h : native.Shows (pipeline.markClean group) work) : native.Shows pipeline work := by
  cases work with
  | draw count start => exact showsGraphics_of_markClean h
  | drawIndexed count start base => exact showsGraphics_of_markClean h
  | dispatch x y z => exact showsStage_of_markClean h

variable {interface : Interface}

theorem settled_flush (verdict : Verdict) (hlive : live.ById) (groups : List StateGroup)
    (h : pipeline.Settled interface.native) :
    (flush live (Interface.applier verdict) groups pipeline interface).2.1.Settled
      (flush live (Interface.applier verdict) groups pipeline interface).2.2.native := by
  refine flush_induction live (Interface.applier verdict)
    (fun pipeline interface => pipeline.Settled interface.native) ?_ ?_ groups pipeline interface h
  · intro group change pipeline interface next hsettled hpending hchange
    rw [Interface.native_receive_of_ok hchange]
    exact settled_change hlive hsettled hpending
  · intro change pipeline interface next error hsettled hchange
    rw [Interface.native_receive_of_error hchange]
    exact hsettled

/-- A flush changes no value: what shows the pipeline after it shows the one before. -/
theorem shows_of_flush {target : σ} {groups : List StateGroup} {work : Work}
    (h : native.Shows (flush live applier groups pipeline target).2.1 work) :
    native.Shows pipeline work := by
  refine flush_induction live applier
    (fun after _ => native.Shows after work → native.Shows pipeline work)
    ?_ ?_ groups pipeline target id h
  · intro group change after target next hshows hpending hchange hmarked
    exact hshows (shows_of_markClean hmarked)
  · intro change after target next error hshows hchange
    exact hshows

/-- The calls of a flush are changes. -/
theorem onlyChanged_flush (live : LiveShaders) (verdict : Verdict) (groups : List StateGroup)
    (pipeline : Pipeline) (interface : Interface) :
    interface.OnlyChanged
      (flush live (Interface.applier verdict) groups pipeline interface).2.2 := by
  refine flush_induction live (Interface.applier verdict)
    (fun _ next => interface.OnlyChanged next) ?_ ?_ groups pipeline interface ?_
  · intro group change pipeline before next hbefore hpending hchange
    exact hbefore.receive hchange
  · intro change pipeline before next error hbefore hchange
    exact hbefore.receive hchange
  · exact ⟨[], by simp, by simp⟩

/-! ## What work does to an interface -/

/-- Work keeps the invariant, whether it is done, refused or never reached. -/
theorem settled_run (hlive : live.ById) (work : Work) (h : pipeline.Settled interface.native) :
    (pipeline.run live (Interface.applier verdict) work interface).2.1.Settled
      (pipeline.run live (Interface.applier verdict) work interface).2.2.native := by
  refine run_of_flush (P := fun next (after : Interface) => next.Settled after.native) h
    (settled_flush verdict hlive (StateGroup.neededBy work) h) ?_
  intro next after hsettled
  rwa [show ((Interface.applier verdict).work work after).2.native = after.native from
    Interface.native_receive_work verdict work after]

/-- Whatever calls some work makes, the work itself is asked for only in a state that shows the
pipeline, and it is asked for last if all goes well. -/
theorem calls_run (hlive : live.ById) (work : Work) (h : pipeline.Settled interface.native) :
    ∃ made,
      (pipeline.run live (Interface.applier verdict) work interface).2.2.calls =
        interface.calls ++ made ∧
      (∀ asked seen, (.work asked, seen) ∈ made → asked = work ∧ seen.Shows pipeline work) ∧
      ((pipeline.run live (Interface.applier verdict) work interface).1 = .ok () →
        ∃ changes seen, made = changes ++ [(.work work, seen)]) := by
  have hsettled := settled_flush verdict hlive (StateGroup.neededBy work) h
  obtain ⟨made, hmade, hchanges⟩ :=
    onlyChanged_flush live verdict (StateGroup.neededBy work) pipeline interface
  have hnone : ∀ asked seen, (TargetCall.work asked, seen) ∉ made := by
    intro asked seen hmem
    obtain ⟨change, hchange⟩ := hchanges _ hmem
    simp at hchange
  rcases run_cases pipeline live (Interface.applier verdict) work interface with
    ⟨error, hrun⟩ | ⟨error, next, after, hflushed, hrun⟩ | ⟨next, after, hflushed, hrun⟩
  · exact ⟨[], by simp [hrun], by simp, by simp [hrun]⟩
  · rw [hflushed] at hmade
    refine ⟨made, by rw [hrun]; exact hmade, ?_, by simp [hrun]⟩
    intro asked seen hmem
    exact absurd hmem (hnone asked seen)
  · have hshows : after.native.Shows pipeline work := by
      have hclean : ∀ group ∈ StateGroup.neededBy work, next.IsClean group :=
        fun group hgroup => isClean_flush hflushed (.inl hgroup)
      have hafter : after.native.Shows (flush live (Interface.applier verdict)
          (StateGroup.neededBy work) pipeline interface).2.1 work := by
        rw [hflushed] at hsettled ⊢
        exact hsettled.shows hclean
      exact shows_of_flush hafter
    rw [hflushed] at hmade
    refine ⟨made ++ [(.work work, after.native)], ?_, ?_, fun _ => ⟨made, after.native, rfl⟩⟩
    · rw [hrun]
      have hcalls := Interface.calls_receive verdict (.work work) after
      rw [hmade, List.append_assoc] at hcalls
      exact hcalls
    · intro asked seen hmem
      rcases List.mem_append.mp hmem with hold | hlast
      · exact absurd hold (hnone asked seen)
      · simp only [List.mem_singleton, Prod.mk.injEq, TargetCall.work.injEq] at hlast
        obtain ⟨rfl, rfl⟩ := hlast
        exact ⟨rfl, hshows⟩

/-- Work that went well leaves nothing marked that it needs. -/
theorem isClean_run {work : Work} {σ : Type} {applier : Applier σ} {pipeline next : Pipeline}
    {target after : σ} (hrun : pipeline.run live applier work target = (.ok (), next, after)) :
    ∀ group ∈ StateGroup.neededBy work, next.IsClean group := by
  intro group hgroup
  obtain ⟨reached, hflushed, -⟩ := flush_of_run hrun
  exact isClean_flush hflushed (.inl hgroup)

/-- Work that needs only clean groups makes no call but its own. -/
theorem calls_run_of_isClean {work : Work}
    (h : ∀ group ∈ StateGroup.neededBy work, pipeline.IsClean group) :
    (pipeline.run live (Interface.applier verdict) work interface).2.2.calls = interface.calls ∨
    (pipeline.run live (Interface.applier verdict) work interface).2.2.calls =
      interface.calls ++ [(.work work, interface.native)] := by
  have hflush := flush_of_isClean live (Interface.applier verdict) interface h
  rcases run_cases pipeline live (Interface.applier verdict) work interface with
    ⟨error, hrun⟩ | ⟨error, next, after, hflushed, hrun⟩ | ⟨next, after, hflushed, hrun⟩
  · exact .inl (by rw [hrun])
  · rw [hflush] at hflushed
    simp at hflushed
  · rw [hflush] at hflushed
    simp only [Prod.mk.injEq, true_and] at hflushed
    obtain ⟨rfl, rfl⟩ := hflushed
    rw [hrun]
    exact .inr (Interface.calls_receive verdict (.work work) interface)

end Interface

end Pipeline

/-! ## Whole sessions -/

/-- Whether work draws. -/
def Work.IsDraw : Work → Prop
  | .draw _ _ | .drawIndexed _ _ _ => True
  | .dispatch _ _ _ => False

theorem StateGroup.neededBy_of_isDraw {work : Work} (h : work.IsDraw) :
    StateGroup.neededBy work = StateGroup.graphics := by
  cases work with
  | dispatch x y z => exact h.elim
  | _ => rfl

namespace Session

variable {verdict : Verdict} {session : Session Interface}

/-- One call keeps a session settled. -/
theorem settled_perform {call : ContextCall} (hcall : call.ById)
    (h : session.pipeline.Settled session.target.native) :
    (session.perform (Interface.applier verdict) call).2.pipeline.Settled
      (session.perform (Interface.applier verdict) call).2.target.native := by
  cases call with
  | set setting =>
    simp only [perform]
    split
    · rename_i next hset
      exact Pipeline.settled_set h hset
    · exact h
  | work live work => exact Pipeline.settled_run hcall work h

/-- So does a row of calls. -/
theorem settled_performAll {calls : List ContextCall} (hcalls : ∀ call ∈ calls, call.ById)
    (h : session.pipeline.Settled session.target.native) :
    (performAll (Interface.applier verdict) calls session).pipeline.Settled
      (performAll (Interface.applier verdict) calls session).target.native := by
  induction calls generalizing session with
  | nil => exact h
  | cons call rest ih =>
    exact ih (fun other hother => hcalls other (by simp [hother]))
      (settled_perform (hcalls call (by simp)) h)

/-- A new context on an interface in any state. -/
def start (native : NativeState) : Session Interface :=
  { target := { native } }

/-- After any calls on a new context, and whatever the target refuses, work reaches the target only
in a state that shows the context: all that a draw uses at a draw, the compute stage at a dispatch.
A second draw right after one that went well makes no call but its own. -/
theorem work_shows_pipeline (verdict : Verdict) (native : NativeState)
    (calls : List ContextCall) (live later : LiveShaders) (work next : Work)
    (hcalls : ∀ call ∈ calls, call.ById) (hlive : live.ById) :
    let applier := Interface.applier verdict
    let before := performAll applier calls (start native)
    let first := before.perform applier (.work live work)
    let second := first.2.perform applier (.work later next)
    (∃ made, first.2.target.calls = before.target.calls ++ made ∧
      (∀ asked seen, (.work asked, seen) ∈ made →
        asked = work ∧ seen.Shows before.pipeline work) ∧
      (first.1 = .ok () → ∃ changes seen, made = changes ++ [(.work work, seen)])) ∧
    (first.1 = .ok () → work.IsDraw → next.IsDraw →
      second.2.target.calls = first.2.target.calls ∨
      second.2.target.calls =
        first.2.target.calls ++ [(.work next, first.2.target.native)]) := by
  intro applier before first second
  have hsettled : before.pipeline.Settled before.target.native :=
    settled_performAll hcalls (Pipeline.settled_new native)
  refine ⟨Pipeline.calls_run hlive work hsettled, ?_⟩
  intro hok hdraw hnext
  have hrun : before.pipeline.run live applier work before.target =
      (.ok (), first.2.pipeline, first.2.target) := Prod.ext hok rfl
  have hclean := Pipeline.isClean_run hrun
  rw [StateGroup.neededBy_of_isDraw hdraw, ← StateGroup.neededBy_of_isDraw hnext] at hclean
  exact Pipeline.calls_run_of_isClean hclean

/-- A compiled vertex shader without anything in it. -/
def emptyVertexShader : CompiledShader :=
  ⟨0, "Empty", .vertex, "", "", [], .none, { name := "Empty", stage := .vertex }⟩

/-- That shader alone. -/
def emptyVertexShaderOnly : LiveShaders :=
  fun id => if id = 0 then some emptyVertexShader else none

theorem byId_emptyVertexShaderOnly : emptyVertexShaderOnly.ById := by
  intro id shader h
  simp only [emptyVertexShaderOnly, Option.ite_none_right_eq_some, Option.some.injEq] at h
  rw [← h.2, h.1]
  rfl

/-- The third call is refused, all others are accepted. -/
def refuseThird : Verdict :=
  fun interface _ =>
    if interface.calls.length = 2 then some (.stageUnsupported .direct3D9 .vertex) else none

/-- A state that nothing in a new context shows. -/
def foreignState : NativeState :=
  ⟨.pointList, some 7, fun _ => none, none, fun _ => some 9, fun _ _ _ => some 8, .none,
    .wireframe, [], [], [some 5], none⟩

/-- A draw that `refuseThird` stops with most changes open, and then one more setting. -/
def stoppedCalls : List ContextCall :=
  [.set (.shader .vertex (some emptyVertexShader)), .work emptyVertexShaderOnly (.draw 3 0),
    .set (.resources .vertex .sampler 2 [some 4])]

/-- The session after these calls. -/
def stoppedSession : Session Interface :=
  performAll (Interface.applier refuseThird) stoppedCalls (start foreignState)

/-- The draw after the refusal makes up for all that is open, and the next one asks for nothing
more. -/
theorem work_shows_pipeline_after_refusal :
    let applier := Interface.applier refuseThird
    let first := stoppedSession.perform applier (.work emptyVertexShaderOnly (.draw 3 0))
    let second := first.2.perform applier (.work emptyVertexShaderOnly (.draw 6 3))
    stoppedSession.target.calls.length = 3 ∧ first.1 = .ok () ∧
      (∃ changes seen, first.2.target.calls =
        stoppedSession.target.calls ++ (changes ++ [(.work (.draw 3 0), seen)]) ∧
        seen.ShowsGraphics stoppedSession.pipeline) ∧
      second.2.target.calls =
        first.2.target.calls ++ [(.work (.draw 6 3), first.2.target.native)] := by
  have hrefused : stoppedSession.target.calls.length = 3 := by decide +kernel
  have hok : (stoppedSession.perform (Interface.applier refuseThird)
      (.work emptyVertexShaderOnly (.draw 3 0))).1 = .ok () := by decide +kernel
  have hmore : ((stoppedSession.perform (Interface.applier refuseThird)
      (.work emptyVertexShaderOnly (.draw 3 0))).2.perform (Interface.applier refuseThird)
        (.work emptyVertexShaderOnly (.draw 6 3))).2.target.calls ≠
      (stoppedSession.perform (Interface.applier refuseThird)
        (.work emptyVertexShaderOnly (.draw 3 0))).2.target.calls := by
    intro h
    exact absurd (congrArg List.length h) (by decide +kernel)
  obtain ⟨⟨made, hmade, hshown, hends⟩, hsecond⟩ :=
    work_shows_pipeline refuseThird foreignState stoppedCalls emptyVertexShaderOnly
      emptyVertexShaderOnly (.draw 3 0) (.draw 6 3)
      (by simp [stoppedCalls, ContextCall.ById, byId_emptyVertexShaderOnly])
      byId_emptyVertexShaderOnly
  refine ⟨hrefused, hok, ?_, (hsecond hok trivial trivial).resolve_left hmore⟩
  obtain ⟨changes, seen, hchanges⟩ := hends hok
  refine ⟨changes, seen, hchanges ▸ hmade, ?_⟩
  exact (hshown (.draw 3 0) seen (by simp [hchanges])).2

end Session

end CrossShade
