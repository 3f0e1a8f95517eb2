import Mathlib.Data.List.Induction
import CrossShade.Proofs.Pipeline.InStep
import CrossShade.Proofs.Records

/-!
# Draws in a record

A target that keeps a record of its calls, and the draws that stand in it.

* `Applier.Records`: the record of a target only grows.  Changes add no draw, and work adds one only
  if it draws and is done.
* `flush` and `perform` are what a flush and one call of a session add, `draw_of_record` is the run:
  where a draw stands in the record, some work was done that ended the record at the time.
* `Applier.InStep.draw_of_record`: at that moment the target shows what the work needs of the
  pipeline.
-/

namespace CrossShade

variable {σ γ : Type} {applier : Applier σ} {record : σ → List γ} {draws : γ → Prop}

/-- A target keeps a record.  Changes add no draw to it; work adds a draw only if it draws and is
done, and then adds nothing else. -/
structure Applier.Records (applier : Applier σ) (record : σ → List γ) (draws : γ → Prop) :
    Prop where
  change : ∀ change target result next, applier.change change target = (result, next) →
    ∃ made, record next = record target ++ made ∧ ∀ entry ∈ made, ¬draws entry
  work : ∀ work target result next, applier.work work target = (result, next) →
    ∃ made, record next = record target ++ made ∧
      ∀ entry ∈ made, draws entry → made = [entry] ∧ work.IsDraw ∧ result = .ok ()

namespace Applier.Records

variable {live : LiveShaders}

/-- A flush adds no draw. -/
theorem flush (h : applier.Records record draws) (live : LiveShaders) (groups : List StateGroup)
    (pipeline : Pipeline) (target : σ) :
    ∃ made, record (pipeline.flush live applier groups target).2.2 = record target ++ made ∧
      ∀ entry ∈ made, ¬draws entry := by
  have hstep {change : Change} {between next : σ} {result : Except ShaderError Unit}
      (hbetween : ∃ made, record between = record target ++ made ∧ ∀ entry ∈ made, ¬draws entry)
      (hchange : applier.change change between = (result, next)) :
      ∃ made, record next = record target ++ made ∧ ∀ entry ∈ made, ¬draws entry := by
    obtain ⟨made, hmade, hnone⟩ := hbetween
    obtain ⟨more, hmore, hnoneMore⟩ := h.change _ _ _ _ hchange
    refine ⟨made ++ more, by rw [hmore, hmade, List.append_assoc], fun entry hentry => ?_⟩
    rcases List.mem_append.mp hentry with hold | hnew
    · exact hnone entry hold
    · exact hnoneMore entry hnew
  refine Pipeline.flush_induction live applier
    (fun _ next => ∃ made, record next = record target ++ made ∧ ∀ entry ∈ made, ¬draws entry)
    ?_ ?_ groups pipeline target ⟨[], by rw [List.append_nil], nofun⟩
  · intro group change pipeline between next hbetween hpending hchange
    exact hstep hbetween hchange
  · intro change pipeline between next error hbetween hchange
    exact hstep hbetween hchange

/-- What one call adds to the record holds no draw, or ends with one: then the call is work that was
done after a flush. -/
theorem perform (h : applier.Records record draws) (session : Session σ) (call : ContextCall) :
    ∃ made, record (session.perform applier call).2.target = record session.target ++ made ∧
      ((∀ entry ∈ made, ¬draws entry) ∨
        ∃ live work next reached changes draw, call = .work live work ∧ work.IsDraw ∧
          (session.perform applier call).1 = .ok () ∧
          session.pipeline.flush live applier (StateGroup.neededBy work) session.target =
            (.ok (), next, reached) ∧
          record reached = record session.target ++ changes ∧
          (∀ entry ∈ changes, ¬draws entry) ∧ made = changes ++ [draw]) := by
  cases call with
  | set setting =>
    refine ⟨[], ?_, .inl nofun⟩
    rw [List.append_nil]
    simp only [Session.perform]
    split <;> rfl
  | work live work =>
    obtain ⟨changes, hchanges, hnone⟩ :=
      h.flush live (StateGroup.neededBy work) session.pipeline session.target
    rcases Pipeline.run_cases session.pipeline live applier work session.target with
      ⟨error, hrun⟩ | ⟨error, next, reached, hflushed, hrun⟩ | ⟨next, reached, hflushed, hrun⟩
    · refine ⟨[], ?_, .inl nofun⟩
      simp only [Session.perform, hrun, List.append_nil]
    · rw [hflushed] at hchanges
      refine ⟨changes, ?_, .inl hnone⟩
      simpa only [Session.perform, hrun] using hchanges
    · rw [hflushed] at hchanges
      obtain ⟨made, hmade, hwork⟩ := h.work work reached _ _ rfl
      refine ⟨changes ++ made, ?_, ?_⟩
      · simp only [Session.perform, hrun]
        rw [hmade, hchanges, List.append_assoc]
      · by_cases hdraw : ∃ draw ∈ made, draws draw
        · obtain ⟨draw, hmem, hdraw⟩ := hdraw
          obtain ⟨rfl, hdraws, hok⟩ := hwork draw hmem hdraw
          refine .inr ⟨live, work, next, reached, changes, draw, rfl, hdraws, ?_, hflushed,
            hchanges, hnone, rfl⟩
          simp only [Session.perform, hrun, hok, mapError_ok]
        · refine .inl fun entry hentry hdraws => ?_
          rcases List.mem_append.mp hentry with hold | hnew
          · exact hnone entry hold hdraws
          · exact hdraw ⟨entry, hnew, hdraws⟩

/-- Where a draw stands in the record, work was done that ended the record at the time.  The part
of the record before it is what the flush of that work left. -/
theorem draw_of_record (h : applier.Records record draws) {target : σ} (hnew : record target = [])
    {calls : List ContextCall} {prior later : List γ} {draw : γ} (hdraw : draws draw)
    (hsplit : record (Session.performAll applier calls { target }).target =
      prior ++ draw :: later) :
    ∃ done live work rest next reached, calls = done ++ .work live work :: rest ∧ work.IsDraw ∧
      record (Session.performAll applier (done ++ [.work live work]) { target }).target =
        prior ++ [draw] ∧
      ((Session.performAll applier done { target }).perform applier (.work live work)).1 = .ok () ∧
      (Session.performAll applier done { target }).pipeline.flush live applier
        (StateGroup.neededBy work) (Session.performAll applier done { target }).target =
          (.ok (), next, reached) ∧
      record reached = prior := by
  have hlast (calls : List ContextCall) (call : ContextCall) :
      Session.performAll applier (calls ++ [call]) { target } =
        ((Session.performAll applier calls { target }).perform applier call).2 :=
    List.foldl_concat ..
  induction calls using List.reverseRecOn generalizing later with
  | nil =>
    have hnone : record target = prior ++ draw :: later := hsplit
    rw [hnew] at hnone
    cases prior <;> cases hnone
  | append_singleton calls call ih =>
    obtain ⟨made, hmade, hends⟩ := h.perform (Session.performAll applier calls { target }) call
    rw [hlast, hmade] at hsplit
    rcases split_append hsplit with ⟨more, hold⟩ | ⟨between, rfl, hrest⟩
    · obtain ⟨done, live, work, rest, next, reached, rfl, hfound⟩ := ih hold
      exact ⟨done, live, work, rest ++ [call], next, reached, by simp, hfound⟩
    · have hmem : draw ∈ made := hrest ▸ List.mem_append_right between List.mem_cons_self
      rcases hends with hnone | ⟨live, work, next, reached, changes, last, rfl, hwork, hok, hflush,
        hreached, hnone, rfl⟩
      · exact absurd hdraw (hnone draw hmem)
      · obtain ⟨rfl, rfl⟩ := eq_of_append_single (fun hin => hnone draw hin hdraw) hrest
        refine ⟨calls, live, work, [], next, reached, rfl, hwork, ?_, hok, hflush, hreached⟩
        rw [hlast, hmade, List.append_assoc]

end Applier.Records

/-- Wherever a draw stands in the record of a target that shows a native state, the work that
recorded it was valid and found the target in a state that shows what a draw needs of the pipeline
of that moment. -/
theorem Applier.InStep.draw_of_record {shows : NativeState → σ → Prop}
    (h : applier.InStep shows) (hrecords : applier.Records record draws) {target : σ}
    (hshows : shows .new target) (hnew : record target = []) {calls : List ContextCall}
    (hcalls : ∀ call ∈ calls, call.ById) {prior later : List γ} {draw : γ} (hdraw : draws draw)
    (hsplit : record (Session.performAll applier calls { target }).target =
      prior ++ draw :: later) :
    ∃ done live work rest native reached after, calls = done ++ .work live work :: rest ∧
      work.IsDraw ∧
      record (Session.performAll applier (done ++ [.work live work]) { target }).target =
        prior ++ [draw] ∧
      (Session.performAll applier done { target }).pipeline.validate live work = .ok () ∧
      native.ShowsGraphics (Session.performAll applier done { target }).pipeline ∧
      shows native reached ∧ applier.work work reached = (.ok (), after) ∧
      record after = prior ++ [draw] := by
  obtain ⟨done, live, work, rest, -, -, rfl, hwork, hended, hok, -, -⟩ :=
    hrecords.draw_of_record hnew hdraw hsplit
  have hrun : (Session.performAll applier done { target }).pipeline.run live applier work
      (Session.performAll applier done { target }).target = (.ok (), _, _) := Prod.ext hok rfl
  have hstart : ({ target } : Session σ).pipeline.Followed shows target :=
    Pipeline.followed_new hshows
  have hfollowed :=
    h.performAll (fun call hcall => hcalls call (List.mem_append_left _ hcall)) hstart
  have hlive : live.ById := hcalls (.work live work) (by simp)
  obtain ⟨native, reached, hnative, hreached, hdone⟩ := h.shows_of_done hlive hfollowed hrun
  refine ⟨done, live, work, rest, native, reached, _, rfl, hwork, hended,
    Pipeline.validate_of_run hrun, ?_, hreached, hdone, ?_⟩
  · cases work with
    | dispatch x y z => exact hwork.elim
    | _ => exact hnative
  · rw [Session.performAll, List.foldl_concat] at hended
    exact hended

end CrossShade
