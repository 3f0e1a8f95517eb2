import CrossShade.Proofs.Pipeline.BoundShaders
import CrossShade.Proofs.Pipeline.Writes

/-!
# Calls that fail

What a call on a context leaves behind when it ends with an error.

* `Applier.answerAll` lets a target answer a row of calls up to the first that it refuses, and
  `Applier.Refuses` says which one that is.
* `Pipeline.waiting` are the groups that changed, with their changes, and `Pipeline.calls` the calls
  that work makes if none is refused.  Both are read off the pipeline before the work.
* `flush_eq` and `run_eq` split work in two: the target answers the calls, and the marks of the
  groups that it accepted are cleared.
* `Session.failed_calls_atomic` is the conclusion: a refused setting leaves the session as it was,
  and so does work that is not valid; work of which a call is refused is `StoppedAt` that call.
-/

namespace CrossShade

/-! ## Rows of calls on a target -/

namespace Applier

variable {σ : Type} {applier : Applier σ} {calls rest : List TargetCall} {call : TargetCall}
  {target next reached : σ} {fault : ShaderError} {position : Nat}

/-- How a target answers a call. -/
def answer (applier : Applier σ) : TargetCall → σ → Except ShaderError Unit × σ
  | .change change => applier.change change
  | .work work => applier.work work

/-- Makes calls in order up to the first refusal: how many were accepted, the result, and the state
of the target. -/
def answerAll (applier : Applier σ) : List TargetCall → σ → Nat × Except ShaderError Unit × σ
  | [], target => (0, .ok (), target)
  | call :: rest, target =>
    match applier.answer call target with
    | (.error fault, target) => (0, .error fault, target)
    | (.ok (), target) =>
      let outcome := answerAll applier rest target
      (outcome.1 + 1, outcome.2)

/-- A target accepts a row of calls, one after the other. -/
inductive Accepts (applier : Applier σ) : List TargetCall → σ → σ → Prop
  | nil (target : σ) : Accepts applier [] target target
  | cons {call : TargetCall} {rest : List TargetCall} {target next reached : σ}
      (hcall : applier.answer call target = (.ok (), next))
      (hrest : Accepts applier rest next reached) : Accepts applier (call :: rest) target reached

/-- A target accepts the calls of a row before a position and refuses the one there.  The state is
the one that the refusal left, so no call came after it. -/
def Refuses (applier : Applier σ) (calls : List TargetCall) (position : Nat) (fault : ShaderError)
    (target reached : σ) : Prop :=
  ∃ call before, calls[position]? = some call ∧
    applier.Accepts (calls.take position) target before ∧
    applier.answer call before = (.error fault, reached)

theorem answerAll_cons_of_error (h : applier.answer call target = (.error fault, next)) :
    applier.answerAll (call :: rest) target = (0, .error fault, next) := by
  rw [answerAll, h]

theorem answerAll_cons_of_ok (h : applier.answer call target = (.ok (), next)) :
    applier.answerAll (call :: rest) target =
      ((applier.answerAll rest next).1 + 1, (applier.answerAll rest next).2) := by
  rw [answerAll, h]

theorem accepts_nil : applier.Accepts [] target reached ↔ target = reached := by
  constructor
  · rintro ⟨⟩
    rfl
  · rintro rfl
    exact .nil target

theorem accepts_cons : applier.Accepts (call :: rest) target reached ↔
    ∃ next, applier.answer call target = (.ok (), next) ∧ applier.Accepts rest next reached := by
  constructor
  · rintro (_ | ⟨hcall, hrest⟩)
    exact ⟨_, hcall, hrest⟩
  · rintro ⟨next, hcall, hrest⟩
    exact .cons hcall hrest

/-- A refusal of the first call, or of one after it was accepted. -/
theorem refuses_cons : applier.Refuses (call :: rest) position fault target reached ↔
    (position = 0 ∧ applier.answer call target = (.error fault, reached)) ∨
      ∃ earlier next, position = earlier + 1 ∧ applier.answer call target = (.ok (), next) ∧
        applier.Refuses rest earlier fault next reached := by
  cases position with
  | zero => simp [Refuses, accepts_nil]
  | succ earlier =>
    simp only [Refuses, List.getElem?_cons_succ, List.take_succ_cons, accepts_cons]
    constructor
    · rintro ⟨refused, before, hrefused, ⟨next, hcall, hrest⟩, hfault⟩
      exact .inr ⟨earlier, next, rfl, hcall, refused, before, hrefused, hrest, hfault⟩
    · rintro (⟨hzero, -⟩ | ⟨same, next, hsame, hcall, refused, before, hrefused, hrest, hfault⟩)
      · cases hzero
      · cases hsame
        exact ⟨refused, before, hrefused, ⟨next, hcall, hrest⟩, hfault⟩

/-- A row of calls ends with an error exactly if one of them is refused; the calls before it were
accepted. -/
theorem answerAll_eq_error_iff :
    applier.answerAll calls target = (position, .error fault, reached) ↔
      applier.Refuses calls position fault target reached := by
  induction calls generalizing target position with
  | nil => simp [answerAll, Refuses]
  | cons call rest ih =>
    rw [refuses_cons]
    rcases hcall : applier.answer call target with ⟨first | _, next⟩
    · rw [answerAll_cons_of_error hcall]
      simp only [Prod.mk.injEq, Except.error.injEq, reduceCtorEq, false_and, and_false,
        exists_false, or_false, eq_comm (a := 0)]
    · rw [answerAll_cons_of_ok hcall]
      simp only [Prod.mk.injEq, reduceCtorEq, false_and, and_false, false_or, true_and]
      constructor
      · rintro ⟨hposition, hresult⟩
        exact ⟨_, next, hposition.symm, rfl, ih.mp (Prod.ext rfl hresult)⟩
      · rintro ⟨earlier, same, rfl, rfl, hrest⟩
        have hcalls := ih.mpr hrest
        rw [hcalls]
        exact ⟨rfl, rfl⟩

/-- What is refused among the first calls ends the row. -/
theorem answerAll_append_of_error {more : List TargetCall}
    (h : applier.answerAll calls target = (position, .error fault, reached)) :
    applier.answerAll (calls ++ more) target = (position, .error fault, reached) := by
  obtain ⟨call, before, hcall, haccepts, hrefused⟩ := answerAll_eq_error_iff.mp h
  obtain ⟨hlt, -⟩ := List.getElem?_eq_some_iff.mp hcall
  refine answerAll_eq_error_iff.mpr ⟨call, before, ?_, ?_, hrefused⟩
  · rw [List.getElem?_append_left hlt, hcall]
  · rwa [List.take_append_of_le_length (Nat.le_of_lt hlt)]

theorem answerAll_append_of_ok (h : (applier.answerAll calls target).2 = (.ok (), next))
    (more : List TargetCall) :
    applier.answerAll (calls ++ more) target =
      (calls.length + (applier.answerAll more next).1, (applier.answerAll more next).2) := by
  induction calls generalizing target with
  | nil =>
    obtain rfl : target = next := congrArg Prod.snd h
    rw [List.nil_append, List.length_nil, Nat.zero_add]
  | cons call rest ih =>
    rcases hcall : applier.answer call target with ⟨fault | _, reached⟩
    · rw [answerAll_cons_of_error hcall] at h
      cases h
    · rw [answerAll_cons_of_ok hcall] at h
      rw [List.cons_append, answerAll_cons_of_ok hcall, ih h, List.length_cons]
      simp only [Nat.add_right_comm]

end Applier

/-! ## What waits to be taken over -/

namespace Pipeline

variable {σ : Type} {live : LiveShaders} {applier : Applier σ} {pipeline source : Pipeline}
  {groups : List StateGroup} {group : StateGroup} {change : Change}

/-- The change of a group, if it changed and a missing shader does not stop it. -/
def change? (pipeline : Pipeline) (live : LiveShaders) (group : StateGroup) : Option Change :=
  match pipeline.pending live group with
  | .ok change => change
  | .error _ => none

/-- The groups that changed, each with its change, in the order in which a target takes them
over. -/
def waiting (pipeline : Pipeline) (live : LiveShaders) (groups : List StateGroup) :
    List (StateGroup × Change) :=
  groups.filterMap fun group => (pipeline.change? live group).map (group, ·)

/-- The calls that a target gets from work if it refuses none. -/
def calls (pipeline : Pipeline) (live : LiveShaders) (work : Work) : List TargetCall :=
  (pipeline.waiting live (StateGroup.neededBy work)).map (.change ·.2) ++ [.work work]

theorem change?_congr (h : pipeline.part group = source.part group) (live : LiveShaders) :
    pipeline.change? live group = source.change? live group := by
  rw [change?, change?, pending_congr h]

theorem waiting_congr (h : ∀ group ∈ groups, pipeline.part group = source.part group)
    (live : LiveShaders) : pipeline.waiting live groups = source.waiting live groups :=
  List.filterMap_congr fun group hgroup => by rw [change?_congr (h group hgroup)]

theorem change?_of_pending {found : Option Change} (h : pipeline.pending live group = .ok found) :
    pipeline.change? live group = found := by
  rw [change?, h]

theorem waiting_cons_of_none (h : pipeline.change? live group = none) :
    pipeline.waiting live (group :: groups) = pipeline.waiting live groups := by
  simp only [waiting, List.filterMap_cons, h, Option.map_none]

theorem waiting_cons_of_some (h : pipeline.change? live group = some change) :
    pipeline.waiting live (group :: groups) = (group, change) :: pipeline.waiting live groups := by
  simp only [waiting, List.filterMap_cons, h, Option.map_some]

theorem map_fst_waiting_sublist :
    ((pipeline.waiting live groups).map Prod.fst).Sublist groups := by
  unfold waiting
  rw [List.map_filterMap]
  induction groups with
  | nil => exact .slnil
  | cons group rest ih =>
    rw [List.filterMap_cons]
    cases pipeline.change? live group with
    | none => exact ih.cons group
    | some change => exact ih.cons_cons group

/-! ## Marks that are cleared -/

/-- The pipeline with several groups that count as unchanged. -/
def markAll (pipeline : Pipeline) (groups : List StateGroup) : Pipeline :=
  groups.foldl markClean pipeline

/-- The marks of some groups are cleared, and all else is as it was. -/
def Cleared (groups : List StateGroup) (before after : Pipeline) : Prop :=
  ∀ group, after.part group =
    if group ∈ groups then group.unmarked (before.part group) else before.part group

theorem part_markClean_of_ne {other : StateGroup} (h : other ≠ group) :
    (pipeline.markClean group).part other = pipeline.part other := by
  rw [markClean_eq, part_withPart h]

theorem part_markClean_self :
    (pipeline.markClean group).part group = group.unmarked (pipeline.part group) := by
  rw [markClean_eq, part_withPart_self]

theorem cleared_markAll (groups : List StateGroup) (pipeline : Pipeline) :
    Cleared groups pipeline (pipeline.markAll groups) := by
  induction groups generalizing pipeline with
  | nil => exact fun group => (if_neg List.not_mem_nil).symm
  | cons head rest ih =>
    intro group
    have hrest : (pipeline.markAll (head :: rest)).part group = _ :=
      ih (pipeline.markClean head) group
    rw [hrest]
    by_cases hhead : group = head
    · subst hhead
      rw [part_markClean_self, StateGroup.unmarked_unmarked, ite_self,
        if_pos List.mem_cons_self]
    · rw [part_markClean_of_ne hhead]
      simp only [List.mem_cons, hhead, false_or]

/-- Which marks are cleared determines the pipeline. -/
theorem Cleared.unique {after other : Pipeline} (h : Cleared groups pipeline after)
    (hother : Cleared groups pipeline other) : after = other :=
  eq_of_part fun group => (h group).trans (hother group).symm

/-- No value changes. -/
theorem Cleared.unmarked {after : Pipeline} (h : Cleared groups pipeline after)
    (group : StateGroup) :
    group.unmarked (after.part group) = group.unmarked (pipeline.part group) := by
  rw [h group]
  split
  · exact StateGroup.unmarked_unmarked group _
  · rfl

/-- A group without marks has no change. -/
theorem change?_of_unmarked (h : source.part group = group.unmarked (pipeline.part group))
    (live : LiveShaders) : source.change? live group = none := by
  rw [change?_congr (h.trans part_markClean_self.symm)]
  exact change?_of_pending (pending_eq_ok_none.mpr (isClean_markClean_self pipeline group))

/-- After the first of the waiting groups were cleared, the others wait as they did.  The induction
is on all groups, and each of them is there once. -/
theorem waiting_of_cleared {after : Pipeline} (hgroups : groups.Nodup) (position : Nat)
    (h : ∀ group ∈ groups, after.part group =
      if group ∈ ((pipeline.waiting live groups).take position).map Prod.fst then
        group.unmarked (pipeline.part group)
      else pipeline.part group) :
    after.waiting live groups = (pipeline.waiting live groups).drop position := by
  induction groups generalizing position with
  | nil => rw [waiting, waiting, List.filterMap_nil, List.filterMap_nil, List.drop_nil]
  | cons group rest ih =>
    obtain ⟨hfresh, hrest⟩ := List.nodup_cons.mp hgroups
    have hgroup := h group List.mem_cons_self
    cases hchange : pipeline.change? live group with
    | none =>
      rw [waiting_cons_of_none hchange] at h hgroup ⊢
      have hafter : after.change? live group = none := by
        split at hgroup
        · exact change?_of_unmarked hgroup live
        · rw [change?_congr hgroup, hchange]
      rw [waiting_cons_of_none hafter]
      exact ih hrest position fun other hother => h other (List.mem_cons_of_mem _ hother)
    | some change =>
      rw [waiting_cons_of_some hchange] at h hgroup ⊢
      cases position with
      | zero =>
        rw [List.drop_zero, ← waiting_cons_of_some hchange]
        exact waiting_congr (fun other hother => h other hother) live
      | succ earlier =>
        rw [List.take_succ_cons, List.map_cons] at h hgroup
        rw [if_pos List.mem_cons_self] at hgroup
        rw [waiting_cons_of_none (change?_of_unmarked hgroup live), List.drop_succ_cons]
        refine ih hrest earlier fun other hother => ?_
        have hne : other ≠ group := fun hsame => hfresh (hsame ▸ hother)
        simpa only [List.mem_cons, hne, false_or] using h other (List.mem_cons_of_mem _ hother)

/-! ## Work, call by call -/

/-- A flush answers the waiting changes in order and clears the groups of those that the target
accepted.  Clearing one group leaves what the later ones wait with. -/
theorem flush_eq (applier : Applier σ) (hgroups : groups.Nodup)
    (hfound : ∀ group ∈ groups, ∃ found, pipeline.pending live group = .ok found) (target : σ) :
    let row := applier.answerAll ((pipeline.waiting live groups).map (.change ·.2)) target
    flush live applier groups pipeline target =
      (row.2.1.mapError .shader,
        pipeline.markAll (((pipeline.waiting live groups).take row.1).map Prod.fst), row.2.2) := by
  induction groups generalizing pipeline target with
  | nil => rfl
  | cons group rest ih =>
    obtain ⟨hfresh, hrest⟩ := List.nodup_cons.mp hgroups
    have hlater : ∀ other ∈ rest, ∃ found, pipeline.pending live other = .ok found :=
      fun other hother => hfound other (List.mem_cons_of_mem _ hother)
    obtain ⟨found, hpending⟩ := hfound group List.mem_cons_self
    have hchange := change?_of_pending hpending
    cases found with
    | none =>
      rw [waiting_cons_of_none hchange, flush, hpending]
      exact ih hrest hlater target
    | some change =>
      rw [waiting_cons_of_some hchange, flush, hpending, List.map_cons]
      rcases hanswer : applier.change change target with ⟨fault | _, next⟩
      · have hrefused : applier.answer (.change change) target = (.error fault, next) := hanswer
        rw [Applier.answerAll_cons_of_error hrefused]
        simp only [hanswer]
        rfl
      · have hparts : ∀ other ∈ rest,
            (pipeline.markClean group).part other = pipeline.part other :=
          fun other hother => part_markClean_of_ne fun hsame => hfresh (hsame ▸ hother)
        have hwaiting := waiting_congr hparts live
        have hstill : ∀ other ∈ rest, ∃ found,
            (pipeline.markClean group).pending live other = .ok found := by
          intro other hother
          rw [pending_congr (hparts other hother)]
          exact hlater other hother
        have hnext := ih hrest hstill next
        rw [hwaiting] at hnext
        have haccepted : applier.answer (.change change) target = (.ok (), next) := hanswer
        rw [Applier.answerAll_cons_of_ok haccepted]
        simp only [hanswer]
        exact hnext

theorem nodup_neededBy (work : Work) : (StateGroup.neededBy work).Nodup := by
  cases work <;> simp only [StateGroup.neededBy] <;> decide

/-- Of work that is valid every change is found. -/
theorem exists_pending_of_validate {work : Work} (h : pipeline.validate live work = .ok ()) :
    ∀ group ∈ StateGroup.neededBy work, ∃ found, pipeline.pending live group = .ok found := by
  intro group hgroup
  cases hpending : pipeline.pending live group with
  | ok found => exact ⟨found, rfl⟩
  | error error =>
    obtain ⟨stage, id, rfl, hmisses⟩ := misses_of_pending_eq_error hpending
    rcases validate_cases pipeline live work with ⟨_, _, _, _, hinvalid⟩ | ⟨hnone, -⟩
    · exact nomatch h.symm.trans hinvalid
    · exact absurd hmisses (hnone stage (StateGroup.shader_mem_neededBy.mp hgroup) id)

/-- Valid work lets the target answer its calls in order.  What it leaves of the pipeline are the
marks of the groups whose changes were not reached or refused. -/
theorem run_eq {work : Work} (applier : Applier σ) (h : pipeline.validate live work = .ok ())
    (target : σ) :
    let row := applier.answerAll (pipeline.calls live work) target
    pipeline.run live applier work target =
      (row.2.1.mapError .shader,
        pipeline.markAll
          (((pipeline.waiting live (StateGroup.neededBy work)).take row.1).map Prod.fst),
        row.2.2) := by
  intro row
  have hflush := flush_eq applier (nodup_neededBy work) (exists_pending_of_validate h) target
  rcases hchanges : applier.answerAll
    ((pipeline.waiting live (StateGroup.neededBy work)).map (.change ·.2)) target with
      ⟨count, fault | _, next⟩
  · have hrow : row = (count, .error fault, next) := Applier.answerAll_append_of_error hchanges
    simp only [hchanges, Except.mapError] at hflush
    simp only [run, h, hflush, hrow, Except.mapError]
  · have hrow := Applier.answerAll_append_of_ok (congrArg Prod.snd hchanges) [.work work]
    have hall := Applier.answerAll_append_of_ok (congrArg Prod.snd hchanges) []
    rw [List.append_nil, hchanges, List.length_map] at hall
    obtain rfl : count = _ := congrArg Prod.fst hall
    rw [List.length_map] at hrow
    simp only [hchanges, Except.mapError, Applier.answerAll, Nat.add_zero, List.take_length]
      at hflush
    rcases hwork : applier.work work next with ⟨fault | _, reached⟩
    · have hrefused : applier.answer (.work work) next = (.error fault, reached) := hwork
      rw [Applier.answerAll_cons_of_error hrefused] at hrow
      have hrow : row = _ := hrow
      simp only [run, h, hflush, hwork, hrow, Except.mapError, Nat.add_zero, List.take_length]
    · have haccepted : applier.answer (.work work) next = (.ok (), reached) := hwork
      rw [Applier.answerAll_cons_of_ok haccepted] at hrow
      have hrow : row = _ := hrow
      simp only [run, h, hflush, hwork, hrow, Except.mapError, Applier.answerAll,
        List.take_of_length_le (Nat.le_add_right _ _)]

end Pipeline

/-! ## Calls on a session -/

namespace Session

variable {σ : Type} {applier : Applier σ} {before after : Session σ} {live : LiveShaders}
  {work : Work} {position : Nat} {fault : ShaderError}

/-- Work ended at a call that the target refused.  The changes of the groups before it were taken
over, and all else is as it was: no value changed, and the refused group and the later ones wait
with the changes that they had. -/
structure StoppedAt (applier : Applier σ) (before after : Session σ) (live : LiveShaders)
    (work : Work) (position : Nat) (fault : ShaderError) : Prop where
  valid : before.pipeline.validate live work = .ok ()
  refused : applier.Refuses (before.pipeline.calls live work) position fault before.target
    after.target
  cleared : Pipeline.Cleared
    (((before.pipeline.waiting live (StateGroup.neededBy work)).take position).map Prod.fst)
    before.pipeline after.pipeline
  kept : ∀ entry ∈ (before.pipeline.waiting live (StateGroup.neededBy work)).drop position,
    after.pipeline.part entry.1 = before.pipeline.part entry.1
  waiting : after.pipeline.waiting live (StateGroup.neededBy work) =
    (before.pipeline.waiting live (StateGroup.neededBy work)).drop position
  values : ∀ group : StateGroup,
    group.unmarked (after.pipeline.part group) = group.unmarked (before.pipeline.part group)

/-- A refused call and the cleared marks say all that there is to say about work that stopped. -/
theorem stoppedAt_of_cleared (hvalid : before.pipeline.validate live work = .ok ())
    (hrefused : applier.Refuses (before.pipeline.calls live work) position fault before.target
      after.target)
    (hcleared : Pipeline.Cleared
      (((before.pipeline.waiting live (StateGroup.neededBy work)).take position).map Prod.fst)
      before.pipeline after.pipeline) :
    StoppedAt applier before after live work position fault where
  valid := hvalid
  refused := hrefused
  cleared := hcleared
  kept entry hentry := by
    have honce : ((before.pipeline.waiting live (StateGroup.neededBy work)).map Prod.fst).Nodup :=
      (Pipeline.nodup_neededBy work).sublist Pipeline.map_fst_waiting_sublist
    have hlater : entry.1 ∈
        ((before.pipeline.waiting live (StateGroup.neededBy work)).map Prod.fst).drop position := by
      rw [← List.map_drop]
      exact List.mem_map_of_mem hentry
    rw [hcleared entry.1, if_neg]
    rw [List.map_take]
    exact fun hearlier => List.disjoint_take_drop honce (Nat.le_refl position) hearlier hlater
  waiting := Pipeline.waiting_of_cleared (Pipeline.nodup_neededBy work) position
    fun group _ => hcleared group
  values := hcleared.unmarked

/-- Work fails because it is not valid, or at a call that the target refuses. -/
theorem perform_work_eq_error_iff {error : ContextError} :
    before.perform applier (.work live work) = (.error error, after) ↔
      before.pipeline.validate live work = .error error ∧ after = before ∨
        ∃ position fault, error = .shader fault ∧
          StoppedAt applier before after live work position fault := by
  cases hvalid : before.pipeline.validate live work with
  | error invalid =>
    have hrun : before.perform applier (.work live work) = (.error invalid, before) := by
      simp only [perform, Pipeline.run, hvalid]
    rw [hrun]
    constructor
    · intro h
      obtain ⟨herror, rfl⟩ := Prod.mk.inj h
      exact .inl ⟨herror, rfl⟩
    · rintro (⟨herror, rfl⟩ | ⟨position, fault, -, hstopped⟩)
      · rw [herror]
      · cases hvalid.symm.trans hstopped.valid
  | ok done =>
    have hrun := Pipeline.run_eq applier hvalid before.target
    have hperform : before.perform applier (.work live work) =
        ((before.pipeline.run live applier work before.target).1,
          ⟨(before.pipeline.run live applier work before.target).2.1,
            (before.pipeline.run live applier work before.target).2.2⟩) := rfl
    rw [hperform, hrun]
    constructor
    · intro h
      obtain ⟨herror, rfl⟩ := Prod.mk.inj h
      rcases hrow : applier.answerAll (before.pipeline.calls live work) before.target with
        ⟨position, fault | _, reached⟩
      · rw [hrow] at herror
        refine .inr ⟨position, fault, (Except.error.inj herror).symm, ?_⟩
        exact stoppedAt_of_cleared hvalid (Applier.answerAll_eq_error_iff.mp hrow)
          (Pipeline.cleared_markAll _ _)
      · rw [hrow] at herror
        cases herror
    · rintro (⟨hinvalid, -⟩ | ⟨position, fault, rfl, hstopped⟩)
      · cases hinvalid
      · rw [Applier.answerAll_eq_error_iff.mpr hstopped.refused]
        have hpipeline := (Pipeline.cleared_markAll _ before.pipeline).unique hstopped.cleared
        rw [hpipeline]
        rfl

/-- A setting that is refused leaves the session as it was, also when it is made in place.  Work
that is not valid, such as an indexed draw without an index buffer, leaves it as it was too and
makes no call on the target.  All other work that fails stopped at a call that the target
refused. -/
theorem failed_calls_atomic (applier : Applier σ) (session : Session σ) :
    (∀ setting, setting.write.exec session.pipeline =
      ((session.perform applier (.set setting)).1,
        (session.perform applier (.set setting)).2.pipeline)) ∧
    (∀ setting error after,
      session.perform applier (.set setting) = (.error error, after) → after = session) ∧
    ∀ live work error after,
      session.perform applier (.work live work) = (.error error, after) ↔
        session.pipeline.validate live work = .error error ∧ after = session ∨
          ∃ position fault, error = .shader fault ∧
            StoppedAt applier session after live work position fault := by
  refine ⟨fun setting => ?_, fun setting error after h => ?_, fun _ _ _ _ =>
    perform_work_eq_error_iff⟩
  · rw [Setting.exec_write, perform_set]
  · cases hset : session.pipeline.set setting with
    | ok next =>
      rw [perform_set, attempt_of_ok hset] at h
      cases h
    | error refused =>
      rw [perform_set, attempt_of_error hset] at h
      exact (congrArg Prod.snd h).symm

/-- A draw whose third change is refused stops there: the two before it were taken over, and all
others wait as they did. -/
theorem failed_draw_atomic :
    let applier := Interface.applier refuseThird
    let session := (start foreignState).performAll applier
      [.set (.shader .vertex (some emptyVertexShader))]
    let failed := session.perform applier (.work emptyVertexShaderOnly (.draw 3 0))
    failed.1 = .error (.shader (.stageUnsupported .direct3D9 .vertex)) ∧
      failed.2.target.calls.length = 3 ∧
      ∃ position, StoppedAt applier session failed.2 emptyVertexShaderOnly (.draw 3 0) position
        (.stageUnsupported .direct3D9 .vertex) := by
  intro applier session failed
  have hfailed : failed.1 = .error (.shader (.stageUnsupported .direct3D9 .vertex)) := by
    decide +kernel
  have hcalls : failed.2.target.calls.length = 3 := by decide +kernel
  refine ⟨hfailed, hcalls, ?_⟩
  rcases ((failed_calls_atomic applier session).2.2 _ _ _ failed.2).mp (Prod.ext hfailed rfl) with
    ⟨hinvalid, -⟩ | ⟨position, fault, hfault, hstopped⟩
  · exact absurd hinvalid (by decide +kernel)
  · cases hfault
    exact ⟨position, hstopped⟩

end Session

end CrossShade
