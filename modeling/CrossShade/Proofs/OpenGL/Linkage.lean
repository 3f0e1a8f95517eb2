import CrossShade.Proofs.OpenGL.Replay
import Mathlib.Data.List.Induction
import Mathlib.Data.List.Infix

/-!
# Resources at binding points

All stages share the binding points of OpenGL, and each hands over its own slots, the empty ones
too.  What a draw finds at the points is told by an invariant of sessions.

* `Agrees` says that no two stages hold different resources in one slot, and `LeftEmpty` that a
  stage has a slot which it did not hand over with one, as far as that can be seen.
* `Linked` is the invariant: a resource that was handed over is at its point, or nothing is and
  another stage left the slot empty.  Settings (`Linked.set`), the groups of a flush (`Linked.take`)
  and work (`Linked.run`) keep it, so `linked_recording` has it for a row of calls.
* `flush_of_draw` finds the draw behind a draw call in the record, and `bound_or_left_empty` says
  what that draw finds.
-/

namespace CrossShade.OpenGL

/-! ## Resources of several stages -/

/-- No two stages hold different resources in the same slot of a category. -/
def Agrees (pipeline : Pipeline) : Prop :=
  ∀ stage other, supports stage = true → supports other = true → ∀ category slot id otherId,
    (pipeline.slots stage category).get? slot = some (some id) →
    (pipeline.slots other category).get? slot = some (some otherId) → id = otherId

/-- A stage has a slot, and if what the slot holds was handed over, it is no resource.  Of a slot
that was changed since then it is not known what was handed over, so nothing is asked of it. -/
def LeftEmpty (pipeline : Pipeline) (stage : Stage) (category : BindingCategory) (slot : Nat) :
    Prop :=
  ∃ value, (pipeline.slots stage category).get? slot = some value ∧
    ((pipeline.slots stage category).CleanAt slot → value = none)

/-- What is at the point of a slot that holds a resource: the resource, or nothing where a stage
that was handed over left the slot empty.  The compute stage counts if there was a dispatch. -/
def Finds (dispatched : Prop) (pipeline : Pipeline) (commands : List Command)
    (category : BindingCategory) (slot id : Nat) : Prop :=
  boundTo commands category (bindingPoint category slot).toNat = some id ∨
  (boundTo commands category (bindingPoint category slot).toNat = none ∧
    ∃ stage, supports stage = true ∧ (stage = .compute → dispatched) ∧
      LeftEmpty pipeline stage category slot)

/-- The resources that were handed over are at their points as far as no other stage left the slots
empty. -/
structure Linked (dispatched : Prop) (pipeline : Pipeline) (commands : List Command) : Prop where
  hasAllSlots : pipeline.HasAllSlots
  agrees : Agrees pipeline
  finds : ∀ stage, supports stage = true → ∀ category slot id,
    (pipeline.slots stage category).get? slot = some (some id) →
    (pipeline.slots stage category).CleanAt slot →
      Finds dispatched pipeline commands category slot id

variable {dispatched : Prop} {pipeline next : Pipeline} {commands : List Command}
  {category : BindingCategory}

theorem linked_new (dispatched : Prop) : Linked dispatched {} [] where
  hasAllSlots := Pipeline.hasAllSlots_new
  agrees _ _ _ _ _ _ _ _ hheld := absurd hheld Pipeline.get?_slots_new
  finds _ _ _ _ _ hheld := absurd hheld Pipeline.get?_slots_new

/-! ### Settings -/

/-- Writes to a slot do not make it one that was handed over with a resource. -/
theorem LeftEmpty.set {stage : Stage} {slot : Nat}
    (h : LeftEmpty pipeline stage category slot)
    (hkeeps : (pipeline.slots stage category).KeepsClean (next.slots stage category)) :
    LeftEmpty next stage category slot := by
  obtain ⟨value, hvalue, hnone⟩ := h
  have hlt : slot < (next.slots stage category).capacity := by
    rw [hkeeps.capacity]
    exact (List.getElem?_eq_some_iff.mp hvalue).1
  refine ⟨(next.slots stage category).slots[slot], List.getElem?_eq_getElem hlt, fun hclean => ?_⟩
  obtain ⟨hbefore, hsame⟩ := hkeeps.clean slot hclean
  have hpresent : (next.slots stage category).get? slot =
      some (next.slots stage category).slots[slot] := List.getElem?_eq_getElem hlt
  rw [hsame, hvalue] at hpresent
  exact (Option.some.inj hpresent).symm.trans (hnone hbefore)

/-- A setting after which the stages agree keeps what was handed over linked. -/
theorem Linked.set {setting : Setting} (h : Linked dispatched pipeline commands)
    (hset : pipeline.set setting = .ok next) (hagrees : Agrees next) :
    Linked dispatched next commands where
  hasAllSlots := h.hasAllSlots.set hset
  agrees := hagrees
  finds := by
    intro stage hstage category slot id hheld hclean
    have hkeeps := Pipeline.keepsClean_set hset
    obtain ⟨hbefore, hsame⟩ := (hkeeps stage category).clean slot hclean
    rcases h.finds stage hstage category slot id (hsame ▸ hheld) hbefore with
      hbound | ⟨hbound, other, hother, hdispatch, hempty⟩
    · exact .inl hbound
    · exact .inr ⟨hbound, other, hother, hdispatch, hempty.set (hkeeps other category)⟩

/-! ### Flushes -/

theorem cleanAt_of_markClean {group : StateGroup} {stage : Stage} {slot : Nat}
    (h : ((pipeline.markClean group).slots stage category).CleanAt slot)
    (hkept : group = .resources stage category → (pipeline.slots stage category).CleanAt slot) :
    (pipeline.slots stage category).CleanAt slot := by
  by_cases hgroup : group = .resources stage category
  · exact hkept hgroup
  · rwa [Pipeline.slots_markClean, if_neg hgroup] at h

/-- Handing over a slot that is clean leaves it as empty as it was. -/
theorem LeftEmpty.markClean {group : StateGroup} {stage : Stage} {slot : Nat}
    (h : LeftEmpty pipeline stage category slot)
    (hkept : group = .resources stage category → (pipeline.slots stage category).CleanAt slot) :
    LeftEmpty (pipeline.markClean group) stage category slot := by
  obtain ⟨value, hvalue, hnone⟩ := h
  refine ⟨value, (Pipeline.get?_slots_markClean ..).trans hvalue, fun hclean => ?_⟩
  exact hnone (cleanAt_of_markClean hclean hkept)

theorem Agrees.markClean (h : Agrees pipeline) (group : StateGroup) :
    Agrees (pipeline.markClean group) := by
  intro stage other hstage hother category slot id otherId hheld hotherHeld
  rw [Pipeline.get?_slots_markClean] at hheld hotherHeld
  exact h stage other hstage hother category slot id otherId hheld hotherHeld

/-- A group after whose calls a point is as before changes nothing about what is found there, if
the slot of the point was not among those handed over. -/
theorem Linked.finds_of_kept (h : Linked dispatched pipeline commands) {group : StateGroup}
    {later : List Command} {stage : Stage} (hstage : supports stage = true) {slot id : Nat}
    (hsame : boundTo later category (bindingPoint category slot).toNat =
      boundTo commands category (bindingPoint category slot).toNat)
    (hkept : ∀ stage, group = .resources stage category → supports stage = true →
      (pipeline.slots stage category).CleanAt slot ∨
        (pipeline.slots stage category).get? slot = none)
    (hheld : (pipeline.slots stage category).get? slot = some (some id))
    (hclean : ((pipeline.markClean group).slots stage category).CleanAt slot) :
    Finds dispatched (pipeline.markClean group) later category slot id := by
  have hcleanOf {user : Stage} (huser : supports user = true) {value : Option Nat}
      (hvalue : (pipeline.slots user category).get? slot = some value)
      (hgroup : group = .resources user category) :
      (pipeline.slots user category).CleanAt slot := by
    refine (hkept user hgroup huser).resolve_right ?_
    rw [hvalue]
    exact Option.some_ne_none value
  unfold Finds
  rw [hsame]
  have hbefore := cleanAt_of_markClean hclean (hcleanOf hstage hheld)
  rcases h.finds stage hstage category slot id hheld hbefore with
    hbound | ⟨hbound, other, hother, hdispatch, value, hvalue, hnone⟩
  · exact .inl hbound
  · refine .inr ⟨hbound, other, hother, hdispatch, ?_⟩
    exact LeftEmpty.markClean ⟨value, hvalue, hnone⟩ (hcleanOf hother hvalue)

/-- A point that a stage gave what its slot holds has the resource of every other stage that has
one there, because they agree, or nothing. -/
theorem Linked.finds_of_handed (h : Linked dispatched pipeline commands) (group : StateGroup)
    {later : List Command} {stage taken : Stage} (hstage : supports stage = true)
    (htaken : supports taken = true) (hcompute : taken = .compute → dispatched) {slot id : Nat}
    (hvalue : (pipeline.slots taken category).get? slot =
      some (boundTo later category (bindingPoint category slot).toNat))
    (hheld : (pipeline.slots stage category).get? slot = some (some id)) :
    Finds dispatched (pipeline.markClean group) later category slot id := by
  unfold Finds
  cases hbound : boundTo later category (bindingPoint category slot).toNat with
  | none =>
    rw [hbound] at hvalue
    refine .inr ⟨rfl, taken, htaken, hcompute, none, ?_, fun _ => rfl⟩
    exact (Pipeline.get?_slots_markClean ..).trans hvalue
  | some bound =>
    rw [hbound] at hvalue
    rw [h.agrees stage taken hstage htaken category slot id bound hheld hvalue]
    exact .inl rfl

/-- Taking over a group keeps what was handed over linked.  Only the slots of the category that a
stage hands over can have another thing at their points. -/
theorem Linked.take {live : LiveShaders} {group : StateGroup} {change : Change}
    {made : List Command} (h : Linked dispatched pipeline commands)
    (hcompute : ∀ category, group = .resources .compute category → dispatched)
    (hpending : pipeline.pending live group = .ok (some change))
    (hmade : Command.ofChange change = .ok made) :
    Linked dispatched (pipeline.markClean group) (commands ++ made) where
  hasAllSlots := h.hasAllSlots.markClean group
  agrees := h.agrees.markClean group
  finds := by
    intro stage hstage category slot id hheld hclean
    rw [Pipeline.get?_slots_markClean] at hheld
    rcases Pipeline.pending_cases hpending with
      ⟨taken, takenCategory, first, ids, rfl, rfl, hslots⟩ | ⟨hgroup, hchange⟩
    · by_cases hcategory : takenCategory = category
      · subst hcategory
        rcases boundTo_of_pending (h.hasAllSlots.capacity_le taken takenCategory) hslots hmade
            commands (h.hasAllSlots.lt_of_get? hheld) with ⟨hsame, hkept⟩ | ⟨htaken, hvalue⟩
        · refine h.finds_of_kept hstage hsame ?_ hheld hclean
          intro other hgroup hother
          cases hgroup
          exact hkept hother
        · refine h.finds_of_handed _ hstage htaken ?_ hvalue hheld
          rintro rfl
          exact hcompute takenCategory rfl
      · refine h.finds_of_kept hstage (boundTo_append ?_ commands) ?_ hheld hclean
        · intro command hcommand
          rcases eq_of_ofChange_resources hmade with ⟨-, rfl⟩ | ⟨rfl, -⟩
          · obtain rfl := List.mem_singleton.mp hcommand
            exact if_neg fun hboth => hcategory hboth.1
          · cases hcommand
        · intro other hgroup
          cases hgroup
          exact absurd rfl hcategory
    · refine h.finds_of_kept hstage (boundTo_append ?_ commands) ?_ hheld hclean
      · intro command hcommand
        exact (of_mem_ofChange hmade hcommand).2 hchange category _
      · intro other hother
        exact absurd hother (hgroup other category)

/-- A flush keeps what was handed over linked; one that hands over the compute stage is part of a
dispatch. -/
theorem Linked.flush {recorder : Recorder} (h : Linked dispatched pipeline recorder.commands)
    (live : LiveShaders) (groups : List StateGroup)
    (hcompute : ∀ category, .resources .compute category ∈ groups → dispatched) :
    Linked dispatched (pipeline.flush live Recorder.applier groups recorder).2.1
      (pipeline.flush live Recorder.applier groups recorder).2.2.commands := by
  refine Pipeline.flush_induction_of_mem live Recorder.applier
    (fun pipeline recorder => Linked dispatched pipeline recorder.commands) groups ?_ ?_ pipeline
    recorder h
  · intro group hgroup change pipeline recorder next hlinked hpending hchange
    obtain ⟨made, hmade, hcommands⟩ := Recorder.commands_of_change hchange
    rw [hcommands]
    exact hlinked.take (fun category hsame => hcompute category (hsame ▸ hgroup)) hpending hmade
  · intro change pipeline recorder next error hlinked hchange
    rwa [Recorder.eq_of_change_error hchange]

/-! ### Work -/

/-- Calls that bind nothing keep what was handed over linked. -/
theorem Linked.append {more : List Command} (h : Linked dispatched pipeline commands)
    (hmore : ∀ command ∈ more, ∀ category point, command.bindsTo? category point = none) :
    Linked dispatched pipeline (commands ++ more) where
  hasAllSlots := h.hasAllSlots
  agrees := h.agrees
  finds := by
    intro stage hstage category slot id hheld hclean
    unfold Finds
    rw [boundTo_append (fun command hmem => hmore command hmem category _)]
    exact h.finds stage hstage category slot id hheld hclean

theorem bindsTo?_workCommand (recorder : Recorder) (work : Work) (category : BindingCategory)
    (point : Nat) : (recorder.workCommand work).bindsTo? category point = none := by
  cases work <;> rfl

/-- A draw does not hand over the compute stage. -/
theorem compute_notMem_graphics (category : BindingCategory) :
    .resources .compute category ∉ StateGroup.graphics := by
  cases category <;> decide

/-- Work keeps what was handed over linked, however it ends. -/
theorem Linked.run (live : LiveShaders) {work : Work} {recorder : Recorder}
    (h : Linked dispatched pipeline recorder.commands)
    (hdispatch : work.IsDraw ∨ dispatched) :
    Linked dispatched (pipeline.run live Recorder.applier work recorder).2.1
      (pipeline.run live Recorder.applier work recorder).2.2.commands := by
  have hcompute (category : BindingCategory)
      (hmem : .resources .compute category ∈ StateGroup.neededBy work) : dispatched := by
    refine hdispatch.resolve_left fun hdraw => compute_notMem_graphics category ?_
    rwa [StateGroup.neededBy_of_isDraw hdraw] at hmem
  refine Pipeline.run_of_flush
    (P := fun next (after : Recorder) => Linked dispatched next after.commands) h
    (h.flush live (StateGroup.neededBy work) hcompute) ?_
  intro next after hlinked
  refine hlinked.append fun command hmem => ?_
  obtain rfl := List.mem_singleton.mp hmem
  exact bindsTo?_workCommand after work

/-- A draw hands over the slots of the vertex and the pixel stage. -/
theorem resources_mem_graphics {stage : Stage} (hstage : stage = .vertex ∨ stage = .pixel)
    (category : BindingCategory) : .resources stage category ∈ StateGroup.graphics := by
  rcases hstage with rfl | rfl
  · cases category <;> decide
  · cases category <;> decide

/-- What a draw finds when its flush ended well.  The slots of the vertex and the pixel stage have
been handed over then, and those of the compute stage are as they were. -/
theorem Linked.finds_of_draw {live : LiveShaders} {work : Work} {recorder after : Recorder}
    (h : Linked dispatched pipeline recorder.commands) (hwork : work.IsDraw)
    (hflush : pipeline.flush live Recorder.applier (StateGroup.neededBy work) recorder =
      (.ok (), next, after))
    {stage : Stage} (hstage : stage = .vertex ∨ stage = .pixel) {slot id : Nat}
    (hheld : (pipeline.slots stage category).get? slot = some (some id)) :
    boundTo after.commands category (bindingPoint category slot).toNat = some id ∨
    (boundTo after.commands category (bindingPoint category slot).toNat = none ∧
      ((∃ other, (other = .vertex ∨ other = .pixel) ∧
          (pipeline.slots other category).get? slot = some none) ∨
        (dispatched ∧ LeftEmpty pipeline .compute category slot))) := by
  rw [StateGroup.neededBy_of_isDraw hwork] at hflush
  have hlinked := h.flush live StateGroup.graphics
    fun category hmem => absurd hmem (compute_notMem_graphics category)
  have hcompute := Pipeline.slots_flush live Recorder.applier StateGroup.graphics pipeline recorder
    (compute_notMem_graphics category)
  have hvalues (other : Stage) := Pipeline.get?_slots_flush live Recorder.applier
    StateGroup.graphics pipeline recorder other category slot
  simp only [hflush] at hlinked hcompute hvalues
  have hclean {other : Stage} (hother : other = .vertex ∨ other = .pixel) :
      (next.slots other category).CleanAt slot :=
    SlotArray.cleanAt_of_dirty_eq_none
      (Pipeline.isClean_flush hflush (.inl (resources_mem_graphics hother category))) slot
  have hexists : supports stage = true := by
    rcases hstage with rfl | rfl <;> rfl
  rcases hlinked.finds stage hexists category slot id ((hvalues stage).trans hheld)
    (hclean hstage) with hbound | ⟨hbound, other, hother, hdispatch, hempty⟩
  · exact .inl hbound
  · refine .inr ⟨hbound, ?_⟩
    by_cases hsame : other = .compute
    · subst hsame
      unfold LeftEmpty at hempty
      rw [hcompute] at hempty
      exact .inr ⟨hdispatch rfl, hempty⟩
    · have hgraphics : other = .vertex ∨ other = .pixel := by
        revert hother hsame
        cases other <;> decide
      obtain ⟨value, hvalue, hnone⟩ := hempty
      rw [hnone (hclean hgraphics), hvalues other] at hvalue
      exact .inl ⟨other, hgraphics, hvalue⟩

/-! ## Sessions -/

/-- Whether a call dispatches. -/
def IsDispatch : ContextCall → Prop
  | .work _ (.dispatch _ _ _) => True
  | _ => False

/-- A new context and a new recorder after some calls. -/
def recording (calls : List ContextCall) : Session Recorder :=
  Session.performAll Recorder.applier calls { target := {} }

theorem recording_concat (calls : List ContextCall) (call : ContextCall) :
    recording (calls ++ [call]) = ((recording calls).perform Recorder.applier call).2 := by
  rw [recording, Session.performAll, List.foldl_append]
  rfl

/-- Calls after each of which the stages agree keep what is handed over linked. -/
theorem linked_recording {calls : List ContextCall}
    (hagrees : ∀ done, done <+: calls → Agrees (recording done).pipeline)
    (hdispatch : ∀ call ∈ calls, IsDispatch call → dispatched) :
    Linked dispatched (recording calls).pipeline (recording calls).target.commands := by
  induction calls using List.reverseRecOn with
  | nil => exact linked_new dispatched
  | append_singleton calls call ih =>
    have hbefore := ih
      (fun done hdone => hagrees done (hdone.trans (List.prefix_append calls [call])))
      (fun other hother => hdispatch other (List.mem_append_left [call] hother))
    have hafter := hagrees (calls ++ [call]) List.prefix_rfl
    have hthis := hdispatch call (List.mem_append_right calls (List.mem_singleton_self call))
    rw [recording_concat] at hafter ⊢
    cases call with
    | set setting =>
      simp only [Session.perform] at hafter ⊢
      split
      · rename_i next hset
        rw [hset] at hafter
        exact hbefore.set hset hafter
      · exact hbefore
    | work live work =>
      refine hbefore.run live ?_
      cases work with
      | dispatch x y z => exact .inr (hthis trivial)
      | _ => exact .inl trivial

/-- Where a draw call stands in the record, a draw was asked for that ended the record at the time.
The calls before it are those that its flush left. -/
theorem flush_of_draw {calls : List ContextCall} {prior later : List Command} {draw : Command}
    (hdraw : draw.IsDraw) (hsplit : (recording calls).target.commands = prior ++ draw :: later) :
    ∃ done live work rest next after, calls = done ++ .work live work :: rest ∧ work.IsDraw ∧
      (recording (done ++ [.work live work])).target.commands = prior ++ [draw] ∧
      (recording done).pipeline.flush live Recorder.applier (StateGroup.neededBy work)
        (recording done).target = (.ok (), next, after) ∧ after.commands = prior := by
  obtain ⟨done, live, work, rest, next, after, rfl, hwork, hended, -, hflush, hafter⟩ :=
    Recorder.records_applier.draw_of_record rfl hdraw hsplit
  exact ⟨done, live, work, rest, next, after, rfl, hwork, hended, hflush, hafter⟩

/-- Wherever a draw call stands in the record of calls after which the stages always agree, a
resource that the vertex or the pixel stage has in a slot is at the point of the slot, or nothing
is.  Nothing is there only where one of the two has the slot empty, or where a dispatch was made and
the slot of the compute stage is empty or was changed since it was handed over. -/
theorem bound_or_left_empty (calls : List ContextCall)
    (hagrees : ∀ done, done <+: calls → Agrees (recording done).pipeline)
    (prior later : List Command) (draw : Command) (hdraw : draw.IsDraw)
    (hsplit : (recording calls).target.commands = prior ++ draw :: later) :
    ∃ done live work rest, calls = done ++ .work live work :: rest ∧ work.IsDraw ∧
      (recording (done ++ [.work live work])).target.commands = prior ++ [draw] ∧
      ∀ stage, stage = .vertex ∨ stage = .pixel → ∀ category slot id,
        ((recording done).pipeline.slots stage category).get? slot = some (some id) →
        boundTo prior category (bindingPoint category slot).toNat = some id ∨
        (boundTo prior category (bindingPoint category slot).toNat = none ∧
          ((∃ other, (other = .vertex ∨ other = .pixel) ∧
              ((recording done).pipeline.slots other category).get? slot = some none) ∨
            ((∃ call ∈ done, IsDispatch call) ∧
              LeftEmpty (recording done).pipeline .compute category slot))) := by
  obtain ⟨done, live, work, rest, next, after, rfl, hwork, hrecorded, hflush, rfl⟩ :=
    flush_of_draw hdraw hsplit
  have hlinked : Linked (∃ call ∈ done, IsDispatch call) (recording done).pipeline
      (recording done).target.commands :=
    linked_recording (fun part hpart => hagrees part (hpart.trans (List.prefix_append done _)))
      (fun call hcall hdispatch => ⟨call, hcall, hdispatch⟩)
  exact ⟨done, live, work, rest, rfl, hwork, hrecorded,
    fun stage hstage category slot id hheld => hlinked.finds_of_draw hwork hflush hstage hheld⟩

/-- Stages of which no slot holds anything but one resource agree. -/
theorem agrees_of_single {id : Nat}
    (h : ∀ stage ∈ Stage.all, ∀ category ∈ BindingCategory.all,
      ∀ value ∈ (pipeline.slots stage category).slots, value = none ∨ value = some id) :
    Agrees pipeline := by
  have hsingle {stage : Stage} {category : BindingCategory} {slot other : Nat}
      (hheld : (pipeline.slots stage category).get? slot = some (some other)) : other = id := by
    have hcategory : category ∈ BindingCategory.all := by cases category <;> decide
    have hvalue := h stage stage.mem_all category hcategory _ (List.mem_of_getElem? hheld)
    exact Option.some.inj (hvalue.resolve_left (Option.some_ne_none other))
  intro stage other _ _ category slot first second hfirst hsecond
  exact (hsingle hfirst).trans (hsingle hsecond).symm

/-- A vertex shader, and uniform buffer 5 in slot 0 of some stages. -/
def settingsWithBuffer (stages : List Stage) : List ContextCall :=
  .set (.shader .vertex (some Session.emptyVertexShader)) ::
    stages.map fun stage => .set (.resources stage .uniformBuffer 0 [some 5])

/-- The same with a draw. -/
def drawWithBuffer (stages : List Stage) : List ContextCall :=
  settingsWithBuffer stages ++ [.work Session.emptyVertexShaderOnly (.draw 3 0)]

theorem agrees_of_prefix_drawWithBuffer {stages : List Stage}
    (h : ∀ done ∈ (drawWithBuffer stages).inits, ∀ stage ∈ Stage.all,
      ∀ category ∈ BindingCategory.all,
      ∀ value ∈ ((recording done).pipeline.slots stage category).slots,
        value = none ∨ value = some 5) :
    ∀ done, done <+: drawWithBuffer stages → Agrees (recording done).pipeline :=
  fun done hdone => agrees_of_single (h done ((List.mem_inits done _).mpr hdone))

/-- A draw call at the end of the record of a list of calls. -/
theorem exists_draw (calls : List ContextCall)
    (h : ((recording calls).target.commands.getLast?.map fun draw => decide draw.IsDraw) =
      some true) :
    ∃ draw, draw.IsDraw ∧
      (recording calls).target.commands = (recording calls).target.commands.dropLast ++ [draw] := by
  obtain ⟨draw, hlast, hdraw⟩ := Option.map_eq_some_iff.mp h
  exact ⟨draw, of_decide_eq_true hdraw, (List.dropLast_append_getLast? draw hlast).symm⟩

/-- Where both stages have the buffer, it is at its point. -/
theorem bound_or_left_empty_both :
    let calls := drawWithBuffer [.vertex, .pixel]
    ∃ prior draw, draw.IsDraw ∧ (recording calls).target.commands = prior ++ [draw] ∧
      boundTo prior .uniformBuffer (bindingPoint .uniformBuffer 0).toNat = some 5 := by
  intro calls
  obtain ⟨draw, hdraw, hsplit⟩ := exists_draw calls (by decide +kernel)
  refine ⟨_, draw, hdraw, hsplit, ?_⟩
  obtain ⟨done, live, work, rest, hcalls, -, -, hbound⟩ :=
    bound_or_left_empty calls (agrees_of_prefix_drawWithBuffer (by decide +kernel)) _ [] draw hdraw
      hsplit
  obtain rfl : done = settingsWithBuffer [.vertex, .pixel] :=
    (eq_of_append_single (by simp [settingsWithBuffer]) hcalls).1
  rcases hbound .vertex (.inl rfl) .uniformBuffer 0 5 (by decide +kernel) with
    hfound | ⟨-, ⟨other, hother, hnone⟩ | ⟨⟨call, hcall, hdispatch⟩, -⟩⟩
  · exact hfound
  · rcases hother with rfl | rfl
    · exact absurd hnone (by decide +kernel)
    · exact absurd hnone (by decide +kernel)
  · simp only [settingsWithBuffer, List.map_cons, List.map_nil, List.mem_cons, List.not_mem_nil,
      or_false] at hcall
    rcases hcall with rfl | rfl | rfl <;> exact hdispatch.elim

/-- Where the vertex stage alone has it, the empty slots of the pixel stage take it away again. -/
theorem vertexOnly_unbound :
    let calls := drawWithBuffer [.vertex]
    (∀ done, done <+: calls → Agrees (recording done).pipeline) ∧
    ((recording (settingsWithBuffer [.vertex])).pipeline.slots .vertex .uniformBuffer).get? 0 =
      some (some 5) ∧
    ∃ prior draw, draw.IsDraw ∧ (recording calls).target.commands = prior ++ [draw] ∧
      boundTo prior .uniformBuffer (bindingPoint .uniformBuffer 0).toNat = none := by
  intro calls
  obtain ⟨draw, hdraw, hsplit⟩ := exists_draw calls (by decide +kernel)
  refine ⟨agrees_of_prefix_drawWithBuffer (by decide +kernel), by decide +kernel, _, draw, hdraw,
    hsplit, by decide +kernel⟩

end CrossShade.OpenGL
