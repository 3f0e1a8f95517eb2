import CrossShade.Proofs.Device.Run
import CrossShade.Proofs.Pipeline.BoundShaders

/-!
# A device and its contexts

Calls on a device and on any number of contexts, in any order.  Contexts bind shaders without
keeping them: a shader ends when the device destroyed it and no caller holds it any more.

* `Rendering.Call` is a call, `Rendering.perform` makes one and `Rendering.performAll` a row.
* `Device.shader?_perform_cases` says what a call on the device does to an id, and
  `Device.Log.Ended` that ids of destroyed shaders are not used again.
* `Rendering.Consistent` is the invariant: whatever is bound or held was destroyed or exists.
  `consistent_perform` is one step and `consistent_performAll` the run.
* `destroyed_never_drawn` draws the conclusion for work on any context after any calls.
-/

namespace CrossShade

namespace Device

variable {α β : Type}

/-! ## Destroyed shaders -/

/-- The id that a call destroyed, if its answer says so. -/
def Call.destroyed? : Call → Answer → Option Nat
  | .destroyShader id, .destroyed (.ok ()) => some id
  | _, _ => none

/-- The ids of shaders that were destroyed, in order. -/
def Log.destroyed (log : Log α β) : List Nat :=
  log.history.filterMap fun event => event.1.destroyed? event.2

/-- A call that is refused destroys nothing. -/
theorem Call.destroyed?_of_isError {call : Call} {answer : Answer} (h : answer.isError = true) :
    call.destroyed? answer = none := by
  unfold destroyed?
  split
  · cases h
  · rfl

/-- The ways in which a call on a device affects an id: what is found under it stays, or it is
handed out, or its shader is destroyed. -/
theorem shader?_perform_cases (device : Device α β) (call : Call) (id : Nat) :
    ((device.perform call).2.shader? id = device.shader? id ∧
      call.destroyed? (device.perform call).1 ≠ some id) ∨
    (id = device.nextId.toNat ∧ call.destroyed? (device.perform call).1 = none) ∨
    ((device.shader? id).isSome ∧ (device.perform call).2.shader? id = none ∧
      call.destroyed? (device.perform call).1 = some id) := by
  have hnone : (none : Option Nat) ≠ some id := (Option.some_ne_none id).symm
  have hperforms := device.performs call
  generalize device.perform call = outcome at hperforms ⊢
  obtain ⟨answer, next⟩ := outcome
  cases hperforms with
  | refused _ herror dumped =>
    refine .inl ⟨rfl, ?_⟩
    rwa [Call.destroyed?_of_isError herror]
  | @created compiler compiled draft hleft hid hmade hdraft dumped =>
    by_cases hnew : id = device.nextId.toNat
    · exact .inr (.inl ⟨hnew, rfl⟩)
    · have hother : compiled.id ≠ id := fun hsame => hnew (hsame.symm.trans hid)
      exact .inl ⟨(device.shader?_keep compiled draft id).trans (if_neg hother), hnone⟩
  | laidOut hleft hdraft hlength elements => exact .inl ⟨rfl, hnone⟩
  | @destroyed gone hfound =>
    by_cases hsame : gone = id
    · subst hsame
      exact .inr (.inr ⟨hfound, (device.shader?_without gone gone).trans (if_pos rfl), rfl⟩)
    · refine .inl ⟨(device.shader?_without gone id).trans (if_neg hsame), ?_⟩
      exact fun hid => hsame (Option.some.inj hid)

/-- Ids are handed out upwards. -/
theorem nextId_le_perform (device : Device α β) (call : Call) :
    device.nextId.toNat ≤ (device.perform call).2.nextId.toNat := by
  have hperforms := device.performs call
  generalize device.perform call = outcome at hperforms ⊢
  obtain ⟨answer, next⟩ := outcome
  cases hperforms with
  | refused | destroyed => exact Nat.le_refl _
  | created _ hleft | laidOut hleft => exact hleft.toNat_succ ▸ Nat.le_succ _

namespace Log

variable {log : Log α β}

theorem destroyed_perform (log : Log α β) (call : Call) :
    (log.perform call).destroyed =
      log.destroyed ++ (call.destroyed? (log.device.perform call).1).toList := by
  unfold Log.destroyed Log.perform
  rw [List.filterMap_append]
  cases hid : call.destroyed? (log.device.perform call).1 <;> simp [hid]

theorem destroyed_subset_perform (log : Log α β) (call : Call) :
    log.destroyed ⊆ (log.perform call).destroyed := by
  rw [destroyed_perform]
  exact List.subset_append_left _ _

/-- A destroyed shader is not found, and its id is not the next one either. -/
def Ended (log : Log α β) : Prop :=
  ∀ id ∈ log.destroyed, log.device.shader? id = none ∧ id < log.device.nextId.toNat

/-- An id stands for a shader that exists or for one that was destroyed. -/
def Known (log : Log α β) (id : Nat) : Prop :=
  (log.device.shader? id).isSome ∨ id ∈ log.destroyed

theorem Ended.perform (h : log.Ended) (hsound : log.Sound) (call : Call) :
    (log.perform call).Ended := by
  intro id hid
  have hle := log.device.nextId_le_perform call
  rw [destroyed_perform, List.mem_append, Option.mem_toList] at hid
  change (log.device.perform call).2.shader? id = none ∧
    id < (log.device.perform call).2.nextId.toNat
  rcases log.device.shader?_perform_cases call id with
    ⟨hsame, hnot⟩ | ⟨hnew, hnone⟩ | ⟨hfound, hgone, -⟩
  · obtain ⟨hnone, hlt⟩ := h id (hid.resolve_right hnot)
    exact ⟨hsame.trans hnone, Nat.lt_of_lt_of_le hlt hle⟩
  · rw [hnone] at hid
    obtain ⟨-, hlt⟩ := h id (hid.resolve_right nofun)
    exact absurd hnew (Nat.ne_of_lt hlt)
  · exact ⟨hgone, Nat.lt_of_lt_of_le (hsound.below id (.inl hfound)) hle⟩

theorem Known.perform {id : Nat} (h : log.Known id) (hsound : log.Sound) (call : Call) :
    (log.perform call).Known id := by
  rcases h with hfound | hdestroyed
  · rcases log.device.shader?_perform_cases call id with ⟨hsame, -⟩ | ⟨hnew, -⟩ | ⟨-, -, hgone⟩
    · exact .inl (hsame ▸ hfound)
    · exact absurd hnew (Nat.ne_of_lt (hsound.below id (.inl hfound)))
    · refine .inr ?_
      rw [destroyed_perform, hgone]
      exact List.mem_append_right _ List.mem_cons_self
  · exact .inr (destroyed_subset_perform log call hdestroyed)

end Log

end Device

/-! ## Calls on a device and its contexts -/

/-- A device with the calls made on it, all contexts, the target that these drive, and the shaders
that callers hold. -/
structure Rendering (α β σ : Type) where
  log : Device.Log α β
  target : σ
  contexts : Nat → Pipeline := fun _ => {}
  held : List CompiledShader := []

namespace Rendering

variable {α β σ : Type}

/-- A call of a caller. -/
inductive Call (σ : Type) where
  /-- A call on the device. -/
  | device (call : Device.Call)
  /-- Asks for a shader and holds it from then on. -/
  | hold (id : Nat)
  /-- Lets go of a shader. -/
  | release (id : Nat)
  /-- Binds a shader to a stage of a context, or unbinds it. -/
  | bind (context : Nat) (stage : Stage) (id : Option Nat)
  | set (context : Nat) (setting : Setting) (other : setting.bindsShader = false)
  | work (context : Nat) (applier : Applier σ) (work : Work)

/-- A new device and its contexts. -/
def new (backend : Backend α β) (settings : Settings) (target : σ) : Rendering α β σ :=
  { log := .new backend settings, target }

/-- The shaders that exist: those of the device, and those that callers still hold. -/
def live (rendering : Rendering α β σ) : LiveShaders := fun id =>
  (rendering.log.device.shader? id).or (rendering.held.find? (·.id = id))

/-- What a stage of a context binds. -/
def boundId (rendering : Rendering α β σ) (context : Nat) (stage : Stage) : Option Nat :=
  (rendering.contexts context).boundId stage

/-- Another pipeline of a context and another state of the target. -/
def withContext (rendering : Rendering α β σ) (context : Nat) (pipeline : Pipeline) (target : σ) :
    Rendering α β σ :=
  { rendering with contexts := Function.update rendering.contexts context pipeline, target }

/-- A setting of a context.  One that is refused changes nothing. -/
def set (rendering : Rendering α β σ) (context : Nat) (setting : Setting) : Rendering α β σ :=
  match (rendering.contexts context).set setting with
  | .ok pipeline => rendering.withContext context pipeline rendering.target
  | .error _ => rendering

/-- Makes one call.  A shader that is bound or held is one that exists at that moment. -/
def perform (rendering : Rendering α β σ) : Call σ → Rendering α β σ
  | .device call => { rendering with log := rendering.log.perform call }
  | .hold id => { rendering with held := rendering.held ++ (rendering.live id).toList }
  | .release id => { rendering with held := rendering.held.filter (·.id ≠ id) }
  | .bind context stage id => rendering.set context (.shader stage (id.bind rendering.live))
  | .set context setting _ => rendering.set context setting
  | .work context applier work =>
    let outcome :=
      (rendering.contexts context).run rendering.live applier work rendering.target
    rendering.withContext context outcome.2.1 outcome.2.2

/-- Makes calls one after the other, whatever their results. -/
def performAll (rendering : Rendering α β σ) (calls : List (Call σ)) : Rendering α β σ :=
  calls.foldl perform rendering

variable {rendering : Rendering α β σ}

/-! ## What is bound -/

/-- A call binds a shader to a stage of a context or unbinds it, and is not refused. -/
def Rebinds (rendering : Rendering α β σ) (context : Nat) (stage : Stage) : Call σ → Prop
  | .bind other bound id => other = context ∧ bound = stage ∧
      ((rendering.contexts context).set (.shader stage (id.bind rendering.live))).isOk
  | _ => False

/-- No call of a row rebinds a stage of a context. -/
def NeverRebinds (context : Nat) (stage : Stage) : Rendering α β σ → List (Call σ) → Prop
  | _, [] => True
  | rendering, call :: rest => ¬ rendering.Rebinds context stage call ∧
      NeverRebinds context stage (rendering.perform call) rest

/-- The other contexts bind what they did. -/
theorem boundId_withContext (rendering : Rendering α β σ) (context : Nat) (pipeline : Pipeline)
    (target : σ) (other : Nat) (stage : Stage) :
    (rendering.withContext context pipeline target).boundId other stage =
      if other = context then pipeline.boundId stage else rendering.boundId other stage := by
  change (Function.update rendering.contexts context pipeline other).boundId stage = _
  rw [Function.update_apply]
  split <;> rfl

/-- A setting of a context leaves what a stage binds, or the stage binds what the setting gives it. -/
theorem boundId_set_cases (rendering : Rendering α β σ) (context : Nat) (setting : Setting)
    (other : Nat) (stage : Stage) :
    (rendering.set context setting).boundId other stage = rendering.boundId other stage ∨
    other = context ∧ ∃ next, (rendering.contexts context).set setting = .ok next ∧
      (rendering.set context setting).boundId other stage = next.boundId stage := by
  unfold set
  cases hset : (rendering.contexts context).set setting with
  | error fault => exact .inl rfl
  | ok next =>
    dsimp only
    rw [boundId_withContext]
    split
    · rename_i hcontext
      exact .inr ⟨hcontext, next, rfl, rfl⟩
    · exact .inl rfl

/-- A call leaves what a stage binds, or it rebinds the stage, and then to nothing or to the id of a
shader of that stage that exists. -/
theorem boundId_perform_cases (rendering : Rendering α β σ) (call : Call σ) (context : Nat)
    (stage : Stage) :
    (rendering.perform call).boundId context stage = rendering.boundId context stage ∨
    rendering.Rebinds context stage call ∧
      ∀ id, (rendering.perform call).boundId context stage = some id →
        ∃ asked shader, rendering.live asked = some shader ∧ shader.id = id ∧
          shader.stage = stage := by
  cases call with
  | device call => exact .inl rfl
  | hold id => exact .inl rfl
  | release id => exact .inl rfl
  | bind other bound id =>
    rcases rendering.boundId_set_cases other (.shader bound (id.bind rendering.live)) context stage
      with hsame | ⟨rfl, next, hset, hbound⟩
    · exact .inl hsame
    · rw [Pipeline.boundId_set_shader hset] at hbound
      split at hbound
      · rename_i hstage
        subst hstage
        refine .inr ⟨⟨rfl, rfl, by rw [hset]; rfl⟩, ?_⟩
        intro given hgiven
        obtain ⟨shader, hshader, rfl⟩ := Option.map_eq_some_iff.mp (hbound.symm.trans hgiven)
        obtain ⟨asked, -, hlive⟩ := Option.bind_eq_some_iff.mp hshader
        rw [hshader] at hset
        exact ⟨asked, shader, hlive, rfl, Pipeline.stage_of_set_shader hset⟩
      · exact .inl hbound
  | set other setting hother =>
    rcases rendering.boundId_set_cases other setting context stage with
      hsame | ⟨rfl, next, hset, hbound⟩
    · exact .inl hsame
    · exact .inl (hbound.trans (Pipeline.boundId_set hother hset stage))
  | work other applier work =>
    simp only [perform]
    rw [boundId_withContext]
    split
    · rename_i hcontext
      subst hcontext
      exact .inl (Pipeline.boundId_run _ _ _ _ _ stage)
    · exact .inl rfl

/-- A stage keeps its shader until it is rebound. -/
theorem boundId_performAll {context : Nat} {stage : Stage} {calls : List (Call σ)}
    (h : NeverRebinds context stage rendering calls) :
    (rendering.performAll calls).boundId context stage = rendering.boundId context stage := by
  induction calls generalizing rendering with
  | nil => rfl
  | cons call rest ih =>
    obtain ⟨hcall, hrest⟩ := h
    refine (ih hrest).trans ?_
    exact (boundId_perform_cases rendering call context stage).resolve_right fun hrebinds =>
      hcall hrebinds.1

/-! ## The invariant -/

/-- Whatever is bound or held exists or was destroyed, and destroyed shaders are gone. -/
structure Consistent (rendering : Rendering α β σ) : Prop where
  sound : rendering.log.Sound
  ended : rendering.log.Ended
  held : ∀ shader ∈ rendering.held, rendering.log.Known shader.id
  bound : ∀ context stage id, rendering.boundId context stage = some id → rendering.log.Known id

theorem consistent_new (backend : Backend α β) (settings : Settings) (target : σ) :
    (new backend settings target).Consistent where
  sound := Device.Log.sound_new backend settings
  ended := fun _ hid => nomatch hid
  held := fun _ hshader => nomatch hshader
  bound := fun _ stage _ hbound => nomatch (Pipeline.boundId_new stage).symm.trans hbound

/-- What exists is found under its own id, on the device or among what is held. -/
theorem Consistent.live_byId (h : rendering.Consistent) : rendering.live.ById := by
  intro id shader hlive
  rcases Option.or_eq_some_iff.mp hlive with hfound | ⟨-, hheld⟩
  · exact (h.sound.made id shader hfound).1
  · simpa using List.find?_some hheld

theorem Consistent.known_of_live (h : rendering.Consistent) {id : Nat}
    (hlive : (rendering.live id).isSome) : rendering.log.Known id := by
  obtain ⟨shader, hshader⟩ := Option.isSome_iff_exists.mp hlive
  rcases Option.or_eq_some_iff.mp hshader with hfound | ⟨-, hheld⟩
  · exact .inl (Option.isSome_of_eq_some hfound)
  · have hid : shader.id = id := by simpa using List.find?_some hheld
    exact hid ▸ h.held shader (List.mem_of_find?_eq_some hheld)

/-- What a call leaves bound is known, since it was bound before or exists. -/
theorem Consistent.known_of_bound (h : rendering.Consistent) (call : Call σ) {context : Nat}
    {stage : Stage} {id : Nat} (hbound : (rendering.perform call).boundId context stage = some id) :
    rendering.log.Known id := by
  rcases boundId_perform_cases rendering call context stage with hsame | ⟨-, hrebound⟩
  · exact h.bound context stage id (hsame ▸ hbound)
  · obtain ⟨asked, shader, hlive, hid, -⟩ := hrebound id hbound
    rw [h.live_byId asked shader hlive] at hid
    exact h.known_of_live (Option.isSome_of_eq_some (hid ▸ hlive))

theorem log_set (rendering : Rendering α β σ) (context : Nat) (setting : Setting) :
    (rendering.set context setting).log = rendering.log ∧
      (rendering.set context setting).held = rendering.held := by
  unfold set
  split <;> exact ⟨rfl, rfl⟩

/-- One call keeps the invariant.  Only calls on the device change what is known, and only holding
adds to what is held. -/
theorem consistent_perform (h : rendering.Consistent) (call : Call σ) :
    (rendering.perform call).Consistent := by
  have hbound : ∀ context stage id, (rendering.perform call).boundId context stage = some id →
      rendering.log.Known id := fun _ _ _ hid => h.known_of_bound call hid
  cases call with
  | device call =>
    refine ⟨Device.Log.sound_perform h.sound call, h.ended.perform h.sound call, ?_, ?_⟩
    · exact fun shader hshader => (h.held shader hshader).perform h.sound call
    · exact fun context stage id hid => (hbound context stage id hid).perform h.sound call
  | hold id =>
    refine ⟨h.sound, h.ended, ?_, hbound⟩
    intro shader hshader
    rcases List.mem_append.mp hshader with hold | hnew
    · exact h.held shader hold
    · have hlive : rendering.live id = some shader := Option.mem_toList.mp hnew
      rw [h.live_byId id shader hlive]
      exact h.known_of_live (Option.isSome_of_eq_some hlive)
  | release id =>
    exact ⟨h.sound, h.ended, fun shader hshader => h.held shader (List.mem_of_mem_filter hshader),
      hbound⟩
  | bind context stage id =>
    obtain ⟨hlog, hheld⟩ := log_set rendering context (.shader stage (id.bind rendering.live))
    exact ⟨hlog ▸ h.sound, hlog ▸ h.ended, hlog ▸ hheld ▸ h.held, hlog ▸ hbound⟩
  | set context setting hother =>
    obtain ⟨hlog, hheld⟩ := log_set rendering context setting
    exact ⟨hlog ▸ h.sound, hlog ▸ h.ended, hlog ▸ hheld ▸ h.held, hlog ▸ hbound⟩
  | work context applier work => exact ⟨h.sound, h.ended, h.held, hbound⟩

theorem consistent_performAll (h : rendering.Consistent) (calls : List (Call σ)) :
    (rendering.performAll calls).Consistent := by
  induction calls generalizing rendering with
  | nil => exact h
  | cons call rest ih => exact ih (consistent_perform h call)

theorem destroyed_subset_perform (rendering : Rendering α β σ) (call : Call σ) :
    rendering.log.destroyed ⊆ (rendering.perform call).log.destroyed := by
  cases call with
  | device call => exact rendering.log.destroyed_subset_perform call
  | hold | release | work => exact List.Subset.refl _
  | bind context stage id =>
    exact (log_set rendering context (.shader stage (id.bind rendering.live))).1 ▸
      List.Subset.refl _
  | set context setting hother => exact (log_set rendering context setting).1 ▸ List.Subset.refl _

theorem destroyed_subset_performAll (rendering : Rendering α β σ) (calls : List (Call σ)) :
    rendering.log.destroyed ⊆ (rendering.performAll calls).log.destroyed := by
  induction calls generalizing rendering with
  | nil => exact List.Subset.refl _
  | cons call rest ih => exact List.Subset.trans (destroyed_subset_perform rendering call) (ih _)

/-! ## Work with destroyed shaders -/

/-- Work on a context is refused because one of its stages binds a shader that was destroyed.  No
target is asked for anything, and the context stays as it is. -/
def Refuses (rendering : Rendering α β σ) (context : Nat) (work : Work) : Prop :=
  ∃ stage ∈ work.stages, ∃ gone ∈ rendering.log.destroyed,
    rendering.boundId context stage = some gone ∧
    ∀ (τ : Type) (applier : Applier τ) (target : τ),
      (rendering.contexts context).run rendering.live applier work target =
        (.error (.unknownShader gone), rendering.contexts context, target)

/-- A shader that is bound and missing was destroyed. -/
theorem Consistent.destroyed_of_misses (h : rendering.Consistent) {context id : Nat} {stage : Stage}
    (hmisses : (rendering.contexts context).Misses rendering.live stage id) :
    id ∈ rendering.log.destroyed := by
  have hnot : ¬ (rendering.log.device.shader? id).isSome := by
    intro hsome
    obtain ⟨compiled, hcompiled⟩ := Option.isSome_iff_exists.mp hsome
    have hlive := hmisses.gone
    rw [live, hcompiled] at hlive
    cases hlive
  exact (h.bound context stage id hmisses.bound).resolve_left hnot

/-- A shader that was destroyed and that no caller holds is missing wherever it is bound.  What work
is refused for may be another shader, but one that was destroyed as well. -/
theorem Consistent.refuses (h : rendering.Consistent) {context id : Nat} {stage : Stage}
    {work : Work} (hdestroyed : id ∈ rendering.log.destroyed)
    (hunheld : ∀ shader ∈ rendering.held, shader.id ≠ id) (hstage : stage ∈ work.stages)
    (hbound : rendering.boundId context stage = some id) : rendering.Refuses context work := by
  have hfound : rendering.log.device.shader? id = none := (h.ended id hdestroyed).1
  have hheld : rendering.held.find? (·.id = id) = none := by
    rw [List.find?_eq_none]
    intro shader hshader
    simpa using hunheld shader hshader
  have hmisses : (rendering.contexts context).Misses rendering.live stage id :=
    ⟨hbound, by rw [live, hfound, hheld]; rfl⟩
  obtain ⟨other, hother, gone, hgone, hrun⟩ := Pipeline.run_of_misses hstage hmisses
  exact ⟨other, hother, gone, h.destroyed_of_misses hgone, hgone.bound, hrun⟩

/-- After any calls on a device and its contexts: when a shader is destroyed, the stages that bind
it do so until they are rebound, and as long as one does and no caller holds the shader, all work
that runs the stage is refused for a destroyed shader.  Work is refused for no other shader.  A
flush for work that was found valid meets no missing shader. -/
theorem destroyed_never_drawn (backend : Backend α β) (settings : Settings) (target : σ)
    (calls : List (Call σ)) :
    let now := (new backend settings target).performAll calls
    (∀ id, (now.log.device.destroyShader id).isOk → ∀ later,
      let destroyed := now.perform (.device (.destroyShader id))
      let after := destroyed.performAll later
      ∀ context stage,
        (now.boundId context stage = some id → NeverRebinds context stage destroyed later →
          after.boundId context stage = some id) ∧
        ∀ work, stage ∈ work.stages → after.boundId context stage = some id →
          (∀ shader ∈ after.held, shader.id ≠ id) → after.Refuses context work) ∧
    ∀ context work (τ : Type) (applier : Applier τ) (reached : τ) id,
      (((now.contexts context).run now.live applier work reached).1 =
          .error (.unknownShader id) →
        id ∈ now.log.destroyed ∧ ∃ stage ∈ work.stages, now.boundId context stage = some id) ∧
      ((now.contexts context).validate now.live work = .ok () →
        (Pipeline.flush now.live applier (StateGroup.neededBy work) (now.contexts context)
          reached).1 ≠ .error (.unknownShader id)) := by
  intro now
  have hnow : now.Consistent := consistent_performAll (consistent_new backend settings target) calls
  refine ⟨?_, ?_⟩
  · intro id hok later destroyed after context stage
    have hafter : after.Consistent :=
      consistent_performAll (consistent_perform hnow (.device (.destroyShader id))) later
    have hgone : id ∈ after.log.destroyed := by
      refine destroyed_subset_performAll destroyed later ?_
      obtain ⟨next, hnext⟩ := exists_of_isOk hok
      change id ∈ (now.log.perform (.destroyShader id)).destroyed
      rw [Device.Log.destroyed_perform, Device.perform, hnext]
      exact List.mem_append_right _ List.mem_cons_self
    refine ⟨fun hbound hnever => (boundId_performAll hnever).trans hbound, ?_⟩
    intro work hstage hbound hunheld
    exact hafter.refuses hgone hunheld hstage hbound
  · intro context work τ applier reached id
    refine ⟨?_, fun hvalid => Pipeline.flush_ne_unknownShader hvalid id⟩
    intro hrun
    obtain ⟨stage, hstage, hmisses⟩ := Pipeline.misses_of_run_eq_unknownShader hrun
    exact ⟨hnow.destroyed_of_misses hmisses, stage, hstage, hmisses.bound⟩

/-- A compiler that makes the same bytecode of everything. -/
def constantCompiler : Compiler :=
  fun _ _ => .ok ⟨[1], []⟩

/-- A target that counts what it is asked for and refuses nothing. -/
def counting : Applier Nat :=
  ⟨fun _ count => (.ok (), count + 1), fun _ count => (.ok (), count + 1)⟩

/-- A vertex shader is created and bound in two contexts, one of them draws, and a caller holds the
shader. -/
def twoContexts : List (Call Nat) :=
  [.device (.createShader constantCompiler .vertex { name := "Empty", stage := .vertex }),
    .bind 0 .vertex (some 0), .bind 1 .vertex (some 0), .work 1 counting (.draw 3 0), .hold 0]

/-- Another vertex shader takes the place of the first in one of the contexts, the caller lets go of
the first, and that context draws. -/
def replacement : List (Call Nat) :=
  [.device (.createShader constantCompiler .vertex { name := "Other", stage := .vertex }),
    .bind 1 .vertex (some 1), .release 0, .work 1 counting (.draw 3 0)]

/-- The context that still binds the first shader cannot draw any more, and before it could. -/
theorem destroyed_never_drawn_twoContexts :
    let now := (new Direct3D9.backend {} 0).performAll twoContexts
    let destroyed := now.perform (.device (.destroyShader 0))
    let after := destroyed.performAll replacement
    after.boundId 0 .vertex = some 0 ∧ after.Refuses 0 (.draw 3 0) ∧
      0 ∈ after.log.destroyed ∧
      (now.contexts 0).validate now.live (.draw 3 0) = .ok () ∧
      (Pipeline.flush now.live counting StateGroup.graphics (now.contexts 0) 0).1 ≠
        .error (.unknownShader 0) := by
  intro now destroyed after
  have hok : (now.log.device.destroyShader 0).isOk = true := by decide +kernel
  have hbefore : now.boundId 0 .vertex = some 0 := by decide +kernel
  have hvalid : (now.contexts 0).validate now.live (.draw 3 0) = .ok () := by decide +kernel
  have hnever : NeverRebinds 0 .vertex destroyed replacement :=
    ⟨id, fun hrebinds => absurd hrebinds.1 (by decide), id, id, trivial⟩
  obtain ⟨hrefused, hsound⟩ := destroyed_never_drawn Direct3D9.backend {} 0 twoContexts
  obtain ⟨hkept, hwork⟩ := hrefused 0 hok replacement 0 .vertex
  have hbound := hkept hbefore hnever
  -- the same calls in one row
  have hlater : after = (new Direct3D9.backend {} 0).performAll
      (twoContexts ++ .device (.destroyShader 0) :: replacement) := rfl
  have hunknown : ((after.contexts 0).run after.live counting (.draw 3 0) 0).1 =
      .error (.unknownShader 0) := by decide +kernel
  have hgone := ((destroyed_never_drawn Direct3D9.backend {} 0
    (twoContexts ++ .device (.destroyShader 0) :: replacement)).2 0 (.draw 3 0) Nat counting 0
      0).1 (hlater ▸ hunknown)
  exact ⟨hbound, hwork (.draw 3 0) (by decide) hbound (by decide +kernel), hlater ▸ hgone.1, hvalid,
    (hsound 0 (.draw 3 0) Nat counting 0 0).2 hvalid⟩

end Rendering

end CrossShade
