import CrossShade.Proofs.Device.Rendering
import CrossShade.Proofs.Pipeline.Drawable

/-!
# Draws on a device

What a context of a device can draw after any calls.

* `Rendering.Kept` is the invariant: what callers hold is what its id stands for, the facts that
  were kept of a shader hold, and every stage binds a shader of its own.
* `live_of_perform` says that no call puts another shader under an id that is taken.
* `kept_perform` is one step and `kept_performAll` the run.  `validateDraw_iff_drawable` draws the
  conclusion for the check before a draw.
-/

namespace CrossShade

open Pipeline (FactsHold Drawable)

namespace Rendering

variable {α β σ : Type} {rendering : Rendering α β σ}

/-! ## Shaders that exist -/

/-- A shader that exists is on the device or held. -/
theorem live_cases {id : Nat} {shader : CompiledShader} (h : rendering.live id = some shader) :
    rendering.log.device.shader? id = some shader ∨ shader ∈ rendering.held ∧ shader.id = id := by
  rcases Option.or_eq_some_iff.mp h with hfound | ⟨-, hheld⟩
  · exact .inl hfound
  · exact .inr ⟨List.mem_of_find?_eq_some hheld, by simpa using List.find?_some hheld⟩

theorem live_of_shader? {id : Nat} {shader : CompiledShader}
    (h : rendering.log.device.shader? id = some shader) : rendering.live id = some shader := by
  rw [live, h]
  rfl

theorem live_of_shader?_eq {next : Rendering α β σ} {id : Nat}
    (hfound : next.log.device.shader? id = rendering.log.device.shader? id)
    (hheld : next.held = rendering.held) : next.live id = rendering.live id := by
  rw [live, live, hfound, hheld]

/-- Settings change nothing about what exists. -/
theorem live_set (rendering : Rendering α β σ) (context : Nat) (setting : Setting) :
    (rendering.set context setting).live = rendering.live := by
  obtain ⟨hlog, hheld⟩ := log_set rendering context setting
  funext id
  rw [live, live, hlog, hheld]

/-- Holding a shader once more changes nothing about what exists. -/
theorem Consistent.live_hold (h : rendering.Consistent) (id : Nat) :
    (rendering.perform (.hold id)).live = rendering.live := by
  funext other
  show (rendering.log.device.shader? other).or
    ((rendering.held ++ (rendering.live id).toList).find? (·.id = other)) = rendering.live other
  rw [List.find?_append, ← Option.or_assoc]
  show (rendering.live other).or _ = rendering.live other
  cases hother : rendering.live other with
  | some shader => rfl
  | none =>
    rw [Option.none_or, List.find?_eq_none]
    intro shader hshader
    have hlive : rendering.live id = some shader := Option.mem_toList.mp hshader
    have hid := h.live_byId id shader hlive
    have hne : id ≠ other := by
      rintro rfl
      rw [hlive] at hother
      cases hother
    simpa [hid] using hne

theorem isSome_live_of_held {shader : CompiledShader} (h : shader ∈ rendering.held) :
    (rendering.live shader.id).isSome := by
  have hfound : (rendering.held.find? (·.id = shader.id)).isSome :=
    List.find?_isSome.mpr ⟨shader, h, by simp⟩
  rw [live, Option.isSome_or, hfound, Bool.or_true]

/-! ## The invariant -/

/-- Whatever is held is what exists under its id and what it was made to be, and what is bound to a
stage was made for that stage. -/
structure Kept (rendering : Rendering α β σ) : Prop where
  consistent : rendering.Consistent
  held : ∀ shader ∈ rendering.held, rendering.live shader.id = some shader
  facts : ∀ shader ∈ rendering.held, FactsHold shader shader.stage
  stages : ∀ context stage id shader, rendering.boundId context stage = some id →
    rendering.live id = some shader → shader.stage = stage

theorem kept_new (backend : Backend α β) (settings : Settings) (target : σ) :
    (new backend settings target).Kept where
  consistent := consistent_new backend settings target
  held := fun _ hshader => nomatch hshader
  facts := fun _ hshader => nomatch hshader
  stages := fun _ stage _ _ hbound => nomatch (Pipeline.boundId_new stage).symm.trans hbound

/-- The facts about every shader that exists hold. -/
theorem Kept.factsHold (h : rendering.Kept) {id : Nat} {shader : CompiledShader}
    (hlive : rendering.live id = some shader) : FactsHold shader shader.stage := by
  rcases live_cases hlive with hfound | ⟨hheld, -⟩
  · obtain ⟨-, compiler, -, hmade⟩ := h.consistent.sound.made id shader hfound
    exact ⟨hmade.stage.symm, hmade.facts⟩
  · exact h.facts shader hheld

theorem Kept.ne_nextId (h : rendering.Kept) {id : Nat} (hknown : rendering.log.Known id) :
    id ≠ rendering.log.device.nextId.toNat := by
  rcases hknown with hfound | hdestroyed
  · exact Nat.ne_of_lt (h.consistent.sound.below id (.inl hfound))
  · exact Nat.ne_of_lt (h.consistent.ended id hdestroyed).2

/-- No call puts another shader under an id that is taken. -/
theorem Kept.live_of_perform (h : rendering.Kept) (call : Call σ) {id : Nat}
    {shader : CompiledShader} (hknown : rendering.log.Known id)
    (hlive : (rendering.perform call).live id = some shader) :
    rendering.live id = some shader := by
  have hheld : shader ∈ rendering.held → shader.id = id → rendering.live id = some shader := by
    rintro hmem rfl
    exact h.held shader hmem
  cases call with
  | device call =>
    rcases rendering.log.device.shader?_perform_cases call id with
      ⟨hsame, -⟩ | ⟨hnew, -⟩ | ⟨-, hgone, -⟩
    · have hsameLive : (rendering.perform (.device call)).live id = rendering.live id :=
        live_of_shader?_eq hsame rfl
      rwa [hsameLive] at hlive
    · exact absurd hnew (h.ne_nextId hknown)
    · rcases live_cases hlive with hfound | ⟨hmem, hid⟩
      · have hnone : (rendering.perform (.device call)).log.device.shader? id = none := hgone
        rw [hnone] at hfound
        cases hfound
      · exact hheld hmem hid
  | hold other =>
    rwa [h.consistent.live_hold] at hlive
  | release other =>
    rcases live_cases hlive with hfound | ⟨hmem, hid⟩
    · exact live_of_shader? hfound
    · exact hheld (List.mem_of_mem_filter hmem) hid
  | bind context stage given =>
    rwa [perform, live_set] at hlive
  | set context setting hother =>
    rwa [perform, live_set] at hlive
  | work context applier work => exact hlive

/-- Whatever is held after a call existed before it. -/
theorem Kept.live_of_held_perform (h : rendering.Kept) (call : Call σ) {shader : CompiledShader}
    (hshader : shader ∈ (rendering.perform call).held) :
    rendering.live shader.id = some shader := by
  cases call with
  | device call => exact h.held shader hshader
  | hold id =>
    rcases List.mem_append.mp hshader with hold | hnew
    · exact h.held shader hold
    · have hlive : rendering.live id = some shader := Option.mem_toList.mp hnew
      rwa [h.consistent.live_byId id shader hlive]
  | release id => exact h.held shader (List.mem_of_mem_filter hshader)
  | bind context stage id =>
    rw [perform, (log_set rendering context _).2] at hshader
    exact h.held shader hshader
  | set context setting hother =>
    rw [perform, (log_set rendering context setting).2] at hshader
    exact h.held shader hshader
  | work context applier work => exact h.held shader hshader

/-- One call keeps the invariant: what exists after it and was known before it existed before. -/
theorem kept_perform (h : rendering.Kept) (call : Call σ) : (rendering.perform call).Kept := by
  refine ⟨consistent_perform h.consistent call, ?_, ?_, ?_⟩
  · intro shader hshader
    have hbefore := h.live_of_held_perform call hshader
    have hknown := h.consistent.known_of_live (by rw [hbefore]; rfl)
    obtain ⟨found, hfound⟩ := Option.isSome_iff_exists.mp (isSome_live_of_held hshader)
    have hsame := h.live_of_perform call hknown hfound
    rw [hbefore, Option.some.injEq] at hsame
    rw [hfound, hsame]
  · intro shader hshader
    exact h.factsHold (h.live_of_held_perform call hshader)
  · intro context stage id shader hbound hlive
    have hbefore := h.live_of_perform call (h.consistent.known_of_bound call hbound) hlive
    rcases boundId_perform_cases rendering call context stage with hsame | ⟨-, hrebound⟩
    · exact h.stages context stage id shader (hsame ▸ hbound) hbefore
    · obtain ⟨asked, other, hother, hid, hstage⟩ := hrebound id hbound
      rw [← h.consistent.live_byId asked other hother, hid, hbefore, Option.some.injEq] at hother
      rw [hother, hstage]

theorem kept_performAll (h : rendering.Kept) (calls : List (Call σ)) :
    (rendering.performAll calls).Kept := by
  induction calls generalizing rendering with
  | nil => exact h
  | cons call rest ih => exact ih (kept_perform h call)

/-- The facts that a stage goes by are those about the shader that it binds. -/
theorem Kept.factsHold_of_binds (h : rendering.Kept) (context : Nat) (stage : Stage)
    (shader : CompiledShader)
    (hbinds : (rendering.contexts context).Binds rendering.live stage shader) :
    FactsHold shader stage := by
  obtain ⟨id, hbound, hlive⟩ := hbinds
  have hstage := h.stages context stage id shader hbound hlive
  exact hstage ▸ h.factsHold hlive

/-! ## Draws -/

/-- After any calls on a device and its contexts, a context passes the check before a draw exactly
if its pipeline can draw, and is never refused because a hull shader has no facts about
tessellation. -/
theorem validateDraw_iff_drawable (backend : Backend α β) (settings : Settings) (target : σ)
    (calls : List (Call σ)) :
    let now := (new backend settings target).performAll calls
    ∀ context,
      ((now.contexts context).validateDraw now.live = .ok () ↔
        (now.contexts context).Drawable now.live) ∧
      ∀ topology name, (now.contexts context).validateDraw now.live ≠
        .error (.incompatibleTopology topology (.noTessellation name)) := by
  intro now context
  have hnow : now.Kept := kept_performAll (kept_new backend settings target) calls
  have hfacts := hnow.factsHold_of_binds context
  exact ⟨Pipeline.validateDraw_eq_ok_iff hfacts,
    Pipeline.validateDraw_ne_noTessellation hfacts⟩

end Rendering

end CrossShade
