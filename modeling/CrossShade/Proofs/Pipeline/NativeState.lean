import CrossShade.Pipeline.Run

/-!
# The state behind a target

A graphics interface as a pipeline sees it: a state that every accepted change overwrites in
exactly the places it names, and that a refused change leaves alone.  Which calls are refused is
left open (`Verdict`), so whatever holds for this interface holds for every pattern of refusals.

The module has three groups.

* `NativeState` and what a change does to it (`NativeState.apply`, `overwrite`).
* `Interface`, which records every call together with the state it found, and `Interface.applier`.
* What it means that the state shows a pipeline: `NativeState.ShowsStage` for one stage and
  `NativeState.Shows` for all that some work needs.
-/

namespace CrossShade

/-- What a graphics interface holds.  Slots are numbered without a bound. -/
structure NativeState where
  topology : PrimitiveTopology
  inputLayout : Option Nat
  vertexBuffers : Nat → Option VertexBuffer
  indexBuffer : Option IndexBuffer
  shader : Stage → Option Nat
  resources : Stage → BindingCategory → Nat → Option Nat
  cullMode : CullMode
  fillMode : FillMode
  viewports : List Viewport
  scissorRects : List ScissorRect
  renderTargets : List (Option Nat)
  depthTarget : Option Nat

/-- Slots in which a run of values was written, the first of them to `first`. -/
def overwrite {α : Type} (slots : Nat → α) (first : Nat) (values : List α) : Nat → α :=
  fun slot => if slot < first then slots slot else (values[slot - first]?).getD (slots slot)

theorem overwrite_of_lt {α : Type} (slots : Nat → α) {first slot : Nat} (values : List α)
    (h : slot < first) : overwrite slots first values slot = slots slot := by
  simp [overwrite, h]

theorem overwrite_of_le {α : Type} (slots : Nat → α) {first slot : Nat} (values : List α)
    (h : first + values.length ≤ slot) : overwrite slots first values slot = slots slot := by
  have hnone : values[slot - first]? = none := List.getElem?_eq_none (by omega)
  simp [overwrite, hnone]

theorem overwrite_of_getElem? {α : Type} (slots : Nat → α) {first slot : Nat} {values : List α}
    {value : α} (hle : first ≤ slot) (h : values[slot - first]? = some value) :
    overwrite slots first values slot = value := by
  simp [overwrite, Nat.not_lt.mpr hle, h]

namespace NativeState

/-- The state after a change was taken over. -/
def apply (native : NativeState) : Change → NativeState
  | .topology topology => { native with topology }
  | .inputLayout inputLayout => { native with inputLayout }
  | .vertexBuffers first buffers =>
    { native with vertexBuffers := overwrite native.vertexBuffers first buffers }
  | .indexBuffer indexBuffer => { native with indexBuffer }
  | .shader stage shader =>
    { native with shader := fun other => if other = stage then shader else native.shader other }
  | .resources stage category first ids =>
    { native with resources := fun s c =>
        if s = stage ∧ c = category then overwrite (native.resources s c) first ids
        else native.resources s c }
  | .rasterizer cullMode fillMode => { native with cullMode, fillMode }
  | .viewports viewports => { native with viewports }
  | .scissorRects scissorRects => { native with scissorRects }
  | .renderTargets renderTargets depthTarget => { native with renderTargets, depthTarget }

/-- The state shows a stage of a pipeline: its shader and, in every slot that the stage has, its
resources. -/
structure ShowsStage (native : NativeState) (pipeline : Pipeline) (stage : Stage) : Prop where
  shader : native.shader stage = (pipeline.stage stage).shader.value
  resources : ∀ category slot id,
    ((pipeline.stage stage).resources category).get? slot = some id →
      native.resources stage category slot = id

/-- The state shows everything of a pipeline that a draw uses. -/
structure ShowsGraphics (native : NativeState) (pipeline : Pipeline) : Prop where
  topology : native.topology = pipeline.topology.value
  inputLayout : native.inputLayout = pipeline.inputLayout.value
  vertexBuffers : ∀ slot buffer,
    pipeline.vertexBuffers.get? slot = some buffer → native.vertexBuffers slot = buffer
  indexBuffer : native.indexBuffer = pipeline.indexBuffer.value
  stages : ∀ stage ∈ Stage.graphics, native.ShowsStage pipeline stage
  cullMode : native.cullMode = pipeline.cullMode.value
  fillMode : native.fillMode = pipeline.fillMode.value
  viewports : native.viewports = pipeline.viewports.values
  scissorRects : native.scissorRects = pipeline.scissorRects.values
  renderTargets : native.renderTargets = pipeline.renderTargets.values
  depthTarget : native.depthTarget = pipeline.depthTarget.value

/-- The state shows everything of a pipeline that some work uses. -/
def Shows (native : NativeState) (pipeline : Pipeline) : Work → Prop
  | .draw _ _ | .drawIndexed _ _ _ => native.ShowsGraphics pipeline
  | .dispatch _ _ _ => native.ShowsStage pipeline .compute

end NativeState

/-- A call that a target receives. -/
inductive TargetCall where
  | change (change : Change)
  | work (work : Work)

/-- An interface with the calls it received, each with the state that it found. -/
structure Interface where
  native : NativeState
  calls : List (TargetCall × NativeState) := []

/-- The error with which an interface refuses a call, if it does.  This may depend on everything
that happened before. -/
abbrev Verdict := Interface → TargetCall → Option ShaderError

namespace Interface

/-- The state after a call was accepted; work leaves it alone. -/
def after (native : NativeState) : TargetCall → NativeState
  | .change change => native.apply change
  | .work _ => native

/-- Receives a call.  A refused one is recorded and changes nothing. -/
def receive (verdict : Verdict) (call : TargetCall) (interface : Interface) :
    Except ShaderError Unit × Interface :=
  let calls := interface.calls ++ [(call, interface.native)]
  match verdict interface call with
  | some error => (.error error, ⟨interface.native, calls⟩)
  | none => (.ok (), ⟨after interface.native call, calls⟩)

/-- The interface as a target of pipelines. -/
def applier (verdict : Verdict) : Applier Interface :=
  ⟨fun change => receive verdict (.change change), fun work => receive verdict (.work work)⟩

/-- Accepted or refused, a call is recorded with the state it found. -/
theorem calls_receive (verdict : Verdict) (call : TargetCall) (interface : Interface) :
    (receive verdict call interface).2.calls = interface.calls ++ [(call, interface.native)] := by
  unfold receive
  split <;> rfl

theorem native_receive_of_error {verdict : Verdict} {call : TargetCall} {interface : Interface}
    {error : ShaderError} {next : Interface}
    (h : receive verdict call interface = (.error error, next)) :
    next.native = interface.native := by
  unfold receive at h
  split at h <;> simp_all
  simp [← h.2]

theorem native_receive_of_ok {verdict : Verdict} {call : TargetCall} {interface next : Interface}
    (h : receive verdict call interface = (.ok (), next)) :
    next.native = after interface.native call := by
  unfold receive at h
  split at h <;> simp_all
  simp [← h]

theorem native_receive_work (verdict : Verdict) (work : Work) (interface : Interface) :
    (receive verdict (.work work) interface).2.native = interface.native := by
  unfold receive
  split <;> rfl

/-- Since one state of an interface, another has received changes alone. -/
def OnlyChanged (before after : Interface) : Prop :=
  ∃ made, after.calls = before.calls ++ made ∧ ∀ call ∈ made, ∃ change, call.1 = .change change

theorem OnlyChanged.receive {before interface next : Interface} {verdict : Verdict}
    {change : Change} {result : Except ShaderError Unit} (h : before.OnlyChanged interface)
    (hreceive : receive verdict (.change change) interface = (result, next)) :
    before.OnlyChanged next := by
  obtain ⟨made, hmade, hchanges⟩ := h
  have hcalls := calls_receive verdict (.change change) interface
  rw [hreceive, hmade, List.append_assoc] at hcalls
  refine ⟨_, hcalls, ?_⟩
  intro call hmem
  rcases List.mem_append.mp hmem with hold | hnew
  · exact hchanges call hold
  · exact ⟨change, by rw [List.mem_singleton.mp hnew]⟩

end Interface

/-- Every shader is found under its own id. -/
def LiveShaders.ById (live : LiveShaders) : Prop :=
  ∀ id shader, live id = some shader → shader.id = id

end CrossShade
