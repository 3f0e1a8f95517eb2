import CrossShade.CompiledShader
import CrossShade.FixedFunction
import CrossShade.Format
import CrossShade.SlotArray
import CrossShade.Tracked

/-!
# Pipelines

The state that the next draw or dispatch runs with, as a caller set it: what is assembled, the
shader and the resources of every stage, how triangles are drawn and where to.  Every part remembers
whether it changed since a target last took it over.  A setting changes the pipeline alone and
reaches no target.
-/

namespace CrossShade

/-- A buffer with vertex data. -/
structure VertexBuffer where
  buffer : Nat
  stride : UInt32
  offset : UInt32
  deriving Repr, DecidableEq

/-- A buffer with indices. -/
structure IndexBuffer where
  buffer : Nat
  format : IndexFormat
  offset : UInt32
  deriving Repr, DecidableEq

/-- A part of the render targets, with a range of depths.  Two of them are compared by the values of
their numbers. -/
structure Viewport where
  x : Binary32
  y : Binary32
  width : Binary32
  height : Binary32
  minDepth : Binary32
  maxDepth : Binary32
  deriving Repr, BEq

/-- A rectangle outside of which nothing is drawn. -/
structure ScissorRect where
  x : Int
  y : Int
  width : UInt32
  height : UInt32
  deriving Repr, DecidableEq

/-- The shader and the resources of a stage, all by id. -/
structure StageState where
  shader : Tracked (Option Nat)
  uniformBuffers : SlotArray (Option Nat)
  samplers : SlotArray (Option Nat)
  readViews : SlotArray (Option Nat)
  writeViews : SlotArray (Option Nat)
  deriving Repr, DecidableEq

namespace StageState

/-- The number of slots of a stage for a category; only pixel and compute shaders write views. -/
def slotCount (stage : Stage) : BindingCategory → Nat
  | .uniformBuffer => 14
  | .sampler => 16
  | .readView => 128
  | .writeView =>
    match stage with
    | .pixel | .compute => 8
    | _ => 0

/-- Empty slots of a stage for a category. -/
def emptySlots (stage : Stage) (category : BindingCategory) : SlotArray (Option Nat) :=
  .new (category.name ++ "s") (slotCount stage category) none

/-- A stage to which nothing is bound. -/
def new (stage : Stage) : StageState :=
  ⟨⟨none, true⟩, emptySlots stage .uniformBuffer, emptySlots stage .sampler,
    emptySlots stage .readView, emptySlots stage .writeView⟩

/-- The slots of a category. -/
def resources (state : StageState) : BindingCategory → SlotArray (Option Nat)
  | .uniformBuffer => state.uniformBuffers
  | .sampler => state.samplers
  | .readView => state.readViews
  | .writeView => state.writeViews

/-- The state with other slots for a category. -/
def withResources (state : StageState) (category : BindingCategory)
    (slots : SlotArray (Option Nat)) : StageState :=
  match category with
  | .uniformBuffer => { state with uniformBuffers := slots }
  | .sampler => { state with samplers := slots }
  | .readView => { state with readViews := slots }
  | .writeView => { state with writeViews := slots }

theorem resources_withResources (state : StageState) (category other : BindingCategory)
    (slots : SlotArray (Option Nat)) :
    (state.withResources category slots).resources other =
      if other = category then slots else state.resources other := by
  cases category <;> cases other <;> rfl

end StageState

/-- What a draw or dispatch runs with. -/
structure Pipeline where
  topology : Tracked PrimitiveTopology := ⟨.triangleList, true⟩
  inputLayout : Tracked (Option Nat) := ⟨none, true⟩
  vertexBuffers : SlotArray (Option VertexBuffer) := .new "vertex buffers" 16 none
  indexBuffer : Tracked (Option IndexBuffer) := ⟨none, true⟩
  stages : PerStage StageState := .ofFunction StageState.new
  cullMode : Tracked CullMode := ⟨.back, true⟩
  fillMode : Tracked FillMode := ⟨.solid, true⟩
  viewports : TrackedList Viewport := ⟨"viewports", 16, [], true⟩
  scissorRects : TrackedList ScissorRect := ⟨"scissor rects", 16, [], true⟩
  renderTargets : TrackedList (Option Nat) := ⟨"render targets", 8, [], true⟩
  depthTarget : Tracked (Option Nat) := ⟨none, true⟩
  deriving Repr

/-- One thing that a caller sets. -/
inductive Setting where
  /-- How vertices form primitives. -/
  | topology (topology : PrimitiveTopology)
  | inputLayout (layout : Option Nat)
  | vertexBuffers (first : Nat) (buffers : List (Option VertexBuffer))
  | indexBuffer (buffer : Option IndexBuffer)
  /-- The shader of a stage, or none. -/
  | shader (stage : Stage) (shader : Option CompiledShader)
  | resources (stage : Stage) (category : BindingCategory) (first : Nat)
      (resources : List (Option Nat))
  | cullMode (mode : CullMode)
  | fillMode (mode : FillMode)
  | viewports (viewports : List Viewport)
  | scissorRects (rects : List ScissorRect)
  | renderTargets (targets : List (Option Nat)) (depth : Option Nat)
  deriving Repr

namespace Pipeline

/-- The state of a stage. -/
def stage (pipeline : Pipeline) (stage : Stage) : StageState :=
  pipeline.stages.get stage

/-- The pipeline with another state of a stage. -/
def withStage (pipeline : Pipeline) (stage : Stage) (state : StageState) : Pipeline :=
  { pipeline with stages := pipeline.stages.set stage state }

/-- The pipeline with another shader bound to a stage. -/
def bind (pipeline : Pipeline) (stage : Stage) (shader : Option Nat) : Pipeline :=
  let state := pipeline.stage stage
  pipeline.withStage stage { state with shader := state.shader.set shader }

/-- Takes over one setting, or refuses it and stays as it was: a shader has to be of the stage it is
bound to, and lists and runs of slots have to fit. -/
def set (pipeline : Pipeline) : Setting → Except ContextError Pipeline
  | .topology topology => .ok { pipeline with topology := pipeline.topology.set topology }
  | .inputLayout layout => .ok { pipeline with inputLayout := pipeline.inputLayout.set layout }
  | .vertexBuffers first buffers =>
    return { pipeline with vertexBuffers := ← pipeline.vertexBuffers.setRange first buffers }
  | .indexBuffer buffer => .ok { pipeline with indexBuffer := pipeline.indexBuffer.set buffer }
  | .shader stage none => .ok (pipeline.bind stage none)
  | .shader stage (some shader) =>
    if shader.stage = stage then .ok (pipeline.bind stage (some shader.id))
    else .error (.stageMismatch shader.id shader.stage stage)
  | .resources stage category first resources => do
    let state := pipeline.stage stage
    let slots ← (state.resources category).setRange first resources
    return pipeline.withStage stage (state.withResources category slots)
  | .cullMode mode => .ok { pipeline with cullMode := pipeline.cullMode.set mode }
  | .fillMode mode => .ok { pipeline with fillMode := pipeline.fillMode.set mode }
  | .viewports viewports => do
    let viewports ← pipeline.viewports.set viewports
    return { pipeline with viewports }
  | .scissorRects rects => do
    let scissorRects ← pipeline.scissorRects.set rects
    return { pipeline with scissorRects }
  | .renderTargets targets depth => do
    let renderTargets ← pipeline.renderTargets.set targets
    return { pipeline with renderTargets, depthTarget := pipeline.depthTarget.set depth }

/-! ## Bound shaders -/

/-- The shader bound to a stage; it may have been destroyed since it was bound. -/
def boundShader (pipeline : Pipeline) (live : LiveShaders) (stage : Stage) :
    Except ContextError (Option CompiledShader) :=
  match (pipeline.stage stage).shader.value with
  | none => .ok none
  | some id =>
    match live id with
    | none => .error (.unknownShader id)
    | some shader => .ok (some shader)

end Pipeline

end CrossShade
