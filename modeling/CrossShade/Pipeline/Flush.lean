import CrossShade.Pipeline

/-!
# Flushing

How a target takes over what changed in a pipeline.  The state falls into groups that are taken over
in a fixed order, each by one change.  A group counts as unchanged as soon as the target accepted
its change; the first change that is refused ends the flush, and its group and all that follow stay
as they were.
-/

namespace CrossShade

/-- A change of state that a target is asked to take over. -/
inductive Change where
  | topology (topology : PrimitiveTopology)
  | inputLayout (layout : Option Nat)
  | vertexBuffers (first : Nat) (buffers : List (Option VertexBuffer))
  | indexBuffer (buffer : Option IndexBuffer)
  | shader (stage : Stage) (shader : Option Nat)
  | resources (stage : Stage) (category : BindingCategory) (first : Nat)
      (resources : List (Option Nat))
  | rasterizer (cull : CullMode) (fill : FillMode)
  | viewports (viewports : List Viewport)
  | scissorRects (rects : List ScissorRect)
  | renderTargets (targets : List (Option Nat)) (depth : Option Nat)
  deriving Repr

/-- Work that a target is asked to do with the state it took over. -/
inductive Work where
  | draw (count start : UInt32)
  | drawIndexed (count start : UInt32) (base : Int)
  | dispatch (x y z : UInt32)
  deriving Repr, DecidableEq

/-- How a target with a state of its own takes over changes and does work.  It may refuse both. -/
structure Applier (σ : Type) where
  change : Change → σ → Except ShaderError Unit × σ
  work : Work → σ → Except ShaderError Unit × σ

/-- The state that one change takes over. -/
inductive StateGroup where
  | topology
  | inputLayout
  | vertexBuffers
  | indexBuffer
  | shader (stage : Stage)
  | resources (stage : Stage) (category : BindingCategory)
  | rasterizer
  | viewports
  | scissorRects
  | renderTargets
  deriving Repr, DecidableEq

namespace StateGroup

/-- The groups of a stage, in the order of a flush. -/
def ofStage (stage : Stage) : List StateGroup :=
  .shader stage :: BindingCategory.all.map (.resources stage)

/-- The groups that a draw needs, in the order of a flush. -/
def graphics : List StateGroup :=
  [.topology, .inputLayout, .vertexBuffers, .indexBuffer] ++ Stage.graphics.flatMap ofStage ++
    [.rasterizer, .viewports, .scissorRects, .renderTargets]

/-- The groups that work needs, in the order of a flush. -/
def neededBy : Work → List StateGroup
  | .draw _ _ | .drawIndexed _ _ _ => graphics
  | .dispatch _ _ _ => ofStage .compute

end StateGroup

namespace Pipeline

/-- The change of a group, if it changed.  A shader that changed has to be there. -/
def pending (pipeline : Pipeline) (live : LiveShaders) :
    StateGroup → Except ContextError (Option Change)
  | .topology => .ok (pipeline.topology.pending.map .topology)
  | .inputLayout => .ok (pipeline.inputLayout.pending.map .inputLayout)
  | .vertexBuffers =>
    .ok (pipeline.vertexBuffers.pending.map fun (first, buffers) => .vertexBuffers first buffers)
  | .indexBuffer => .ok (pipeline.indexBuffer.pending.map .indexBuffer)
  | .shader stage =>
    if (pipeline.stage stage).shader.dirty then do
      let shader ← pipeline.boundShader live stage
      return some (.shader stage (shader.map (·.id)))
    else .ok none
  | .resources stage category =>
    .ok (((pipeline.stage stage).resources category).pending.map fun (first, resources) =>
      .resources stage category first resources)
  | .rasterizer =>
    .ok (if pipeline.cullMode.dirty || pipeline.fillMode.dirty then
      some (.rasterizer pipeline.cullMode.value pipeline.fillMode.value)
    else none)
  | .viewports => .ok (pipeline.viewports.pending.map .viewports)
  | .scissorRects => .ok (pipeline.scissorRects.pending.map .scissorRects)
  | .renderTargets =>
    .ok (if pipeline.renderTargets.dirty || pipeline.depthTarget.dirty then
      some (.renderTargets pipeline.renderTargets.values pipeline.depthTarget.value)
    else none)

/-- The pipeline with a group that counts as unchanged. -/
def markClean (pipeline : Pipeline) : StateGroup → Pipeline
  | .topology => { pipeline with topology := pipeline.topology.markClean }
  | .inputLayout => { pipeline with inputLayout := pipeline.inputLayout.markClean }
  | .vertexBuffers => { pipeline with vertexBuffers := pipeline.vertexBuffers.markClean }
  | .indexBuffer => { pipeline with indexBuffer := pipeline.indexBuffer.markClean }
  | .shader stage =>
    let state := pipeline.stage stage
    pipeline.withStage stage { state with shader := state.shader.markClean }
  | .resources stage category =>
    let state := pipeline.stage stage
    pipeline.withStage stage (state.withResources category (state.resources category).markClean)
  | .rasterizer =>
    { pipeline with
      cullMode := pipeline.cullMode.markClean
      fillMode := pipeline.fillMode.markClean }
  | .viewports => { pipeline with viewports := pipeline.viewports.markClean }
  | .scissorRects => { pipeline with scissorRects := pipeline.scissorRects.markClean }
  | .renderTargets =>
    { pipeline with
      renderTargets := pipeline.renderTargets.markClean
      depthTarget := pipeline.depthTarget.markClean }

/-- How a call ends: its result, the pipeline and the state of the target. -/
abbrev Outcome (σ : Type) := Except ContextError Unit × Pipeline × σ

/-- Lets a target take over groups in order, up to the first refusal. -/
def flush {σ : Type} (live : LiveShaders) (applier : Applier σ) :
    List StateGroup → Pipeline → σ → Outcome σ
  | [], pipeline, target => (.ok (), pipeline, target)
  | group :: rest, pipeline, target =>
    match pipeline.pending live group with
    | .error error => (.error error, pipeline, target)
    | .ok none => flush live applier rest pipeline target
    | .ok (some change) =>
      match applier.change change target with
      | (.error error, target) => (.error (.shader error), pipeline, target)
      | (.ok (), target) => flush live applier rest (pipeline.markClean group) target

end Pipeline

end CrossShade
