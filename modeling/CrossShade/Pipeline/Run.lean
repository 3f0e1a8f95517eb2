import CrossShade.Pipeline.Flush
import CrossShade.Tessellation

/-!
# Running a pipeline

Draws and dispatches.  Before anything reaches a target, the bound shaders have to be there, those
that are needed bound, and the assembled primitives the ones that the shaders expect.  Then the
target takes over what changed, and only then it does the work.
-/

namespace CrossShade

/-- The primitives that a tessellator puts out, as a geometry shader sees them. -/
def OutputTopology.primitive : OutputTopology → GeometryPrimitive
  | .point => .point
  | .line => .line
  | .triangleCw | .triangleCcw => .triangle

namespace Pipeline

/-- The primitives that reach the geometry stage: those of the topology or, with a hull and a domain
shader, those of the tessellator.  Patches need both shaders, and of the right size. -/
def assembled (topology : PrimitiveTopology) (hull domain : Option CompiledShader) :
    Except ContextError (Option GeometryPrimitive) :=
  let refuse (fault : TopologyFault) : Except ContextError (Option GeometryPrimitive) :=
    .error (.incompatibleTopology topology fault)
  match hull, domain with
  | some hull, some _ =>
    match hull.facts with
    | .hull _ _ output points _ _ =>
      if topology.patchPoints?.map (·.toUInt32) = some points then .ok (some output.primitive)
      else refuse (.patchSize hull.name points)
    | _ => refuse (.noTessellation hull.name)
  | some _, none => .error (.noShaderBound .domain)
  | none, some _ => .error (.noShaderBound .hull)
  | none, none =>
    if topology.patchPoints?.isSome then refuse .patchWithoutHull else .ok topology.primitive?

/-- Passes if a geometry shader, when there is one, consumes the primitives that reach it. -/
def checkGeometry (topology : PrimitiveTopology) (primitive : Option GeometryPrimitive) :
    Option CompiledShader → Except ContextError Unit
  | none => .ok ()
  | some shader =>
    match shader.facts with
    | .geometry _ input _ _ _ =>
      if primitive = some input then .ok ()
      else .error (.incompatibleTopology topology (.geometryPrimitive shader.name input))
    | _ => .ok ()

/-- Passes if the pipeline can draw. -/
def validateDraw (pipeline : Pipeline) (live : LiveShaders) : Except ContextError Unit := do
  let hull ← pipeline.boundShader live .hull
  let domain ← pipeline.boundShader live .domain
  let geometry ← pipeline.boundShader live .geometry
  let _ ← pipeline.boundShader live .pixel
  match ← pipeline.boundShader live .vertex with
  | none => throw (.noShaderBound .vertex)
  | some _ =>
    let topology := pipeline.topology.value
    checkGeometry topology (← assembled topology hull domain) geometry

/-- Passes if the pipeline can do some work. -/
def validate (pipeline : Pipeline) (live : LiveShaders) : Work → Except ContextError Unit
  | .draw _ _ => pipeline.validateDraw live
  | .drawIndexed _ _ _ => do
    pipeline.validateDraw live
    if pipeline.indexBuffer.value.isNone then throw .noIndexBuffer
  | .dispatch _ _ _ => do
    match ← pipeline.boundShader live .compute with
    | none => throw (.noShaderBound .compute)
    | some _ => return ()

/-- Does work: checks that it can be done, lets the target take over what changed and lets it do the
work. -/
def run {σ : Type} (pipeline : Pipeline) (live : LiveShaders) (applier : Applier σ) (work : Work)
    (target : σ) : Outcome σ :=
  match pipeline.validate live work with
  | .error error => (.error error, pipeline, target)
  | .ok () =>
    match flush live applier (StateGroup.neededBy work) pipeline target with
    | (.error error, pipeline, target) => (.error error, pipeline, target)
    | (.ok (), pipeline, target) =>
      match applier.work work target with
      | (.error error, target) => (.error (.shader error), pipeline, target)
      | (.ok (), target) => (.ok (), pipeline, target)

end Pipeline

end CrossShade
