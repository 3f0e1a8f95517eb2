import CrossShade.Direct3D9.Native
import CrossShade.Direct3D9.Profile
import CrossShade.Pipeline.Logged

/-!
# Direct3D 9 commands

The calls that a Direct3D 9 device receives.  A topology is not a call of its own: it is remembered
and goes into every draw, which counts primitives instead of vertices.  Only vertex and pixel
shaders exist, nothing can be written but render targets, and there is one viewport and one scissor
rectangle.
-/

namespace CrossShade.Direct3D9

/-- A call; numbers stand for native values. -/
inductive Command where
  | setVertexDeclaration (layout : Option Nat)
  | setStreamSource (stream : Nat) (buffer : Option VertexBuffer)
  | setIndices (buffer : Option Nat) (format : UInt32)
  | setShader (stage : Stage) (shader : Option Nat)
  | setShaderConstants (stage : Stage) (first : Nat) (buffers : List (Option Nat))
  | setSamplerStates (stage : Stage) (first : Nat) (samplers : List (Option Nat))
  | setTextures (stage : Stage) (first : Nat) (views : List (Option Nat))
  | setRenderStates (cull fill : UInt32)
  | setViewport (viewport : Viewport)
  | setScissorRect (rect : ScissorRect)
  | setRenderTargets (targets : List (Option Nat)) (depth : Option Nat)
  | drawPrimitive (type start count : UInt32)
  | drawIndexedPrimitive (type : UInt32) (base : Int) (start count : UInt32)
  deriving Repr

/-- The call as a log shows it. -/
def Command.logged : Command → LoggedCall
  | setVertexDeclaration layout => ⟨"SetVertexDeclaration", [.object layout]⟩
  | setStreamSource stream buffer => ⟨"SetStreamSource", [.slot stream, .vertexBuffer buffer]⟩
  | setIndices buffer format => ⟨"SetIndices", [.object buffer, .number format]⟩
  | setShader stage shader => ⟨"SetShader", [.stage stage, .object shader]⟩
  | setShaderConstants stage first buffers =>
    ⟨"SetShaderConstants", [.stage stage, .slot first, .objects buffers]⟩
  | setSamplerStates stage first samplers =>
    ⟨"SetSamplerStates", [.stage stage, .slot first, .objects samplers]⟩
  | setTextures stage first views => ⟨"SetTextures", [.stage stage, .slot first, .objects views]⟩
  | setRenderStates cull fill => ⟨"SetRenderStates", [.number cull, .number fill]⟩
  | setViewport viewport => ⟨"SetViewport", [.viewport viewport]⟩
  | setScissorRect rect => ⟨"SetScissorRect", [.scissorRect rect]⟩
  | setRenderTargets targets depth => ⟨"SetRenderTargets", [.objects targets, .object depth]⟩
  | drawPrimitive type start count =>
    ⟨"DrawPrimitive", [.number type, .number start, .number count]⟩
  | drawIndexedPrimitive type base start count =>
    ⟨"DrawIndexedPrimitive", [.number type, .signed base, .number start, .number count]⟩

/-- One call for each vertex buffer of a run. -/
def streamSources (first : Nat) : List (Option VertexBuffer) → List Command
  | [] => []
  | buffer :: rest => .setStreamSource first buffer :: streamSources (first + 1) rest

/-- The call that fills slots of a stage, if the stage exists. -/
def ifSupported (stage : Stage) (command : Command) : List Command :=
  if supports stage then [command] else []

/-- Refuses the first write view of a run. -/
def refuseWriteViews (stage : Stage) (first : Nat) (views : List (Option Nat)) :
    Except ShaderError (List Command) :=
  match views.findIdx? Option.isSome with
  | none => .ok []
  | some index => .error (.unsupported .direct3D9 (.writeViewSlot stage (first + index)))

/-- The calls of a change. -/
def Command.ofChange : Change → Except ShaderError (List Command)
  | .topology topology => (native.topology topology).map fun _ => []
  | .inputLayout layout => .ok [.setVertexDeclaration layout]
  | .vertexBuffers first buffers => .ok (streamSources first buffers)
  | .indexBuffer (some b) => .ok [.setIndices b.buffer (indexFormat b.format)]
  | .indexBuffer none => .ok [.setIndices none (indexFormat .uint16)]
  | .shader stage shader =>
    if shader.isSome && !supports stage then .error (.stageUnsupported .direct3D9 stage)
    else .ok (ifSupported stage (.setShader stage shader))
  | .resources stage .uniformBuffer first buffers =>
    .ok (ifSupported stage (.setShaderConstants stage first buffers))
  | .resources stage .sampler first samplers =>
    .ok (ifSupported stage (.setSamplerStates stage first samplers))
  | .resources stage .readView first views =>
    .ok (ifSupported stage (.setTextures stage first views))
  | .resources stage .writeView first views => refuseWriteViews stage first views
  | .rasterizer cull fill => .ok [.setRenderStates (Direct3D.cullMode cull) (fillMode fill)]
  | .viewports viewports => .ok (viewports.take 1 |>.map .setViewport)
  | .scissorRects rects => .ok (rects.take 1 |>.map .setScissorRect)
  | .renderTargets targets depth => .ok [.setRenderTargets targets depth]

/-- The topology that the next draw uses, and the calls so far. -/
structure Recorder where
  topology : PrimitiveTopology := .triangleList
  commands : List Command := []
  deriving Repr

namespace Recorder

/-- The calls of work with a remembered topology. -/
def workCommands (topology : PrimitiveTopology) : Work → Except ShaderError (List Command)
  | .draw count start => do
    let type ← native.topology topology
    return [.drawPrimitive type start (topology.primitiveCount count)]
  | .drawIndexed count start base => do
    let type ← native.topology topology
    return [.drawIndexedPrimitive type base start (topology.primitiveCount count)]
  | .dispatch _ _ _ => .error (.stageUnsupported .direct3D9 .compute)

/-- The topology that is remembered after a change. -/
def topologyAfter (recorder : Recorder) : Change → PrimitiveTopology
  | .topology topology => topology
  | _ => recorder.topology

/-- Takes over a change by recording its calls. -/
def change (change : Change) (recorder : Recorder) : Except ShaderError Unit × Recorder :=
  match Command.ofChange change with
  | .error error => (.error error, recorder)
  | .ok commands => (.ok (), ⟨recorder.topologyAfter change, recorder.commands ++ commands⟩)

/-- Does work by recording its call. -/
def work (work : Work) (recorder : Recorder) : Except ShaderError Unit × Recorder :=
  match workCommands recorder.topology work with
  | .error error => (.error error, recorder)
  | .ok commands => (.ok (), { recorder with commands := recorder.commands ++ commands })

/-- Records what reaches Direct3D 9. -/
def applier : Applier Recorder :=
  ⟨change, work⟩

/-- The calls so far as a log shows them, and the recorder without them. -/
def drain (recorder : Recorder) : List LoggedCall × Recorder :=
  (recorder.commands.map Command.logged, { recorder with commands := [] })

end Recorder

end CrossShade.Direct3D9
