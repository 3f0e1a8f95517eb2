import CrossShade.Direct3D11.Native
import CrossShade.Pipeline.Logged

/-!
# Direct3D 11 commands

The calls that a Direct3D 11 device context receives.  Every change and all work is one call that
depends on nothing before it.
-/

namespace CrossShade.Direct3D11

/-- A call; numbers stand for native values. -/
inductive Command where
  | setTopology (topology : UInt32)
  | setInputLayout (layout : Option Nat)
  | setVertexBuffers (first : Nat) (buffers : List (Option VertexBuffer))
  | setIndexBuffer (buffer : Option Nat) (format offset : UInt32)
  | setShader (stage : Stage) (shader : Option Nat)
  | setResources (category : BindingCategory) (stage : Stage) (first : Nat)
      (resources : List (Option Nat))
  | setRasterizer (cull fill : UInt32)
  | setViewports (viewports : List Viewport)
  | setScissorRects (rects : List ScissorRect)
  | setRenderTargets (targets : List (Option Nat)) (depth : Option Nat)
  | draw (count start : UInt32)
  | drawIndexed (count start : UInt32) (base : Int)
  | dispatch (x y z : UInt32)
  deriving Repr

namespace Command

/-- The name of the call that fills slots of a category. -/
def slotSetter : BindingCategory → String
  | .uniformBuffer => "SetConstantBuffers"
  | .sampler => "SetSamplers"
  | .readView => "SetShaderResources"
  | .writeView => "SetUnorderedAccessViews"

/-- The call as a log shows it. -/
def logged : Command → LoggedCall
  | setTopology topology => ⟨"IaSetPrimitiveTopology", [.number topology]⟩
  | setInputLayout layout => ⟨"IaSetInputLayout", [.object layout]⟩
  | setVertexBuffers first buffers =>
    ⟨"IaSetVertexBuffers", [.slot first, .vertexBuffers buffers]⟩
  | setIndexBuffer buffer format offset =>
    ⟨"IaSetIndexBuffer", [.object buffer, .number format, .number offset]⟩
  | setShader stage shader => ⟨"SetShader", [.stage stage, .object shader]⟩
  | setResources category stage first resources =>
    ⟨slotSetter category, [.stage stage, .slot first, .objects resources]⟩
  | setRasterizer cull fill => ⟨"RsSetState", [.number cull, .number fill]⟩
  | setViewports viewports => ⟨"RsSetViewports", [.viewports viewports]⟩
  | setScissorRects rects => ⟨"RsSetScissorRects", [.scissorRects rects]⟩
  | setRenderTargets targets depth =>
    ⟨"OmSetRenderTargets", [.objects targets, .object depth]⟩
  | draw count start => ⟨"Draw", [.number count, .number start]⟩
  | drawIndexed count start base =>
    ⟨"DrawIndexed", [.number count, .number start, .signed base]⟩
  | dispatch x y z => ⟨"Dispatch", [.groups x y z]⟩

/-- The calls of a change.  An empty run of write views takes none, and without an index buffer the
format is that of short indices. -/
def ofChange : Change → Except ShaderError (List Command)
  | .topology topology => return [setTopology (← native.topology topology)]
  | .inputLayout layout => .ok [setInputLayout layout]
  | .vertexBuffers first buffers => .ok [setVertexBuffers first buffers]
  | .indexBuffer (some b) => .ok [setIndexBuffer b.buffer (indexFormat b.format) b.offset]
  | .indexBuffer none => .ok [setIndexBuffer none (indexFormat .uint16) 0]
  | .shader stage shader => .ok [setShader stage shader]
  | .resources _ .writeView _ [] => .ok []
  | .resources stage category first resources => .ok [setResources category stage first resources]
  | .rasterizer cull fill => do
    let fill ← native.fillMode fill
    return [setRasterizer (Direct3D.cullMode cull) fill]
  | .viewports viewports => .ok [setViewports viewports]
  | .scissorRects rects => .ok [setScissorRects rects]
  | .renderTargets targets depth => .ok [setRenderTargets targets depth]

/-- The call of work. -/
def ofWork : Work → Command
  | .draw count start => draw count start
  | .drawIndexed count start base => drawIndexed count start base
  | .dispatch x y z => dispatch x y z

end Command

/-- The calls so far. -/
structure Recorder where
  commands : List Command := []
  deriving Repr

namespace Recorder

/-- Takes over a change by recording its calls. -/
def change (change : Change) (recorder : Recorder) : Except ShaderError Unit × Recorder :=
  match Command.ofChange change with
  | .error error => (.error error, recorder)
  | .ok commands => (.ok (), ⟨recorder.commands ++ commands⟩)

/-- Does work by recording its call. -/
def work (work : Work) (recorder : Recorder) : Except ShaderError Unit × Recorder :=
  (.ok (), ⟨recorder.commands ++ [Command.ofWork work]⟩)

/-- Records what reaches Direct3D 11. -/
def applier : Applier Recorder :=
  ⟨change, work⟩

/-- The calls so far as a log shows them, and the recorder without them. -/
def drain (recorder : Recorder) : List LoggedCall × Recorder :=
  (recorder.commands.map Command.logged, { recorder with commands := [] })

end Recorder

end CrossShade.Direct3D11
