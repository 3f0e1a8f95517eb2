import CrossShade.OpenGL.Native
import CrossShade.OpenGL.Resources
import CrossShade.OpenGL.Source
import CrossShade.Pipeline.Logged

/-!
# OpenGL commands

The calls that an OpenGL context receives.  The mode and the indices of draws are remembered,
because every draw call names them.  Resources of all stages share the binding points: a slot of a
category is the binding point that the generated sources name for it.
-/

namespace CrossShade.OpenGL

/-- A call; numbers stand for native values. -/
inductive Command where
  | bindVertexArray (layout : Option Nat)
  | bindVertexBuffers (first : UInt32) (buffers : List (Option VertexBuffer))
  | bindElementBuffer (buffer : Option Nat)
  | useProgramStage (stage : Stage) (shader : Option Nat)
  | bindResources (category : BindingCategory) (first : UInt32) (resources : List (Option Nat))
  | cullFace (face : Option UInt32)
  | polygonMode (mode : UInt32)
  | viewportArray (viewports : List Viewport)
  | scissorArray (rects : List ScissorRect)
  | drawBuffers (targets : List (Option Nat)) (depth : Option Nat)
  | drawArrays (mode first count : UInt32)
  | drawElements (mode count type offset : UInt32) (base : Int)
  | dispatchCompute (x y z : UInt32)
  deriving Repr

namespace Command

/-- The name of the call that binds resources of a category. -/
def binder : BindingCategory → String
  | .uniformBuffer => "BindUniformBuffers"
  | .sampler => "BindSamplers"
  | .readView => "BindTextures"
  | .writeView => "BindImageTextures"

/-- The call as a log shows it. -/
def logged : Command → LoggedCall
  | bindVertexArray layout => ⟨"BindVertexArray", [.object layout]⟩
  | bindVertexBuffers first buffers =>
    ⟨"BindVertexBuffers", [.number first, .vertexBuffers buffers]⟩
  | bindElementBuffer buffer => ⟨"BindElementBuffer", [.object buffer]⟩
  | useProgramStage stage shader => ⟨"UseProgramStage", [.stage stage, .object shader]⟩
  | bindResources category first resources =>
    ⟨binder category, [.number first, .objects resources]⟩
  | cullFace face => ⟨"CullFace", [.value? face]⟩
  | polygonMode mode => ⟨"PolygonMode", [.number mode]⟩
  | viewportArray viewports => ⟨"ViewportArray", [.viewports viewports]⟩
  | scissorArray rects => ⟨"ScissorArray", [.scissorRects rects]⟩
  | drawBuffers targets depth => ⟨"DrawBuffers", [.objects targets, .object depth]⟩
  | drawArrays mode first count => ⟨"DrawArrays", [.number mode, .number first, .number count]⟩
  | drawElements mode count type offset base =>
    ⟨"DrawElementsBaseVertex",
      [.number mode, .number count, .number type, .number offset, .signed base]⟩
  | dispatchCompute x y z => ⟨"DispatchCompute", [.groups x y z]⟩

end Command

/-- The binding point of a slot; points have 32 bits. -/
def bindingPoint (category : BindingCategory) (slot : Nat) : UInt32 :=
  bindingBase category + UInt32.ofNat slot

/-- The calls of a change.  A topology takes none, nor do the resources of a stage that does not
exist and an empty run of write views. -/
def Command.ofChange : Change → Except ShaderError (List Command)
  | .topology topology => (native.topology topology).map fun _ => []
  | .inputLayout layout => .ok [.bindVertexArray layout]
  | .vertexBuffers first buffers => .ok [.bindVertexBuffers (UInt32.ofNat first) buffers]
  | .indexBuffer buffer => .ok [.bindElementBuffer (buffer.map (·.buffer))]
  | .shader stage shader =>
    if supports stage then .ok [.useProgramStage stage shader]
    else if shader.isSome then .error (.stageUnsupported .openGL stage)
    else .ok []
  | .resources _ .writeView _ [] => .ok []
  | .resources stage category first resources =>
    .ok (if supports stage then
      [.bindResources category (bindingPoint category first) resources]
    else [])
  | .rasterizer cull fill =>
    return [.cullFace (native.cullMode? cull), .polygonMode (← native.fillMode fill)]
  | .viewports viewports => .ok [.viewportArray viewports]
  | .scissorRects rects => .ok [.scissorArray rects]
  | .renderTargets targets depth => .ok [.drawBuffers targets depth]

/-- What the next draw uses, and the calls so far. -/
structure Recorder where
  mode : UInt32 := 4
  indices : Option IndexBuffer := none
  commands : List Command := []
  deriving Repr

namespace Recorder

/-- The format and the offset of the indices; without an index buffer they are short and start at
the beginning. -/
def indexStart (recorder : Recorder) : IndexFormat × UInt32 :=
  match recorder.indices with
  | some buffer => (buffer.format, buffer.offset)
  | none => (.uint16, 0)

/-- The call of work.  The first index of an indexed draw is told by its offset in bytes. -/
def workCommand (recorder : Recorder) : Work → Command
  | .draw count start => .drawArrays recorder.mode start count
  | .drawIndexed count start base =>
    let (format, offset) := recorder.indexStart
    .drawElements recorder.mode count (native.indexFormat format) (offset + start * format.bytes)
      base
  | .dispatch x y z => .dispatchCompute x y z

/-- What is remembered after a change. -/
def remember (recorder : Recorder) : Change → Recorder
  | .topology topology => { recorder with mode := (native.topology? topology).getD recorder.mode }
  | .indexBuffer buffer => { recorder with indices := buffer }
  | _ => recorder

/-- Takes over a change by recording its calls. -/
def change (change : Change) (recorder : Recorder) : Except ShaderError Unit × Recorder :=
  match Command.ofChange change with
  | .error error => (.error error, recorder)
  | .ok commands =>
    (.ok (), { recorder.remember change with commands := recorder.commands ++ commands })

/-- Does work by recording its call. -/
def work (work : Work) (recorder : Recorder) : Except ShaderError Unit × Recorder :=
  (.ok (), { recorder with commands := recorder.commands ++ [recorder.workCommand work] })

/-- Records what reaches OpenGL. -/
def applier : Applier Recorder :=
  ⟨change, work⟩

/-- The calls so far as a log shows them, and the recorder without them. -/
def drain (recorder : Recorder) : List LoggedCall × Recorder :=
  (recorder.commands.map Command.logged, { recorder with commands := [] })

end Recorder

end CrossShade.OpenGL
