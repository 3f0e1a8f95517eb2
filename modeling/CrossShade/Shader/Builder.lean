import CrossShade.Error
import CrossShade.Shader.Validation

/-!
# Building shaders

A shader is put together by additions, one after the other and in any order, and is accepted or
refused at the end.  A profile and the value of a property replace earlier ones; everything else is
added behind what is there.
-/

namespace CrossShade

/-- One thing that is added to a shader. -/
inductive Addition where
  | profile (profile : String)
  | property (key value : String)
  | input (v : Variable)
  | output (v : Variable)
  | inputExtra (v : Variable)
  | inputPatch (v : Variable)
  | outputPatch (v : Variable)
  | stream (stream : OutputStream)
  | uniformBuffer (buffer : UniformBuffer)
  | sampler (sampler : SamplerBinding)
  | readView (view : ViewBinding)
  | writeView (view : ViewBinding)
  | structure (structure_ : Structure)
  | fixedSampling (view sampler : String)
  | globalLine (line : String)
  | patchLine (line : String)
  | mainLine (line : String)
  deriving Repr, DecidableEq

namespace Shader

/-- The shader with one thing more. -/
def add (shader : Shader) : Addition → Shader
  | .profile profile => { shader with profile }
  | .property key value => { shader with properties := shader.properties.set key value }
  | .input v => { shader with input := shader.input ++ [v] }
  | .output v => { shader with output := shader.output ++ [v] }
  | .inputExtra v => { shader with inputExtra := shader.inputExtra ++ [v] }
  | .inputPatch v => { shader with inputPatch := shader.inputPatch ++ [v] }
  | .outputPatch v => { shader with outputPatch := shader.outputPatch ++ [v] }
  | .stream stream => { shader with streams := shader.streams ++ [stream] }
  | .uniformBuffer buffer => { shader with uniformBuffers := shader.uniformBuffers ++ [buffer] }
  | .sampler sampler => { shader with samplers := shader.samplers ++ [sampler] }
  | .readView view => { shader with readViews := shader.readViews ++ [view] }
  | .writeView view => { shader with writeViews := shader.writeViews ++ [view] }
  | .structure structure_ => { shader with structures := shader.structures ++ [structure_] }
  | .fixedSampling view sampler =>
    { shader with fixedSampling := shader.fixedSampling ++ [⟨view, sampler⟩] }
  | .globalLine line => { shader with globalCode := shader.globalCode ++ [line] }
  | .patchLine line => { shader with patchCode := shader.patchCode ++ [line] }
  | .mainLine line => { shader with mainCode := shader.mainCode ++ [line] }

/-- Accepts a shader that keeps all rules. -/
def accept (shader : Shader) : Except ShaderError Shader :=
  match shader.validate with
  | .ok () => .ok shader
  | .error fault => .error (.malformed shader.name fault)

/-- A new shader with some additions. -/
def collect (name : String) (stage : Stage) (additions : List Addition) : Shader :=
  additions.foldl add { name, stage }

/-- Builds a shader from additions, if it keeps all rules. -/
def build (name : String) (stage : Stage) (additions : List Addition) :
    Except ShaderError Shader :=
  (collect name stage additions).accept

/-- The additions that put a shader together, part by part. -/
def additions (shader : Shader) : List Addition :=
  .profile shader.profile ::
    shader.properties.map (fun (key, value) => .property key value) ++
    shader.input.map .input ++
    shader.output.map .output ++
    shader.inputExtra.map .inputExtra ++
    shader.inputPatch.map .inputPatch ++
    shader.outputPatch.map .outputPatch ++
    shader.streams.map .stream ++
    shader.uniformBuffers.map .uniformBuffer ++
    shader.samplers.map .sampler ++
    shader.readViews.map .readView ++
    shader.writeViews.map .writeView ++
    shader.structures.map .structure ++
    shader.fixedSampling.map (fun pair => .fixedSampling pair.view pair.sampler) ++
    shader.globalCode.map .globalLine ++
    shader.patchCode.map .patchLine ++
    shader.mainCode.map .mainLine

end Shader

end CrossShade
