import CrossShade.Direct3D11.Patch
import CrossShade.Direct3D11.Streams

/-!
# Direct3D 11 source texts

HLSL of shader models four and five for every stage.
-/

namespace CrossShade.Direct3D11

/-- A vertex or pixel shader after its resources. -/
def plain (shader : Shader) : Except ShaderError (List Source.Item) := do
  let input ← interface shader "Input" shader.input
  let output ← interface shader "Output" shader.output
  return InterfaceStruct.items input ++ InterfaceStruct.items output ++ Hlsl.interfaceMacros ++
    [Hlsl.entryPoint [] output (Hlsl.parameter input "input") shader.mainCode]

/-- A compute shader after its resources. -/
def compute (shader : Shader) : Except ShaderError (List Source.Item) := do
  let group ← shader.fault shader.threadGroup
  let input ← interface shader "Input" shader.input
  return InterfaceStruct.items input ++
    [Source.macroOf "INPUT" ["x"] "input.x", .blank,
      Hlsl.entryPoint [s!"numthreads({group.x}, {group.y}, {group.z})"] none
        (Hlsl.parameter input "input") shader.mainCode]

/-- What follows the resources of a shader. -/
def body (shader : Shader) : Except ShaderError (List Source.Item) :=
  match shader.stage with
  | .vertex | .pixel => plain shader
  | .compute => compute shader
  | .hull => hull shader
  | .domain => domain shader
  | .geometry => geometry shader

/-- The source text of a shader. -/
def source (shader : Shader) : Except ShaderError Source := do
  let resources ← resources shader
  let body ← body shader
  return Source.ofItems <|
    [.comment s!"{shader.name} ({shader.stage} shader, Direct3D 11)", .blank] ++ resources ++ body

end CrossShade.Direct3D11
