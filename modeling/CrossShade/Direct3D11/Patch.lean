import CrossShade.Direct3D11.Resources

/-!
# Tessellation in Direct3D 11

Hull and domain shaders.  The patch constants that the one writes and the other reads are sized by
the same table of domains.
-/

namespace CrossShade.Direct3D11

/-- The name of the function that computes patch constants. -/
def patchFunction : String :=
  "PatchConstantFunction"

/-- A text between quotation marks. -/
def inMarks (text : String) : String :=
  "\"" ++ text ++ "\""

/-- The attribute that names the domain. -/
def domainAttribute (domain : TessellationDomain) : String :=
  s!"domain({inMarks domain.hlsl})"

/-- The parameter by which the hull shader knows its patch. -/
def primitiveParameter : String :=
  "uint primitiveId : SV_PrimitiveID"

/-- A hull shader after its resources: structures, macros, the function for patch constants and the
entry point. -/
def hull (shader : Shader) : Except ShaderError (List Source.Item) := do
  let domain ← shader.fault shader.tessellationDomain
  let partitioning ← shader.fault shader.partitioning
  let topology ← shader.fault shader.outputTopology
  let inputPoints ← shader.fault shader.inputControlPoints
  let outputPoints ← shader.fault shader.outputControlPoints
  let maxFactor ← shader.fault shader.maxTessFactor
  let input ← interface shader "Input" shader.input
  let output ← interface shader "Output" shader.output
  let patch ← patchInterface shader "OutputPatch" domain shader.outputPatch
  let patch ← demand shader patch .noPatchOutput
  let inputParameter := match input with
    | some s => [s!"InputPatch<{s.name}, {inputPoints}> input"]
    | none => []
  let attributes := [
    domainAttribute domain,
    s!"partitioning({inMarks partitioning.hlsl})",
    s!"outputtopology({inMarks topology.hlsl})",
    s!"outputcontrolpoints({outputPoints})",
    s!"patchconstantfunc({inMarks patchFunction})",
    s!"maxtessfactor({maxFactor.text})"]
  return InterfaceStruct.items input ++ InterfaceStruct.items output ++
    InterfaceStruct.items (some patch) ++
    [indexedInputMacro, Source.macroOf "OUTPUT" ["x"] "output.x",
      Source.macroOf "PATCH" ["x"] "patch.x",
      .define "CONTROL_POINT_ID" none "controlPointId",
      .define "PRIMITIVE_ID" none "primitiveId", .blank,
      .function {
        returns := patch.name
        name := patchFunction
        parameters := inputParameter ++ [primitiveParameter]
        body := Hlsl.returningBody (some (patch.name, "patch")) shader.patchCode },
      .blank,
      Hlsl.entryPoint attributes output
        (inputParameter ++ ["uint controlPointId : SV_OutputControlPointID", primitiveParameter])
        shader.mainCode]

/-- A domain shader after its resources. -/
def domain (shader : Shader) : Except ShaderError (List Source.Item) := do
  let domain ← shader.fault shader.tessellationDomain
  let points ← shader.fault shader.inputControlPoints
  let input ← interface shader "Input" shader.input
  let patch ← patchInterface shader "InputPatch" domain shader.inputPatch
  let extra ← interface shader "InputExtra" shader.inputExtra
  let output ← interface shader "Output" shader.output
  let inputParameter := match input with
    | some s => [s!"OutputPatch<{s.name}, {points}> input"]
    | none => []
  return InterfaceStruct.items input ++ InterfaceStruct.items patch ++
    InterfaceStruct.items extra ++ InterfaceStruct.items output ++
    [indexedInputMacro, Source.macroOf "PATCH" ["x"] "patch.x",
      Source.macroOf "EXTRA" ["x"] "extra.x", Source.macroOf "OUTPUT" ["x"] "output.x", .blank,
      Hlsl.entryPoint [domainAttribute domain] output
        (inputParameter ++ Hlsl.parameter patch "patch" ++ Hlsl.parameter extra "extra")
        shader.mainCode]

end CrossShade.Direct3D11
