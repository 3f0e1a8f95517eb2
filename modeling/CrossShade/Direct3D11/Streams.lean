import CrossShade.Direct3D11.Resources

/-!
# Geometry shaders in Direct3D 11

A geometry shader writes one unnamed stream or several numbered ones.  Each has a structure, a local
in which a vertex is put together and a parameter to which it is appended.
-/

namespace CrossShade.Direct3D11

/-- A stream as the source text knows it; `suffix` is its number, or nothing for the only one. -/
structure StreamOutput where
  suffix : String
  vertex : InterfaceStruct
  deriving Repr, DecidableEq

namespace StreamOutput

/-- The local in which a vertex is put together. -/
def localName (stream : StreamOutput) : String :=
  s!"output{stream.suffix}"

/-- The parameter to which vertices are appended. -/
def parameterName (stream : StreamOutput) : String :=
  s!"outputStream{stream.suffix}"

/-- The macros by which code writes to the stream. -/
def macros (stream : StreamOutput) : List Source.Item :=
  [Source.macroOf s!"OUTPUT{stream.suffix}" ["x"] s!"{stream.localName}.x",
    Source.macroOf s!"APPEND{stream.suffix}" []
      s!"{stream.parameterName}.Append({stream.localName})",
    Source.macroOf s!"RESTART_STRIP{stream.suffix}" []
      s!"{stream.parameterName}.RestartStrip()"]

end StreamOutput

/-- The numbered streams, the first of them with number `number`. -/
def numberedStreams (shader : Shader) : (number : Nat) → List OutputStream →
    Except ShaderError (List StreamOutput)
  | _, [] => .ok []
  | number, stream :: rest => do
    let vertex ← interface shader s!"Output{number}" stream.outputs
    let vertex ← demand shader vertex (.emptyStream stream.name)
    return ⟨toString number, vertex⟩ :: (← numberedStreams shader (number + 1) rest)

/-- The streams of a geometry shader: its plain outputs are the only one unless it declares some. -/
def streamOutputs (shader : Shader) : Except ShaderError (List StreamOutput) := do
  if shader.streams.isEmpty then
    let vertex ← interface shader "Output" shader.output
    return [⟨"", ← demand shader vertex .noOutput⟩]
  else
    numberedStreams shader 0 shader.streams

/-- The attribute for the number of runs, if it is given. -/
def instanceAttribute (shader : Shader) : Except ShaderError (List String) := do
  if (shader.property? Shader.keys.instanceCount).isSome then
    let count ← shader.fault shader.instanceCount
    return [s!"instance({count})"]
  else
    return []

/-- A geometry shader after its resources. -/
def geometry (shader : Shader) : Except ShaderError (List Source.Item) := do
  let maxVertices ← shader.fault shader.maxVertexCount
  let primitive ← shader.fault shader.inputPrimitive
  let wrapper := (← shader.fault shader.outputPrimitive).hlsl
  let input ← interface shader "Input" shader.input
  let streams ← streamOutputs shader
  let instances ← instanceAttribute shader
  let inputParameter := match input with
    | some s => [s!"{primitive.hlsl} {s.name} input[{primitive.vertexCount}]"]
    | none => []
  return InterfaceStruct.items input ++
    streams.flatMap (fun stream => InterfaceStruct.items (some stream.vertex)) ++
    indexedInputMacro :: streams.flatMap (·.macros) ++
    [.blank, .function {
      attributes := s!"maxvertexcount({maxVertices})" :: instances
      returns := "void"
      name := "main"
      parameters := inputParameter ++ streams.map fun stream =>
        s!"inout {wrapper}<{stream.vertex.name}> {stream.parameterName}"
      body := streams.map (fun stream => Hlsl.zeroed stream.vertex.name stream.localName) ++
        shader.mainCode }]

end CrossShade.Direct3D11
