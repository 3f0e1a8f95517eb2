import CrossShade.Direct3D9.Profile
import CrossShade.Direct3D9.Semantic
import CrossShade.Hlsl

/-!
# Direct3D 9 source texts

HLSL of shader model three.  Uniform members are single constants; the buffers follow each other in
the constant registers in the order of their slots.  Views and samplers are one thing here, named
for the view, and there are no views that are written.
-/

namespace CrossShade.Direct3D9

/-- An error for what the target cannot express. -/
def refuse {α : Type} (what : Unsupported) : Except ShaderError α :=
  .error (.unsupported .direct3D9 what)

/-- The constant of a member, in a buffer whose first register is `base`. -/
def declareConstant (base : UInt32) (m : UniformMember) : Except ValueType.Fault Source.Item := do
  let first ← checkedWord (base.toNat + (m.offset / 16).toNat)
  return .global (Hlsl.declare m.type m.name s!"register(c{first})")

/-- The constants of a buffer whose first register is `base`, and the first register behind it. -/
def declareConstants (structures : List Structure) (base : UInt32) (buffer : UniformBuffer) :
    Except ValueType.Fault (List Source.Item × UInt32) := do
  let members ← buffer.members.mapM (declareConstant base)
  let count ← buffer.registerCount structures
  return (members, ← checkedWord (base.toNat + count.toNat))

/-- The constants of uniform buffers, the first of them at register `base`. -/
def constants (shader : Shader) : (base : UInt32) → List UniformBuffer →
    Except ShaderError (List Source.Item)
  | _, [] => .ok []
  | base, buffer :: rest => do
    let (members, next) ←
      shader.fault ((declareConstants shader.structures base buffer).mapError .unsized)
    let following ← constants shader next rest
    return .comment s!"{buffer.name} (slot {buffer.slot})" :: members ++ following

/-- The uniform buffers in the order of their slots. -/
def buffersBySlot (shader : Shader) : List UniformBuffer :=
  shader.uniformBuffers.mergeSort fun a b => a.slot ≤ b.slot

/-- The sampler type for a kind of view. -/
def samplerType? : ResourceKind → Option String
  | .texture1D => some "sampler1D"
  | .texture2D => some "sampler2D"
  | .texture3D => some "sampler3D"
  | .textureCube => some "samplerCUBE"
  | _ => none

/-- Declares a view. -/
def declareView (view : ViewBinding) : Except ShaderError Source.Item :=
  match samplerType? view.kind with
  | none => refuse (.viewKind view.kind.name view.name)
  | some type => .ok (.global {
      type, name := view.name, boundTo := s!"register(s{view.slot})" })

/-- The calls that sample a view of a kind, at a place and at a place and level. -/
def samplingCalls (kind : ResourceKind) (view : String) : String × String :=
  match kind with
  | .texture1D => (s!"tex1D({view}, uv)", s!"tex1Dlod({view}, float4(uv, 0, 0, lod))")
  | .texture3D => (s!"tex3D({view}, uv)", s!"tex3Dlod({view}, float4(uv, lod))")
  | .textureCube => (s!"texCUBE({view}, uv)", s!"texCUBElod({view}, float4(uv, lod))")
  | _ => (s!"tex2D({view}, uv)", s!"tex2Dlod({view}, float4(uv, 0, lod))")

/-- The macros of fixed sampling. -/
def fixedSampling (shader : Shader) : List Source.Item :=
  shader.fixedSampling.flatMap fun pair =>
    let kind := ((shader.readView? pair.view).map (·.kind)).getD .texture2D
    let (sample, sampleLevel) := samplingCalls kind pair.view
    Source.samplingMacros pair.view sample sampleLevel

/-- Everything that is declared before the interface. -/
def resources (shader : Shader) : Except ShaderError (List Source.Item) := do
  match shader.writeViews with
  | view :: _ => refuse (.writeView view.name)
  | [] => pure ()
  let constants ← constants shader 0 (buffersBySlot shader)
  let views ← shader.readViews.mapM declareView
  return globalItems shader ++ Hlsl.structures shader ++ constants ++ [.blank] ++ views ++
    [.blank] ++ fixedSampling shader ++ [.blank]

/-- Declares a variable of an interface whose semantics are given. -/
def declareVariable (semantics : List (String × String)) (v : Variable) (length : MemberLength) :
    Except ShaderError Source.Declaration :=
  match semantics.lookup v.name with
  | none => refuse (.noSemantic v.name)
  | some semantic => .ok {
      type := v.type.hlsl, name := v.name, length := length.length?, boundTo := semantic }

/-- The interfaces on the two sides of a stage. -/
def interfaces (stage : Stage) : Interface × Interface :=
  if stage = .vertex then (.vertexInput, .vertexOutput) else (.pixelInput, .pixelOutput)

/-- The source text of a shader. -/
def source (shader : Shader) : Except ShaderError Source := do
  let stage := shader.stage
  if !supports stage then
    .error (.stageUnsupported .direct3D9 stage)
  else
    let resources ← resources shader
    let inputSemantics ← (interfaces stage).1.semantics shader.input
    let outputSemantics ← (interfaces stage).2.semantics shader.output
    let input ← interfaceStruct shader "Input" none (declareVariable inputSemantics) shader.input
    let output ←
      interfaceStruct shader "Output" none (declareVariable outputSemantics) shader.output
    return Source.ofItems <|
      [.comment s!"{shader.name} ({stage} shader, Direct3D 9)", .blank] ++ resources ++
      InterfaceStruct.items input ++ InterfaceStruct.items output ++ Hlsl.interfaceMacros ++
      [Hlsl.entryPoint [] output (Hlsl.parameter input "input") shader.mainCode]

end CrossShade.Direct3D9
