import CrossShade.Direct3D11.Semantic
import CrossShade.Hlsl

/-!
# Direct3D 11 declarations

What a source text declares before its entry point: global code, structures, constant buffers,
samplers, views and the macros of fixed sampling; and how variables are declared in interface
structures.
-/

namespace CrossShade.Direct3D11

/-- An error for what the target cannot express. -/
def refuse {α : Type} (what : Unsupported) : Except ShaderError α :=
  .error (.unsupported .direct3D11 what)

/-- Declares a constant buffer, with every member at its offset. -/
def declareBuffer (buffer : UniformBuffer) : List Source.Item :=
  let members := buffer.members.map fun m =>
    let register := m.offset / 16
    Hlsl.declare m.type m.name s!"packoffset(c{register})"
  [.block buffer.name s!"cbuffer {buffer.name} : register(b{buffer.slot})" members, .blank]

/-- Declares a sampler. -/
def declareSampler (sampler : SamplerBinding) : Source.Item :=
  .global {
    type := if sampler.comparison then "SamplerComparisonState" else "SamplerState"
    name := sampler.name
    boundTo := s!"register(s{sampler.slot})" }

/-- Declares a view of a type in a register of a class. -/
def declareViewAs (type? : Option String) (registerClass : String) (view : ViewBinding) :
    Except ShaderError Source.Item :=
  match type? with
  | none => refuse (.value view.kind.name)
  | some type => .ok (.global {
      type := s!"{type}<{view.element.hlsl}>"
      name := view.name
      boundTo := s!"register({registerClass}{view.slot})" })

/-- Declares a view that is read. -/
def declareReadView (view : ViewBinding) : Except ShaderError Source.Item :=
  declareViewAs view.kind.hlslRead? "t" view

/-- Whether shaders of a stage write views. -/
def writesViews (stage : Stage) : Bool :=
  stage = .pixel || stage = .compute

/-- Declares a view that is written. -/
def declareWriteView (stage : Stage) (view : ViewBinding) : Except ShaderError Source.Item :=
  if writesViews stage then declareViewAs view.kind.hlslWrite? "u" view
  else refuse (.writeViewInStage view.name stage)

/-- The macros of fixed sampling. -/
def fixedSampling (shader : Shader) : List Source.Item :=
  shader.fixedSampling.flatMap fun pair =>
    Source.samplingMacros pair.view s!"{pair.view}.Sample({pair.sampler}, uv)"
      s!"{pair.view}.SampleLevel({pair.sampler}, uv, lod)"

/-- Everything that is declared before the interface. -/
def resources (shader : Shader) : Except ShaderError (List Source.Item) := do
  let readViews ← shader.readViews.mapM declareReadView
  let writeViews ← shader.writeViews.mapM (declareWriteView shader.stage)
  return globalItems shader ++ Hlsl.structures shader ++
    shader.uniformBuffers.flatMap declareBuffer ++ shader.samplers.map declareSampler ++
    readViews ++ writeViews ++ [.blank] ++ fixedSampling shader ++ [.blank]

/-- Declares a variable with its interpolation and its semantic. -/
def declareVariable (v : Variable) (length : MemberLength) :
    Except ShaderError Source.Declaration :=
  .ok {
    qualifiers := v.interpolation.word?.toList
    type := v.type.hlsl
    name := v.name
    length := length.length?
    boundTo := semanticOf v }

/-- The interface structure of a group of variables. -/
def interface (shader : Shader) (role : String) (vars : List Variable) :
    Except ShaderError (Option InterfaceStruct) :=
  interfaceStruct shader role none declareVariable vars

/-- The interface structure of patch constants, sized by a domain. -/
def patchInterface (shader : Shader) (role : String) (domain : TessellationDomain)
    (vars : List Variable) : Except ShaderError (Option InterfaceStruct) :=
  interfaceStruct shader role domain declareVariable vars

/-- An interface structure that has to be there. -/
def demand (shader : Shader) (s : Option InterfaceStruct) (fault : Shader.Fault) :
    Except ShaderError InterfaceStruct :=
  match s with
  | some s => .ok s
  | none => shader.fault (.error fault)

/-- The macro that names members of one of several inputs. -/
def indexedInputMacro : Source.Item :=
  Source.macroOf "INPUT" ["i", "x"] "input[i].x"

end CrossShade.Direct3D11
