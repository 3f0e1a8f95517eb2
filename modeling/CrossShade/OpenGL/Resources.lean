import CrossShade.Source.Interface

/-!
# GLSL resources

Structures, uniform blocks, samplers, views and the macros of fixed sampling.  Every resource has a
binding: the base of its category plus its slot.  Uniform blocks use the `std140` layout, and floats
fill the gaps before members that the packed offsets leave there.
-/

namespace CrossShade.OpenGL

/-- The first binding of each category. -/
def bindingBase : BindingCategory → UInt32
  | .uniformBuffer => 0
  | .sampler => 16
  | .readView => 32
  | .writeView => 64

/-- An error for what the target cannot express. -/
def refuse {α : Type} (what : Unsupported) : Except ShaderError α :=
  .error (.unsupported .openGL what)

/-- The GLSL spelling of a type. -/
def typeName (type : ValueType) : Except ShaderError String :=
  type.glsl.mapError fun fault => .unsupported .openGL (.spelling fault)

/-- Declares a value; only a length that is a number is written. -/
def declare (type : ValueType) (name : String) : Except ShaderError Source.Declaration :=
  return { type := ← typeName type, name, length := type.fixedLength? }

/-- Declares a structure. -/
def declareStructure (s : Structure) : Except ShaderError (List Source.Item) := do
  let members ← s.members.mapM fun m => declare m.type m.name
  return [.struct s.name members, .blank]

/-! ## Uniform blocks -/

/-- The floats that fill a gap of some bytes before the member with a number. -/
def padding (index : Nat) (bytes : UInt32) : List Source.Declaration :=
  (List.range (bytes / 4).toNat).map fun pad => { type := "float", name := s!"_pad{index}_{pad}" }

/-- Where a member ends in a block. -/
def blockEnd (member : UniformMember) : Except ValueType.Fault UInt32 := do
  let size ← member.type.blockSize
  checkedWord (member.offset.toNat + size.toNat)

/-- The members of a block.  The first of them has number `index`, and the members before it end at
`position`. -/
def blockMembers (buffer : String) : (index : Nat) → (position : UInt32) → List UniformMember →
    Except ShaderError (List Source.Declaration)
  | _, _, [] => .ok []
  | index, position, member :: rest => do
    if member.offset < position then
      refuse (.overlap member.name buffer)
    else
      let declared ← declare member.type member.name
      match blockEnd member with
      | .error fault => refuse (.blockMember member.name buffer fault)
      | .ok ending =>
        let following ← blockMembers buffer (index + 1) ending rest
        return padding index (member.offset - position) ++ declared :: following

/-- Declares a uniform block. -/
def declareBlock (buffer : UniformBuffer) : Except ShaderError (List Source.Item) := do
  let members ← blockMembers buffer.name 0 0 buffer.members
  let binding := bindingBase .uniformBuffer + buffer.slot
  return [.block buffer.name
    s!"layout(std140, set = 0, binding = {binding}) uniform {buffer.name}" members, .blank]

/-! ## Samplers and views -/

/-- Declares something opaque with a layout. -/
def declareOpaque (layout type name : String) : Source.Item :=
  .global { qualifiers := [layout, "uniform"], type, name }

/-- The layout with a binding. -/
def bindingLayout (binding : UInt32) : String :=
  s!"layout(set = 0, binding = {binding})"

/-- Declares a sampler. -/
def declareSampler (sampler : SamplerBinding) : Source.Item :=
  declareOpaque (bindingLayout (bindingBase .sampler + sampler.slot))
    (if sampler.comparison then "samplerShadow" else "sampler") sampler.name

/-- The dimensions of a texture as a part of type names. -/
def textureDimension? : ResourceKind → Option String
  | .buffer => some "Buffer"
  | .texture1D => some "1D"
  | .texture1DArray => some "1DArray"
  | .texture2D => some "2D"
  | .texture2DArray => some "2DArray"
  | .texture2DMultisample => some "2DMS"
  | .texture3D => some "3D"
  | .textureCube => some "Cube"
  | .textureCubeArray => some "CubeArray"
  | .structuredBuffer | .renderbuffer => none

/-- The dimensions of an image, which has one sample. -/
def imageDimension? : ResourceKind → Option String
  | .texture2DMultisample => none
  | kind => textureDimension? kind

/-- The letter of type names that tells the scalar of elements. -/
def scalarLetter (element : ValueType) : String :=
  match element.base? with
  | some .int => "i"
  | some .uint => "u"
  | _ => ""

/-- The image format of elements. -/
def imageFormat? (element : ValueType) : Option String := do
  let width ← element.components?
  let base ← element.base?
  match base, width with
  | .float, 1 => "r32f"
  | .float, 2 => "rg32f"
  | .float, 4 => "rgba32f"
  | .int, 1 => "r32i"
  | .int, 2 => "rg32i"
  | .int, 4 => "rgba32i"
  | .uint, 1 => "r32ui"
  | .uint, 2 => "rg32ui"
  | .uint, 4 => "rgba32ui"
  | _, _ => none

/-- Declares a block of elements of any number. -/
def declareStorage (access : String) (binding : UInt32) (view : ViewBinding) :
    Except ShaderError Source.Item := do
  let type ← typeName view.element
  return .block s!"{view.name}_Data"
    s!"layout(std430, set = 0, binding = {binding}) {access}buffer {view.name}_Data"
    [{ type, name := s!"{view.name}[]" }]

/-- Declares a view that is read. -/
def declareReadView (view : ViewBinding) : Except ShaderError Source.Item :=
  let binding := bindingBase .readView + view.slot
  if view.kind = .structuredBuffer then declareStorage "readonly " binding view
  else
    match textureDimension? view.kind with
    | none => refuse (.viewKind view.kind.name view.name)
    | some dimension =>
      .ok (declareOpaque (bindingLayout binding)
        s!"{scalarLetter view.element}texture{dimension}" view.name)

/-- Declares a view that is written. -/
def declareWriteView (view : ViewBinding) : Except ShaderError Source.Item :=
  let binding := bindingBase .writeView + view.slot
  if view.kind = .structuredBuffer then declareStorage "" binding view
  else
    match imageDimension? view.kind, imageFormat? view.element with
    | none, _ => refuse (.writeViewKind view.kind.name view.name)
    | some _, none => refuse (.imageElement view.element view.name)
    | some dimension, some format =>
      .ok (declareOpaque s!"layout(set = 0, binding = {binding}, {format})"
        s!"{scalarLetter view.element}image{dimension}" view.name)

/-! ## Fixed sampling -/

/-- The macros that sample one view with its sampler; without the view there are none. -/
def samplePair (shader : Shader) (pair : FixedSampling) : Except ShaderError (List Source.Item) :=
  match shader.readView? pair.view with
  | none => .ok []
  | some view =>
    match textureDimension? view.kind with
    | none => refuse (.sampledKind view.kind.name view.name)
    | some dimension =>
      let compares := shader.samplers.any fun s => s.name == pair.sampler && s.comparison
      let shadow := if compares then "Shadow" else ""
      let letter := scalarLetter view.element
      let combined := s!"{letter}sampler{dimension}{shadow}({pair.view}, {pair.sampler})"
      .ok (Source.samplingMacros pair.view s!"texture({combined}, uv)"
        s!"textureLod({combined}, uv, lod)")

/-- Everything that is declared before the interface. -/
def resources (shader : Shader) : Except ShaderError (List Source.Item) := do
  let structures ← shader.structures.mapM declareStructure
  let blocks ← shader.uniformBuffers.mapM declareBlock
  let readViews ← shader.readViews.mapM declareReadView
  let writeViews ← shader.writeViews.mapM declareWriteView
  let sampling ← shader.fixedSampling.mapM (samplePair shader)
  return globalItems shader ++ structures.flatten ++ blocks.flatten ++
    shader.samplers.map declareSampler ++ readViews ++ writeViews ++ [.blank] ++
    sampling.flatten ++ [.blank]

end CrossShade.OpenGL
