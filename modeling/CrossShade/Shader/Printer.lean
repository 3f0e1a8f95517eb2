import CrossShade.Shader.Reader

/-!
# Printing descriptions

The text of a description for a shader, section by section.  Sections without lines are left out.
Lines of properties are indented, so that a key may begin with a percent sign.  An array of
tessellation factors is written as a single one, since its semantic tells the rest, and uniform
members are written without their offsets.
-/

namespace CrossShade

/-- The word for a type. -/
def ValueType.described : ValueType → String
  | array element .outerFactors | array element .innerFactors => element.spelling
  | type => type.spelling

/-- A line of words with a blank between any two of them. -/
def spaced (words : List String) : String :=
  " ".intercalate words

/-- The words for a variable without its semantic: its marks, its type and its name. -/
def Variable.words (v : Variable) : List String :=
  (if v.isUsed then [] else ["unused"]) ++ v.interpolation.word?.toList ++
    [v.type.described, v.name]

/-- The line for a variable. -/
def Variable.described (v : Variable) : String :=
  match v.semantic with
  | none => spaced v.words
  | some semantic => spaced (v.words ++ [":", semantic])

/-- The line for a value in a structure or a uniform buffer. -/
def describedMember (type : ValueType) (name : String) : String :=
  spaced [type.described, name]

/-- The lines for a stream, with the one that opens its section. -/
def OutputStream.described (stream : OutputStream) : List String :=
  ("%" ++ spaced ["output_stream", stream.name]) :: stream.outputs.map (·.described)

/-- The lines for a uniform buffer and its members. -/
def UniformBuffer.described (buffer : UniformBuffer) : List String :=
  spaced ["ubuffer", buffer.name, ":", toString buffer.slot] ::
    buffer.members.map fun member => describedMember member.type member.name

/-- The line for a sampler. -/
def SamplerBinding.described (sampler : SamplerBinding) : String :=
  spaced ((if sampler.comparison then ["comparison"] else []) ++
    ["sampler", sampler.name, ":", toString sampler.slot])

/-- The word for the kind of a view and its elements. -/
def ViewBinding.kindWord (view : ViewBinding) : String :=
  view.kind.word ++ "<" ++ view.element.described ++ ">"

/-- The line for a view. -/
def ViewBinding.described (view : ViewBinding) : String :=
  spaced [view.kindWord, view.name, ":", toString view.slot]

/-- The lines for a structure and its members. -/
def Structure.described (structure_ : Structure) : List String :=
  spaced ["struct", structure_.name] ::
    structure_.members.map fun field => describedMember field.type field.name

/-- The line for a view that is always sampled with one sampler. -/
def FixedSampling.described (pair : FixedSampling) : String :=
  spaced [pair.view, ":", pair.sampler]

namespace Shader

/-- The properties that a description states.  A stage that the profile implies can be left out. -/
def statedProperties (shader : Shader) (impliedStage : Bool) : List (String × String) :=
  let stage :=
    if impliedStage && Stage.ofProfile? shader.profile = some shader.stage then []
    else [("Stage", shader.stage.name)]
  ("Name", shader.name) :: ("Profile", shader.profile) :: (stage ++ shader.properties)

/-- The line for a property. -/
def describedProperty (row : String × String) : String :=
  " " ++ row.1 ++ " = " ++ row.2

/-- A section with its lines. -/
def describedSection (name : String) (rows : List String) : List String :=
  if rows.isEmpty then [] else ("%" ++ name) :: rows

/-- The lines of a description. -/
def describedLines (shader : Shader) (impliedStage : Bool) : List String :=
  describedSection "meta" ((shader.statedProperties impliedStage).map describedProperty) ++
    describedSection "input" (shader.input.map (·.described)) ++
    describedSection "output" (shader.output.map (·.described)) ++
    describedSection "input_extra" (shader.inputExtra.map (·.described)) ++
    describedSection "input_patch" (shader.inputPatch.map (·.described)) ++
    describedSection "output_patch" (shader.outputPatch.map (·.described)) ++
    shader.streams.flatMap (·.described) ++
    describedSection "ubuffers" (shader.uniformBuffers.flatMap (·.described)) ++
    describedSection "samplers" (shader.samplers.map (·.described)) ++
    describedSection "srvs" (shader.readViews.map (·.described)) ++
    describedSection "uavs" (shader.writeViews.map (·.described)) ++
    describedSection "structures" (shader.structures.flatMap (·.described)) ++
    describedSection "fixed_sampling" (shader.fixedSampling.map (·.described)) ++
    describedSection "code_global" shader.globalCode ++
    describedSection "code_patch" shader.patchCode ++
    describedSection "code_main" shader.mainCode

/-- The text of a description; every line is ended by a line feed. -/
def print (shader : Shader) (impliedStage : Bool) : String :=
  String.join ((shader.describedLines impliedStage).map (· ++ "\n"))

end Shader

end CrossShade
