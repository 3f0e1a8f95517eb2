import CrossShade.Shader

/-!
# What is wrong with a shader

The reasons for which a shader is refused, whatever the target: it breaks a rule of descriptions, a
property is missing or senseless, or it lacks what its stage needs.
-/

namespace CrossShade

/-- A rule for types that a declared type breaks. -/
inductive TypeRule where
  | zeroLength
  | nestedArray
  | unknownStructure (name : String)
  deriving Repr, DecidableEq

/-- The report of a broken rule. -/
def TypeRule.message : TypeRule → String
  | zeroLength => "array length must be positive"
  | nestedArray => "nested arrays are not supported"
  | unknownStructure name => s!"unknown structure '{name}'"

/-- A category of bindings, each with its own slots. -/
inductive BindingCategory where
  | uniformBuffer
  | sampler
  | readView
  | writeView
  deriving Repr, DecidableEq

/-- Every category. -/
def BindingCategory.all : List BindingCategory :=
  [uniformBuffer, sampler, readView, writeView]

/-- The name of a category. -/
def BindingCategory.name : BindingCategory → String
  | uniformBuffer => "uniform buffer"
  | sampler => "sampler"
  | readView => "srv"
  | writeView => "uav"

instance : ToString BindingCategory := ⟨BindingCategory.name⟩

/-- Something that only shaders of one stage may declare. -/
inductive StagePart where
  | streams
  | inputPatch
  | outputPatch
  | patchCode
  deriving Repr, DecidableEq

namespace StagePart

/-- The name of a part. -/
def name : StagePart → String
  | streams => "output streams"
  | inputPatch => "input patch variables"
  | outputPatch => "output patch variables"
  | patchCode => "patch constant code"

instance : ToString StagePart := ⟨name⟩

/-- The stage that may declare the part. -/
def stage : StagePart → Stage
  | streams => .geometry
  | inputPatch => .domain
  | outputPatch | patchCode => .hull

end StagePart

/-- A reason to refuse a shader. -/
inductive Shader.Fault where
  /-- The profile is for another stage. -/
  | profileStage (profile : String) (meant stage : Stage)
  /-- Two variables of a group have one name. -/
  | duplicateVariable (name group : String)
  /-- Two variables of a stream have one name. -/
  | duplicateStreamVariable (name stream : String)
  /-- Two streams have one name. -/
  | duplicateStream (name : String)
  /-- The stage has no such part. -/
  | notAllowed (part : StagePart) (stage : Stage)
  /-- A geometry shader has both streams and plain outputs. -/
  | outputsAndStreams
  /-- Two structures have one name. -/
  | duplicateStructure (name : String)
  /-- A variable has an impossible type. -/
  | variableType (var : String) (rule : TypeRule)
  /-- A variable outside a patch is sized by tessellation factors. -/
  | factorsOutsidePatch (var : String)
  /-- Two members of a structure have one name. -/
  | duplicateField (name structure_ : String)
  /-- A member of a structure has an impossible type. -/
  | fieldType (name structure_ : String) (rule : TypeRule)
  /-- Two members of a uniform buffer have one name. -/
  | duplicateMember (name buffer : String)
  /-- A member of a uniform buffer has an impossible type. -/
  | memberType (name buffer : String) (rule : TypeRule)
  /-- The offset of a uniform member is out of line. -/
  | memberOffset (name buffer : String) (offset : UInt32)
  /-- Two bindings of a category have one name. -/
  | duplicateBinding (category : BindingCategory) (name : String)
  /-- Two bindings of a category have one slot. -/
  | slotTwice (category : BindingCategory) (slot : UInt32)
  /-- The elements of a view have an impossible type. -/
  | viewType (view : String) (rule : TypeRule)
  /-- Fixed sampling of a view that is not declared. -/
  | unknownFixedView (view : String)
  /-- Fixed sampling with a sampler that is not declared. -/
  | unknownFixedSampler (sampler : String)
  /-- A view is fixed to two samplers. -/
  | viewFixedTwice (view : String)
  /-- A uniform buffer cannot be laid out. -/
  | uniformBuffer (buffer : String) (fault : ValueType.Fault)
  /-- The stage has no such property. -/
  | propertyOfOtherStage (key : String) (stage : Stage)
  /-- A property that is needed is not set. -/
  | missingProperty (key : String)
  /-- A property has a value that cannot be read. -/
  | invalidProperty (key value : String)
  /-- A count is zero. -/
  | notPositive (key : String)
  /-- A patch has too many control points. -/
  | tooManyControlPoints (key : String)
  /-- The greatest tessellation factor is out of range. -/
  | factorOutOfRange
  /-- An array is sized by factors and there is no domain. -/
  | needsDomain (var : String) (type : ValueType)
  /-- A uniform buffer has no size. -/
  | unsized (fault : ValueType.Fault)
  /-- A geometry shader puts nothing out. -/
  | noOutput
  /-- A stream carries nothing. -/
  | emptyStream (stream : String)
  /-- A hull shader puts out no patch constants. -/
  | noPatchOutput
  /-- Only vertex shaders have input layouts. -/
  | layoutOfOtherStage (stage : Stage)
  /-- A vertex layout cannot feed an input. -/
  | unfedInput (var : String) (fault : ValueType.Fault)
  /-- A vertex input is made of no scalar. -/
  | inputWithoutScalar (var : String)
  /-- A shader of another stage was to be created. -/
  | otherStage (described created : Stage)
  deriving Repr, DecidableEq

/-- The report of a fault. -/
def Shader.Fault.message : Shader.Fault → String
  | profileStage profile meant stage =>
    s!"profile '{profile}' targets {meant} shaders but the stage is {stage}"
  | duplicateVariable name group => s!"duplicate variable '{name}' in {group}"
  | duplicateStreamVariable name stream =>
    s!"duplicate variable '{name}' in output stream '{stream}'"
  | duplicateStream name => s!"duplicate output stream '{name}'"
  | notAllowed part stage => s!"{part} are not allowed in {stage} shaders"
  | outputsAndStreams =>
    "a geometry shader declares either plain outputs or output streams, not both"
  | duplicateStructure name => s!"duplicate structure '{name}'"
  | variableType var rule => s!"variable '{var}': {rule.message}"
  | factorsOutsidePatch var =>
    s!"variable '{var}' has a tessellation factor size outside a patch"
  | duplicateField name structure_ => s!"duplicate member '{name}' in structure '{structure_}'"
  | fieldType name structure_ rule =>
    s!"member '{name}' of structure '{structure_}': {rule.message}"
  | duplicateMember name buffer => s!"duplicate member '{name}' in uniform buffer '{buffer}'"
  | memberType name buffer rule => s!"member '{name}' of uniform buffer '{buffer}': {rule.message}"
  | memberOffset name buffer offset =>
    s!"member '{name}' of uniform buffer '{buffer}' has offset {offset} " ++
      "which is not increasing and 16-byte aligned"
  | duplicateBinding category name => s!"duplicate {category} '{name}'"
  | slotTwice category slot => s!"{category} slot {slot} is assigned twice"
  | viewType view rule => s!"view '{view}': {rule.message}"
  | unknownFixedView view => s!"fixed sampling refers to unknown srv '{view}'"
  | unknownFixedSampler sampler => s!"fixed sampling refers to unknown sampler '{sampler}'"
  | viewFixedTwice view => s!"srv '{view}' is fixed to more than one sampler"
  | uniformBuffer buffer fault => s!"uniform buffer '{buffer}': {fault.message}"
  | propertyOfOtherStage key stage => s!"metadata '{key}' is not defined for {stage} shaders"
  | missingProperty key => s!"missing metadata '{key}'"
  | invalidProperty key value => s!"invalid value '{value}' for metadata '{key}'"
  | notPositive key => s!"metadata '{key}' must be positive"
  | tooManyControlPoints key => s!"metadata '{key}' exceeds 32 control points"
  | factorOutOfRange => "metadata 'MaxTessFactor' must lie in [1, 64]"
  | needsDomain var type => s!"'{var}' needs a tessellation domain to size {type}"
  | unsized fault => fault.message
  | noOutput => "a geometry shader must output at least one used variable"
  | emptyStream stream => s!"output stream '{stream}' has no used variables"
  | noPatchOutput => "a hull shader must output its tessellation factors as patch constants"
  | layoutOfOtherStage stage => s!"input layouts need a vertex shader, not a {stage} shader"
  | unfedInput var fault => s!"input '{var}': {fault.message}"
  | inputWithoutScalar var => s!"input '{var}': input has no scalar type"
  | otherStage described created => s!"a {described} reflection cannot create a {created} shader"

/-- Whether the program is there to tell of a fault. -/
def Shader.Fault.isTold : Shader.Fault → Bool
  | uniformBuffer _ fault | unsized fault | unfedInput _ fault => fault.isTold
  | _ => true

end CrossShade
