import CrossShade.Binary32.Reader
import CrossShade.Error
import CrossShade.Shader.Validation

/-!
# Facts about a stage

What the properties of a shader say about its stage: thread groups, primitives, tessellation.  A
property belongs to certain stages; asked for in another stage it is at fault before anything else.
-/

namespace CrossShade

namespace Shader

/-- The keys of the properties that stages read. -/
structure Keys where
  domain := "Domain"
  partitioning := "Partitioning"
  outputTopology := "OutputTopology"
  inputControlPoints := "InputControlPoints"
  outputControlPoints := "OutputControlPoints"
  maxTessFactor := "MaxTessFactor"
  maxVertexCount := "MaxVertexCount"
  inputPrimitive := "InputPrimitive"
  outputPrimitive := "OutputPrimitive"
  instanceCount := "InstanceCount"
  threadCountX := "ThreadCountX"
  threadCountY := "ThreadCountY"
  threadCountZ := "ThreadCountZ"

/-- The keys. -/
def keys : Keys := {}

/-- The value of a property. -/
def property? (shader : Shader) (key : String) : Option String :=
  shader.properties.get? key

/-- Passes if the shader is of one of the stages that a property belongs to. -/
def requireStage (shader : Shader) (key : String) (stages : List Stage) : Check :=
  require (stages.contains shader.stage) (.propertyOfOtherStage key shader.stage)

/-- Reads a property of certain stages. -/
def readProperty {α : Type} (shader : Shader) (key : String) (stages : List Stage)
    (read? : String → Option α) : Except Fault α := do
  shader.requireStage key stages
  match shader.property? key with
  | none => .error (.missingProperty key)
  | some text =>
    match read? text with
    | none => .error (.invalidProperty key text)
    | some value => .ok value

/-- Reads a property that is a number other than zero. -/
def readCount (shader : Shader) (key : String) (stages : List Stage) : Except Fault UInt32 := do
  let count ← shader.readProperty key stages fun text => Text.readUInt32? text.toList
  require (count ≠ 0) (.notPositive key)
  return count

/-- Reads a property that is a number of control points. -/
def readControlPoints (shader : Shader) (key : String) (stages : List Stage) :
    Except Fault UInt32 := do
  let count ← shader.readCount key stages
  require (count ≤ 32) (.tooManyControlPoints key)
  return count

/-- Reads a keyword as a property. -/
def readWord {α : Type} (shader : Shader) (key : String) (stages : List Stage)
    (read : String → Except UnknownKeyword α) : Except Fault α :=
  shader.readProperty key stages fun text => (read text).toOption

/-- Threads of a group along the first axis. -/
def threadCountX (shader : Shader) : Except Fault UInt32 :=
  shader.readCount keys.threadCountX [.compute]

/-- Threads of a group along the second axis. -/
def threadCountY (shader : Shader) : Except Fault UInt32 :=
  shader.readCount keys.threadCountY [.compute]

/-- Threads of a group along the third axis. -/
def threadCountZ (shader : Shader) : Except Fault UInt32 :=
  shader.readCount keys.threadCountZ [.compute]

/-- The number of threads along each axis of a group. -/
structure ThreadGroup where
  x : UInt32
  y : UInt32
  z : UInt32
  deriving Repr, DecidableEq

/-- The thread group of a compute shader. -/
def threadGroup (shader : Shader) : Except Fault ThreadGroup :=
  return ⟨← shader.threadCountX, ← shader.threadCountY, ← shader.threadCountZ⟩

/-- How many vertices a geometry shader puts out at most. -/
def maxVertexCount (shader : Shader) : Except Fault UInt32 :=
  shader.readCount keys.maxVertexCount [.geometry]

/-- The primitive a geometry shader consumes. -/
def inputPrimitive (shader : Shader) : Except Fault GeometryPrimitive :=
  shader.readWord keys.inputPrimitive [.geometry] GeometryPrimitive.read

/-- How many vertices a geometry shader receives. -/
def inputVertexCount (shader : Shader) : Except Fault UInt32 :=
  return (← shader.inputPrimitive).vertexCount

/-- The primitives a geometry shader puts out. -/
def outputPrimitive (shader : Shader) : Except Fault StreamTopology :=
  shader.readWord keys.outputPrimitive [.geometry] StreamTopology.read

/-- How often a geometry shader runs for a primitive, once unless it is set. -/
def instanceCount (shader : Shader) : Except Fault UInt32 :=
  match shader.property? keys.instanceCount with
  | none => do
    shader.requireStage keys.instanceCount [.geometry]
    return 1
  | some _ => shader.readCount keys.instanceCount [.geometry]

/-- The domain of a patch. -/
def tessellationDomain (shader : Shader) : Except Fault TessellationDomain :=
  shader.readWord keys.domain [.hull, .domain] TessellationDomain.read

/-- The partitioning of a patch. -/
def partitioning (shader : Shader) : Except Fault Partitioning :=
  shader.readWord keys.partitioning [.hull] Partitioning.read

/-- The primitives the tessellator puts out. -/
def outputTopology (shader : Shader) : Except Fault OutputTopology :=
  shader.readWord keys.outputTopology [.hull] OutputTopology.read

/-- The control points of a patch that comes in. -/
def inputControlPoints (shader : Shader) : Except Fault UInt32 :=
  shader.readControlPoints keys.inputControlPoints [.hull, .domain]

/-- The control points of a patch that goes out. -/
def outputControlPoints (shader : Shader) : Except Fault UInt32 :=
  shader.readControlPoints keys.outputControlPoints [.hull]

/-- The greatest tessellation factor, sixty-four unless it is set. -/
def maxTessFactor (shader : Shader) : Except Fault Binary32 :=
  match shader.property? keys.maxTessFactor with
  | none => do
    shader.requireStage keys.maxTessFactor [.hull]
    return .sixtyFour
  | some _ => do
    let factor ← shader.readProperty keys.maxTessFactor [.hull] fun text =>
      Binary32.read? text.toList
    require (factor.between .one .sixtyFour) .factorOutOfRange
    return factor

end Shader

/-- What a device has to know about a shader of each stage. -/
inductive StageFacts where
  | none
  | hull (domain : TessellationDomain) (partitioning : Partitioning) (topology : OutputTopology)
      (inputPoints outputPoints : UInt32) (maxFactor : Binary32)
  | domain (domain : TessellationDomain) (inputPoints : UInt32)
  | geometry (maxVertices : UInt32) (input : GeometryPrimitive) (output : StreamTopology)
      (streams instances : UInt32)
  | compute (group : Shader.ThreadGroup)
  deriving Repr

/-- The facts about the stage of a shader. -/
def Shader.stageFacts (shader : Shader) : Except Shader.Fault StageFacts :=
  match shader.stage with
  | .vertex | .pixel => .ok .none
  | .hull =>
    return .hull (← shader.tessellationDomain) (← shader.partitioning) (← shader.outputTopology)
      (← shader.inputControlPoints) (← shader.outputControlPoints) (← shader.maxTessFactor)
  | .domain => return .domain (← shader.tessellationDomain) (← shader.inputControlPoints)
  | .geometry =>
    return .geometry (← shader.maxVertexCount) (← shader.inputPrimitive) (← shader.outputPrimitive)
      (UInt32.ofNat (max 1 shader.streams.length)) (← shader.instanceCount)
  | .compute => return .compute (← shader.threadGroup)

end CrossShade
