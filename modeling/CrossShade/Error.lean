import CrossShade.Primitive
import CrossShade.Shader.Fault
import CrossShade.Shader.Section
import CrossShade.Target
import CrossShade.Text.Split

/-!
# Errors

Why a shader cannot be read, generated, compiled or fed, and why a context refuses a call.  Every
error is a cause with what is needed to tell it; the wording is in one function for each type.
-/

namespace CrossShade

/-- Why something cannot be done with a shader. -/
inductive ShaderError where
  /-- A line of a description cannot be read. -/
  | description (line : Nat) (fault : LineFault)
  /-- The shader itself is at fault. -/
  | malformed (shader : String) (fault : Shader.Fault)
  /-- The target has no such stage. -/
  | stageUnsupported (target : Target) (stage : Stage)
  /-- The compiler refused the source. -/
  | compilationFailed (shader source diagnostic : String)
  /-- A profile that does not exist, or not for the stage. -/
  | invalidProfile (stage : Option Stage) (profile : String)
  /-- A vertex layout with the wrong number of elements. -/
  | layoutLength (shader : String) (expected actual : Nat)
  /-- Something that the target cannot express. -/
  | unsupported (target : Target) (what : Unsupported)
  /-- All ids of a device have been given. -/
  | noIdLeft
  deriving Repr, DecidableEq

/-- A fault of a shader as an error. -/
def Shader.fault {α : Type} (shader : Shader) (result : Except Shader.Fault α) :
    Except ShaderError α :=
  result.mapError (.malformed shader.name)

/-- A text filled up with blanks on its left to a width. -/
def padLeft (width : Nat) (text : String) : String :=
  String.ofList (List.replicate (width - text.length) ' ') ++ text

/-- The lines of a source, each with its number and ended by a line feed. -/
def numberedLines (source : String) : String :=
  String.join ((Text.lines source.toList).zipIdx.map fun (line, index) =>
    let number := padLeft 4 (toString (index + 1))
    let content := String.ofList line
    s!"{number} | {content}\n")

/-- The report of an error. -/
def ShaderError.message : ShaderError → String
  | description line fault => s!"Shader description parse error at line {line}: {fault.message}"
  | malformed shader fault => s!"Malformed reflection for shader '{shader}': {fault.message}"
  | stageUnsupported target stage => s!"The {target} backend does not support {stage} shaders"
  | compilationFailed shader source diagnostic =>
    s!"Shader compilation failed for '{shader}': {diagnostic}\n--- generated source ---\n" ++
      numberedLines source
  | invalidProfile (some stage) profile => s!"Invalid profile '{profile}' for {stage} shaders"
  | invalidProfile none profile => s!"Invalid profile '{profile}'"
  | layoutLength shader expected actual =>
    s!"Vertex layout for shader '{shader}' has {actual} elements, but its inputs require {expected}"
  | unsupported target what => s!"Value {what.shown} is not supported by the {target} backend"
  | noIdLeft => "no id is left"

/-- Whether the program is there to tell of an error: it is not if a number overflows or if there is
no end to what it does. -/
def ShaderError.isTold : ShaderError → Bool
  | malformed _ fault => fault.isTold
  | unsupported _ what => what.isTold
  | noIdLeft => false
  | _ => true

/-- Why the assembled primitives do not fit the bound shaders. -/
inductive TopologyFault where
  /-- A hull shader without facts about tessellation. -/
  | noTessellation (hull : String)
  /-- A hull shader for patches of another size. -/
  | patchSize (hull : String) (points : UInt32)
  /-- Patches without a hull shader. -/
  | patchWithoutHull
  /-- A geometry shader for other primitives. -/
  | geometryPrimitive (shader : String) (primitive : GeometryPrimitive)
  deriving Repr, DecidableEq

/-- The report of a fault. -/
def TopologyFault.message : TopologyFault → String
  | noTessellation hull => s!"hull shader '{hull}' carries no tessellation metadata"
  | patchSize hull points => s!"hull shader '{hull}' consumes patches of {points} control points"
  | patchWithoutHull => "patch topologies require a hull shader"
  | geometryPrimitive shader primitive =>
    s!"geometry shader '{shader}' consumes {primitive.name} primitives"

/-- Why a device or a context refuses a call. -/
inductive ContextError where
  /-- Something is wrong with a shader, or the target refuses a call. -/
  | shader (error : ShaderError)
  /-- There is no shader with the id, or no longer. -/
  | unknownShader (id : Nat)
  /-- A shader of another stage. -/
  | stageMismatch (id : Nat) (compiledFor boundTo : Stage)
  /-- A stage needs a shader and has none. -/
  | noShaderBound (stage : Stage)
  /-- The topology does not fit the shaders. -/
  | incompatibleTopology (topology : PrimitiveTopology) (fault : TopologyFault)
  /-- An indexed draw without indices. -/
  | noIndexBuffer
  /-- More values than there are slots. -/
  | slotOutOfRange (group : String) (stop capacity : Nat)
  deriving Repr, DecidableEq

/-- The report of an error. -/
def ContextError.message : ContextError → String
  | shader error => s!"Shader error: {error.message}"
  | unknownShader id => s!"Unknown shader ID: ShaderId({id})"
  | stageMismatch id compiledFor boundTo =>
    s!"Shader ShaderId({id}) was compiled for the {compiledFor} stage but bound to {boundTo}"
  | noShaderBound stage => s!"No shader is bound to the {stage} stage"
  | incompatibleTopology topology fault =>
    s!"Topology {topology.name} is incompatible: {fault.message}"
  | noIndexBuffer => "Indexed draw without an index buffer"
  | slotOutOfRange group stop capacity =>
    s!"Binding {group} up to slot {stop} exceeds the capacity of {capacity}"

/-- Whether the program is there to tell of an error. -/
def ContextError.isTold : ContextError → Bool
  | shader error => error.isTold
  | _ => true

end CrossShade
