import CrossShade.Error
import CrossShade.Binary32.Shortest
import CrossShade.Shader.StageFacts
import CrossShade.Source

/-!
# Interface structures

A shader receives and passes on its variables in structures.  Such a structure declares the used
variables of a group; an array sized by tessellation factors has the length that the domain gives
it, and where that is zero the variable is left out.
-/

namespace CrossShade

/-- The lines of global code, unchanged. -/
def globalItems (shader : Shader) : List Source.Item :=
  shader.globalCode.map .verbatim ++ [.blank]

/-- How the array size of a variable shows in its declaration. -/
inductive MemberLength where
  | single
  | array (length : UInt32)
  | omitted
  deriving Repr, DecidableEq

namespace MemberLength

/-- The length that is written. -/
def length? : MemberLength → Option UInt32
  | array length => some length
  | single | omitted => none

end MemberLength

/-- The length of a member of a type; `name` is the variable a fault tells of. -/
def memberLength (name : String) (type : ValueType) (domain : Option TessellationDomain) :
    Except Shader.Fault MemberLength :=
  match type.arraySize? with
  | none => .ok .single
  | some (.fixed length) => .ok (.array length)
  | some size =>
    match size.resolve domain with
    | none => .error (.needsDomain name type)
    | some length => .ok (if length = 0 then .omitted else .array length)

/-- The members of an interface structure: `declare` declares one variable, given its length. -/
def interfaceMembers (shader : Shader) (domain : Option TessellationDomain)
    (declare : Variable → MemberLength → Except ShaderError Source.Declaration) :
    List Variable → Except ShaderError (List Source.Declaration)
  | [] => .ok []
  | v :: rest => do
    if !v.isUsed then
      interfaceMembers shader domain declare rest
    else
      match ← shader.fault (memberLength v.name v.type domain) with
      | .omitted => interfaceMembers shader domain declare rest
      | length => do
        let member ← declare v length
        return member :: (← interfaceMembers shader domain declare rest)

/-- The name of the interface structure with a role. -/
def interfaceName (stage : Stage) (role : String) : String :=
  s!"{stage.structureLetters}_{role}"

/-- An interface structure. -/
structure InterfaceStruct where
  name : String
  members : List Source.Declaration
  deriving Repr, DecidableEq

/-- The interface structure of a group of variables; there is none without members. -/
def interfaceStruct (shader : Shader) (role : String) (domain : Option TessellationDomain)
    (declare : Variable → MemberLength → Except ShaderError Source.Declaration)
    (vars : List Variable) : Except ShaderError (Option InterfaceStruct) := do
  let members ← interfaceMembers shader domain declare vars
  return if members.isEmpty then none else some ⟨interfaceName shader.stage role, members⟩

/-- An interface structure in a source text. -/
def InterfaceStruct.items : Option InterfaceStruct → List Source.Item
  | none => []
  | some s => [.struct s.name s.members, .blank]

end CrossShade
