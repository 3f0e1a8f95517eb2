import CrossShade.ValueType.Size

/-!
# Uniform buffers

Structures, uniform buffers and the packing that gives every member of a buffer its offset: members
follow each other, and each starts at a multiple of sixteen bytes.
-/

namespace CrossShade

/-- A named value in a structure. -/
structure Field where
  type : ValueType
  name : String
  deriving Repr, DecidableEq

/-- A structure that a shader declares. -/
structure Structure where
  name : String
  members : List Field
  deriving Repr, DecidableEq

/-- A named value at an offset of a uniform buffer. -/
structure UniformMember where
  type : ValueType
  name : String
  offset : UInt32
  deriving Repr, DecidableEq

/-- A uniform buffer, bound to a slot. -/
structure UniformBuffer where
  name : String
  slot : UInt32
  members : List UniformMember
  deriving Repr, DecidableEq

/-- The end of the last of some values that are packed one after the other, the first of them at
`offset`; without values the end is `last`. -/
def packedEnd (sizeOf : ValueType → Except ValueType.Fault UInt32) :
    (offset last : UInt32) → List ValueType → Except ValueType.Fault UInt32
  | _, last, [] => .ok last
  | offset, _, type :: more => do
    let size ← sizeOf type
    let ending ← checkedWord (offset.toNat + size.toNat)
    packedEnd sizeOf (← align16 ending) ending more

/-- The sizes of structures as one of them sees them from inside: it has no size itself. -/
def sizeFromInside (name : String) (sizeOf : String → Except ValueType.Fault UInt32)
    (other : String) : Except ValueType.Fault UInt32 :=
  if other = name then .error (.unknownStructure other) else sizeOf other

/-- The packed size of a structure; `sizeOf` gives the sizes of the others.  A member that cannot be
sized leaves the structure without a size, unless the program ends with it. -/
def Structure.sizeWith (sizeOf : String → Except ValueType.Fault UInt32) (structure_ : Structure) :
    Except ValueType.Fault UInt32 :=
  match packedEnd (ValueType.packedSize (sizeFromInside structure_.name sizeOf)) 0 0
    (structure_.members.map (·.type)) with
  | .ok size => .ok size
  | .error fault => .error (if fault.isTold then .unknownStructure structure_.name else fault)

/-- The packed size of a structure when at most `depth` structures may be entered, each inside the
one before it. -/
def structureSizeWithin (structures : List Structure) :
    (depth : Nat) → String → Except ValueType.Fault UInt32
  | 0, name =>
    match structures.find? (·.name == name) with
    | none => .error (.unknownStructure name)
    | some _ => .error .endlessStructure
  | depth + 1, name =>
    match structures.find? (·.name == name) with
    | none => .error (.unknownStructure name)
    | some found => found.sizeWith (structureSizeWithin structures depth)

/-- More structures than there are, and more than the stack of any machine holds. -/
def entryLimit (structures : List Structure) : Nat :=
  UInt64.size + structures.length

/-- The packed size of a structure.  Where the limit is reached, no limit would do, and a machine
has run out of stack long before. -/
def structureSize (structures : List Structure) (name : String) : Except ValueType.Fault UInt32 :=
  structureSizeWithin structures (entryLimit structures) name

/-- The packed size of a type beside some structures. -/
def ValueType.sizeIn (structures : List Structure) (type : ValueType) :
    Except ValueType.Fault UInt32 :=
  type.packedSize (structureSize structures)

namespace UniformBuffer

/-- Gives every member its offset, the first of them at `offset`. -/
def placeMembers (structures : List Structure) :
    (offset : UInt32) → List Field → Except ValueType.Fault (List UniformMember)
  | _, [] => .ok []
  | offset, field :: more => do
    let size ← field.type.sizeIn structures
    let ending ← checkedWord (offset.toNat + size.toNat)
    let placed ← placeMembers structures (← align16 ending) more
    return ⟨field.type, field.name, offset⟩ :: placed

/-- The buffer in which the members are packed in order. -/
def packed (name : String) (slot : UInt32) (members : List Field) (structures : List Structure) :
    Except ValueType.Fault UniformBuffer :=
  return ⟨name, slot, ← placeMembers structures 0 members⟩

/-- The size of a buffer: its last member ends it. -/
def size (buffer : UniformBuffer) (structures : List Structure) : Except ValueType.Fault UInt32 :=
  match buffer.members.getLast? with
  | none => .ok 0
  | some last => do
    let size ← last.type.sizeIn structures
    align16 (← checkedWord (last.offset.toNat + size.toNat))

/-- How many registers of sixteen bytes a buffer takes. -/
def registerCount (buffer : UniformBuffer) (structures : List Structure) :
    Except ValueType.Fault UInt32 :=
  return (← buffer.size structures) / 16

end UniformBuffer

end CrossShade
