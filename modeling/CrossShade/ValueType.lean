import CrossShade.Tessellation

/-!
# Value types

The types of the values that shaders exchange: scalars, vectors, matrices, arrays of these and named
structures.  A type is spelled the HLSL way wherever it is shown; GLSL has a spelling of its own and
no matrices but those of floats.
-/

namespace CrossShade

/-- The scalar that a value is made of. -/
inductive ScalarType where
  | float
  | int
  | uint
  | bool
  deriving Repr, DecidableEq

namespace ScalarType

/-- Every scalar type. -/
def all : List ScalarType :=
  [float, int, uint, bool]

/-- The name of a scalar type. -/
def name : ScalarType → String
  | float => "Float"
  | int => "Int"
  | uint => "UInt"
  | bool => "Bool"

/-- The word for a scalar in source text. -/
def word : ScalarType → String
  | float => "float"
  | int => "int"
  | uint => "uint"
  | bool => "bool"

/-- The word for a vector of this scalar in GLSL, without its width. -/
def glslVector : ScalarType → String
  | float => "vec"
  | int => "ivec"
  | uint => "uvec"
  | bool => "bvec"

/-- Whether the scalar is a whole number. -/
def isInteger : ScalarType → Bool
  | int | uint => true
  | float | bool => false

instance : Named ScalarType := ⟨all, name⟩

end ScalarType

/-- The length of an array: a number, or the count of tessellation factors of a domain. -/
inductive ArraySize where
  | fixed (length : UInt32)
  | outerFactors
  | innerFactors
  deriving Repr, DecidableEq

namespace ArraySize

/-- The name of an array size. -/
def name : ArraySize → String
  | fixed length => s!"Fixed({length})"
  | outerFactors => "OuterTessFactors"
  | innerFactors => "InnerTessFactors"

/-- The text of an array size between brackets. -/
def spelling : ArraySize → String
  | fixed length => toString length
  | outerFactors => "outer"
  | innerFactors => "inner"

/-- The length in a domain, if there is one. -/
def resolve (size : ArraySize) (domain : Option TessellationDomain) : Option UInt32 :=
  match size with
  | fixed length => some length
  | outerFactors => domain.map (·.outerFactors)
  | innerFactors => domain.map (·.innerFactors)

/-- Whether the length is known only together with a domain. -/
def needsDomain : ArraySize → Bool
  | fixed _ => false
  | outerFactors | innerFactors => true

end ArraySize

/-- The type of a value.  Matrices have `rows` rows and `columns` columns. -/
inductive ValueType where
  | scalar (base : ScalarType)
  | vector (base : ScalarType) (width : UInt8)
  | matrix (base : ScalarType) (rows columns : UInt8)
  | array (element : ValueType) (size : ArraySize)
  | struct (name : String)
  deriving Repr, DecidableEq

namespace ValueType

/-- The type of four floats. -/
def float4 : ValueType :=
  .vector .float 4

/-- The scalar behind a type; structures have none. -/
def base? : ValueType → Option ScalarType
  | scalar base | vector base _ | matrix base _ _ => some base
  | array element _ => element.base?
  | struct _ => none

/-- The type of one element of an array; any other type is its own element. -/
def element : ValueType → ValueType
  | array element _ => element
  | type => type

/-- The size of an array. -/
def arraySize? : ValueType → Option ArraySize
  | array _ size => some size
  | _ => none

/-- The length of an array whose length is a number. -/
def fixedLength? : ValueType → Option UInt32
  | array _ (.fixed length) => some length
  | _ => none

/-- The structure that a type or its elements are. -/
def structureName? (type : ValueType) : Option String :=
  match type.element with
  | struct name => some name
  | _ => none

/-- How many scalars a value holds; arrays and structures are not counted. -/
def components? : ValueType → Option UInt32
  | scalar _ => some 1
  | vector _ width => some width.toUInt32
  | matrix _ rows columns => some (rows * columns).toUInt32
  | array _ _ | struct _ => none

/-- The HLSL spelling, without the length of an array. -/
def hlsl : ValueType → String
  | scalar base => base.word
  | vector base width => s!"{base.word}{width}"
  | matrix base rows columns => s!"{base.word}{rows}x{columns}"
  | array element _ => element.hlsl
  | struct name => name

/-- The spelling of a type, with the length of an array. -/
def spelling : ValueType → String
  | array element size => s!"{element.spelling}[{size.spelling}]"
  | type => type.hlsl

instance : ToString ValueType := ⟨spelling⟩

/-- What a type cannot do. -/
inductive Fault where
  /-- A matrix that is not of floats has no GLSL spelling. -/
  | nonFloatMatrix (type : ValueType)
  /-- An array sized by tessellation factors is no vertex input. -/
  | factorsFromLayout (type : ValueType)
  /-- A structure is no vertex input. -/
  | structureFromLayout (name : String)
  /-- An array sized by tessellation factors has no size of its own. -/
  | sizedByPatch (type : ValueType)
  /-- A structure that is not declared, or whose members have no size, has none. -/
  | unknownStructure (name : String)
  /-- Sizing a structure that contains itself through others never ends. -/
  | endlessStructure
  /-- A number of bytes that 32 bits do not hold. -/
  | overflow
  /-- A type without a place in a GLSL uniform block. -/
  | noBlockLayout (type : ValueType)
  deriving Repr, DecidableEq

/-- The report of what a type cannot do. -/
def Fault.message : Fault → String
  | nonFloatMatrix type => s!"{type} (non-float matrix)"
  | factorsFromLayout type => s!"{type} cannot be fed from a vertex layout"
  | structureFromLayout name => s!"structure '{name}' cannot be fed from a vertex layout"
  | sizedByPatch type => s!"{type} has no size outside a tessellation patch"
  | unknownStructure name => s!"unknown structure '{name}'"
  | endlessStructure => "a structure contains itself"
  | overflow => "a number of bytes overflows"
  | noBlockLayout type => s!"{type} has no std140 layout"

/-- Whether the program is there to tell of a fault: sizing without an end takes its stack, and a
number that overflows stops it. -/
def Fault.isTold : Fault → Bool
  | endlessStructure | overflow => false
  | nonFloatMatrix _ | factorsFromLayout _ | structureFromLayout _ | sizedByPatch _
  | unknownStructure _ | noBlockLayout _ => true

/-- The GLSL spelling, without the length of an array; GLSL names a matrix by its columns first. -/
def glsl : ValueType → Except Fault String
  | scalar base => .ok base.word
  | vector base width => .ok s!"{base.glslVector}{width}"
  | matrix .float rows columns =>
    .ok (if rows = columns then s!"mat{columns}" else s!"mat{columns}x{rows}")
  | matrix base rows columns => .error (.nonFloatMatrix (matrix base rows columns))
  | array element _ => element.glsl
  | struct name => .ok name

/-- How many elements of a vertex layout feed an input of the type. -/
def layoutElements : ValueType → Except Fault UInt32
  | scalar _ | vector _ _ => .ok 1
  | matrix _ _ columns => .ok columns.toUInt32
  | array element (.fixed length) => return (← element.layoutElements) * length
  | array element size => .error (.factorsFromLayout (array element size))
  | struct name => .error (.structureFromLayout name)

/-- How many scalars one layout element of the type holds. -/
def layoutWidth? (type : ValueType) : Option UInt32 :=
  match type.element with
  | scalar _ => some 1
  | vector _ width => some width.toUInt32
  | matrix _ rows _ => some rows.toUInt32
  | array _ _ | struct _ => none

end ValueType

end CrossShade
