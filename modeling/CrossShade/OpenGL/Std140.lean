import CrossShade.Source
import CrossShade.ValueType.Size

/-!
# The layout of uniform blocks

The `std140` rules, by which OpenGL gives every member of a uniform block its offset.  They are
read off the declarations as a source text shows them, so they know GLSL type names and nothing of
the values behind them.  A matrix is a row of column vectors, and an array of matrices is a row of
the columns of all of them.
-/

namespace CrossShade.OpenGL.Std140

/-- What a member is made of: a vector (a scalar has width one), alone or in a row of so many. -/
structure Member where
  width : Nat
  count : Option Nat
  deriving Repr, DecidableEq

/-- The names of scalars and vectors, with their widths. -/
def vectorNames : List (String × Nat) :=
  ["float", "int", "uint", "bool"].map (·, 1) ++
    ["vec", "ivec", "uvec", "bvec"].flatMap fun letters =>
      [2, 3, 4].map fun width => (s!"{letters}{width}", width)

/-- The names of matrices, with their rows and columns.  Columns come first in a name. -/
def matrixNames : List (String × Nat × Nat) :=
  ([2, 3, 4].map fun size => (s!"mat{size}", size, size)) ++
    [2, 3, 4].flatMap fun columns =>
      [2, 3, 4].map fun rows => (s!"mat{columns}x{rows}", rows, columns)

/-- What a declaration of a type makes, in an array of some length or alone. -/
def Member.of? (type : String) (length : Option Nat) : Option Member :=
  match vectorNames.lookup type, matrixNames.lookup type with
  | some width, _ => some ⟨width, length⟩
  | none, some (rows, columns) => some ⟨rows, some (columns * length.getD 1)⟩
  | none, none => none

/-- The alignment of one vector. -/
def vectorAlignment : (width : Nat) → Nat
  | 1 => 4
  | 2 => 8
  | _ => 16

/-- How far apart the vectors of a row are. -/
def stride (width : Nat) : Nat :=
  roundUp 16 (vectorAlignment width)

/-- The alignment of a member. -/
def Member.alignment (member : Member) : Nat :=
  match member.count with
  | none => vectorAlignment member.width
  | some _ => stride member.width

/-- How many bytes a member takes; a row takes whole strides. -/
def Member.size (member : Member) : Nat :=
  match member.count with
  | none => 4 * member.width
  | some count => count * stride member.width

/-- The offset of every declared member when the first free byte is at `position`, unless a type is
unknown. -/
def layOut : (position : Nat) → List Source.Declaration →
    Option (List (Source.Declaration × Nat))
  | _, [] => some []
  | position, d :: rest => do
    let member ← Member.of? d.type (d.length.map (·.toNat))
    let offset := roundUp member.alignment position
    return (d, offset) :: (← layOut (offset + member.size) rest)

end CrossShade.OpenGL.Std140
