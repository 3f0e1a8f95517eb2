import CrossShade.ValueType

/-!
# Sizes of value types

Two ways to lay a value out in a uniform buffer.  Packed, a matrix column and an array element start
at the next multiple of sixteen bytes, but the last one takes only what it holds.  In a GLSL block
every column and every element takes whole sixteen bytes.  Sizes are 32-bit numbers of bytes, and
every number on the way to one has to be a 32-bit number too.
-/

namespace CrossShade

/-- The least multiple of a unit that is not below a number. -/
def roundUp (unit n : Nat) : Nat :=
  (n + (unit - 1)) / unit * unit

/-- A number in 32 bits, if they hold it. -/
def checkedWord (n : Int) : Except ValueType.Fault UInt32 :=
  if 0 ≤ n ∧ n < UInt32.size then .ok (.ofNat n.toNat) else .error .overflow

/-- The least multiple of sixteen that is not below a number. -/
def align16 (bytes : UInt32) : Except ValueType.Fault UInt32 :=
  return (← checkedWord (bytes.toNat + 15)) / 16 * 16

namespace ValueType

/-- The packed size of a type; `sizeOf` gives the sizes of structures. -/
def packedSize (sizeOf : String → Except Fault UInt32) : ValueType → Except Fault UInt32
  | scalar _ => .ok 4
  | vector _ width => .ok (4 * width.toUInt32)
  | matrix _ rows columns => do
    let others ← checkedWord (columns.toNat - 1)
    checkedWord (16 * others.toNat + 4 * rows.toNat)
  | array element (.fixed length) => do
    let size ← element.packedSize sizeOf
    let stride ← align16 size
    let others ← checkedWord (length.toNat - 1)
    checkedWord (stride.toNat * others.toNat + size.toNat)
  | array element size => .error (.sizedByPatch (array element size))
  | struct name => sizeOf name

/-- The size of a type in a GLSL block. -/
def blockSize : ValueType → Except Fault UInt32
  | scalar _ => .ok 4
  | vector _ width => .ok (4 * width.toUInt32)
  | matrix _ _ columns => .ok (16 * columns.toUInt32)
  | array element (.fixed length) => do
    let stride ← align16 (← element.blockSize)
    checkedWord (stride.toNat * length.toNat)
  | type => .error (.noBlockLayout type)

end ValueType

end CrossShade
