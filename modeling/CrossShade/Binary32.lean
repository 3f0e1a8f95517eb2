/-!
# Thirty-two bit floating-point numbers

A number is its bit pattern: a sign bit, eight bits of exponent and twenty-three bits of fraction.
Nothing is computed with these numbers; they are read, compared and written, so the bit pattern is
all that is needed and every function on it is exact.
-/

namespace CrossShade

/-- A floating-point number in the 32-bit binary interchange format. -/
structure Binary32 where
  bits : UInt32
  deriving Repr, Inhabited

namespace Binary32

/-- The pattern without the sign bit; patterns of positive numbers are ordered as the numbers. -/
def magnitude (x : Binary32) : Nat :=
  x.bits.toNat % 0x80000000

/-- Whether the sign bit is set. -/
def isNegative (x : Binary32) : Bool :=
  0x80000000 ≤ x.bits.toNat

/-- The pattern of positive infinity. -/
def infinityPattern : Nat :=
  0x7F800000

/-- Whether the pattern stands for no number. -/
def isNaN (x : Binary32) : Bool :=
  infinityPattern < x.magnitude

/-- The number with a given sign and pattern. -/
def ofMagnitude (negative : Bool) (magnitude : Nat) : Binary32 :=
  ⟨UInt32.ofNat (magnitude + if negative then 0x80000000 else 0)⟩

/-- What is no number equals nothing, and the two zeros are equal. -/
def equals (x y : Binary32) : Bool :=
  !x.isNaN && !y.isNaN && (x.bits == y.bits || (x.magnitude == 0 && y.magnitude == 0))

instance : BEq Binary32 := ⟨equals⟩

/-- The number one. -/
def one : Binary32 := ⟨0x3F800000⟩

/-- The number sixty-four. -/
def sixtyFour : Binary32 := ⟨0x42800000⟩

/-- Whether a number lies between two positive numbers, both included. -/
def between (x low high : Binary32) : Bool :=
  !x.isNegative && low.magnitude ≤ x.magnitude && x.magnitude ≤ high.magnitude

/-- The value of a finite number without its sign is its significand times two to the exponent. -/
def significand (x : Binary32) : Nat :=
  if x.magnitude < 0x800000 then x.magnitude else 0x800000 + x.magnitude % 0x800000

/-- The exponent that belongs to the significand. -/
def exponent (x : Binary32) : Int :=
  if x.magnitude < 0x800000 then -149 else (x.magnitude / 0x800000 : Nat) - 150

end Binary32

end CrossShade
