import CrossShade.Binary32
import CrossShade.Text.Ascii
import CrossShade.Text.Decimal

/-!
# Reading floating-point numbers

A number is written with an optional sign, digits with at most one point among or beside them, and
an optional exponent; the words for infinity and for no number are read in any letter case.  The
number read is the nearest one, and of two that are equally near the one with the even pattern.
-/

namespace CrossShade.Binary32

/-- A quotient rounded to the nearest whole number, a half to the even one. -/
def roundDiv (numerator denominator : Nat) : Nat :=
  let quotient := numerator / denominator
  let twice := 2 * (numerator % denominator)
  if twice < denominator || (twice == denominator && quotient % 2 == 0) then quotient
  else quotient + 1

/-- `n` times two to the power `e`, as numerator and denominator. -/
def timesPower (base n : Nat) (e : Int) : Nat × Nat :=
  if 0 ≤ e then (n * base.pow e.toNat, 1) else (n, base.pow (-e).toNat)

/-- The exponent of the greatest power of two that is at most a positive quotient. -/
def floorLog2 (numerator denominator : Nat) : Int :=
  let guess : Int := (Nat.log2 numerator : Int) - (Nat.log2 denominator : Int)
  let (low, scale) := timesPower 2 denominator guess
  if low ≤ numerator * scale then guess else guess - 1

/-- The pattern nearest to a positive quotient; what is too large becomes infinity. -/
def nearestPattern (numerator denominator : Nat) : Nat :=
  let exponent := max (-149) (floorLog2 numerator denominator - 23)
  let (unit, scale) := timesPower 2 denominator exponent
  let steps := roundDiv (numerator * scale) unit
  min infinityPattern ((exponent + 149).toNat * 0x800000 + steps)

/-- The number of digits of a positive number in decimal. -/
def digitCount (n : Nat) : Nat :=
  if n < 10 then 1 else digitCount (n / 10) + 1

/-- The pattern nearest to `digits` times ten to the power `exponent`.  Far outside the range of the
format the power of ten is not even computed. -/
def patternOfDecimal (digits : Nat) (exponent : Int) : Nat :=
  if digits = 0 then 0
  else
    let size := (digitCount digits : Int) + exponent
    if 60 < size then infinityPattern
    else if size < -60 then 0
    else
      let (numerator, denominator) := timesPower 10 digits exponent
      nearestPattern numerator denominator

/-- Takes a sign from the start of a text; the flag says whether it was a minus. -/
def takeSign : List Char → Bool × List Char
  | '-' :: rest => (true, rest)
  | '+' :: rest => (false, rest)
  | text => (false, text)

/-- Reads what follows the mark of an exponent. -/
def readExponent? (text : List Char) : Option Int :=
  let (negative, digits) := takeSign text
  if digits.isEmpty || !digits.all Char.isDigit then none
  else
    let value : Int := Text.digitsValue digits
    some (if negative then -value else value)

/-- Reads digits, a point and an exponent without a sign, as digits and a power of ten. -/
def readDecimal? (text : List Char) : Option (Nat × Int) :=
  let whole := text.takeWhile Char.isDigit
  let afterWhole := text.dropWhile Char.isDigit
  let (fraction, rest) := match afterWhole with
    | '.' :: more => (more.takeWhile Char.isDigit, more.dropWhile Char.isDigit)
    | _ => ([], afterWhole)
  if whole.isEmpty && fraction.isEmpty then none
  else
    let digits := Text.digitsValue (whole ++ fraction)
    let shift : Int := -(fraction.length : Int)
    match rest with
    | [] => some (digits, shift)
    | mark :: more =>
      if mark == 'e' || mark == 'E' then
        (readExponent? more).map fun exponent => (digits, exponent + shift)
      else none

/-- The pattern of a quiet pattern that stands for no number. -/
def quietNaN : Nat :=
  0x7FC00000

/-- Reads a floating-point number. -/
def read? (text : List Char) : Option Binary32 :=
  let (negative, body) := takeSign text
  if Text.sameLetters body "inf".toList || Text.sameLetters body "infinity".toList then
    some (ofMagnitude negative infinityPattern)
  else if Text.sameLetters body "nan".toList then
    some (ofMagnitude negative quietNaN)
  else
    (readDecimal? body).map fun (digits, exponent) =>
      ofMagnitude negative (patternOfDecimal digits exponent)

end CrossShade.Binary32
