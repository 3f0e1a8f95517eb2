import CrossShade.Binary32

/-!
# The shortest text of a floating-point number

The digits are the fewest that read back as the number, of those the nearest to it, and of two that
are equally near the greater.  From one ten-thousandth up to ten to the sixteenth they are written
positionally with at least one digit after the point, outside that range with an exponent.
-/

namespace CrossShade.Binary32

/-- A decimal number: digits times ten to an exponent. -/
structure Shortest where
  digits : Nat
  exponent : Int
  deriving Repr, DecidableEq

/-- The positive numbers that round to one floating-point number, as multiples of a quarter of its
last place: from `low` through `value` to `high`, the ends included for an even significand. -/
structure Rounding where
  low : Nat
  value : Nat
  high : Nat
  exponent : Int
  closed : Bool

/-- What rounds to a number.  Below a power of two the next number is only half as far away. -/
def rounding (x : Binary32) : Rounding :=
  let m := x.significand
  { low := 4 * m - if m = 0x800000 && x.exponent ≠ -149 then 1 else 2
    value := 4 * m
    high := 4 * m + 2
    exponent := x.exponent - 2
    closed := m % 2 = 0 }

/-- Factors that make `n` units of `2 ^ two` comparable with `c` units of `10 ^ ten`: `n` times the
first with `c` times the second. -/
def commonScale (two ten : Int) : Nat × Nat :=
  (Nat.pow 2 two.toNat * Nat.pow 10 (-ten).toNat, Nat.pow 2 (-two).toNat * Nat.pow 10 ten.toNat)

/-- The exponent of the greatest power of ten that is at most the value. -/
def decimalExponent (r : Rounding) : Int :=
  let exponents := (List.range 86).map fun (k : Nat) => (39 : Int) - k
  (exponents.find? fun e =>
    let (left, right) := commonScale r.exponent e
    right ≤ r.value * left).getD (-46)

/-- Whether `c` units of ten to an exponent round to the number. -/
def Rounding.holds (r : Rounding) (left right c : Nat) : Bool :=
  if r.closed then r.low * left ≤ c * right && c * right ≤ r.high * left
  else r.low * left < c * right && c * right < r.high * left

/-- The neighbour of the value on the grid of a power of ten that reads back, if one does. -/
def onGrid? (r : Rounding) (exponent : Int) : Option Shortest :=
  let (left, right) := commonScale r.exponent exponent
  let below := r.value * left / right
  let above := below + 1
  let low := r.holds left right below
  let high := r.holds left right above
  let nearerBelow := r.value * left - below * right < above * right - r.value * left
  if low && (!high || nearerBelow) then some ⟨below, exponent⟩
  else if high then some ⟨above, exponent⟩
  else none

/-- Moves zeros at the end of the digits into the exponent, at most `count` of them. -/
def dropZeros : Nat → Shortest → Shortest
  | 0, d => d
  | count + 1, d =>
    if d.digits % 10 = 0 && d.digits ≠ 0 then dropZeros count ⟨d.digits / 10, d.exponent + 1⟩ else d

/-- The shortest decimal number that reads back as a finite number other than zero. -/
def shortest (x : Binary32) : Shortest :=
  let r := x.rounding
  let top := decimalExponent r
  let grids := (List.range 10).map fun (k : Nat) => top - (k : Int)
  dropZeros 10 ((grids.findSome? (onGrid? r)).getD ⟨0, 0⟩)

/-- The digits with a point in them; `point` digits stand before it. -/
def positional (digits : List Char) (point : Int) : List Char :=
  if point ≤ 0 then "0.".toList ++ List.replicate (-point).toNat '0' ++ digits
  else
    let whole := point.toNat
    if digits.length ≤ whole then
      digits ++ List.replicate (whole - digits.length) '0' ++ ".0".toList
    else digits.take whole ++ '.' :: digits.drop whole

/-- The digits as a number between one and ten with an exponent. -/
def scientific (digits : List Char) (exponent : Int) : List Char :=
  let fraction := if digits.length ≤ 1 then [] else '.' :: digits.drop 1
  digits.take 1 ++ fraction ++ 'e' :: (toString exponent).toList

/-- The text of a decimal number. -/
def Shortest.text (d : Shortest) : List Char :=
  let digits := (toString d.digits).toList
  let point := (digits.length : Int) + d.exponent
  if -4 < point && point ≤ 16 then positional digits point else scientific digits (point - 1)

/-- The text of a number. -/
def text (x : Binary32) : String :=
  if x.isNaN then "NaN"
  else
    let body :=
      if x.magnitude = infinityPattern then "inf".toList
      else if x.magnitude = 0 then "0.0".toList
      else x.shortest.text
    String.ofList (if x.isNegative then '-' :: body else body)

end CrossShade.Binary32
