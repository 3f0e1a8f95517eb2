import CrossShade.Text.Blank

/-!
# Unsigned decimal numbers

A number is written with ASCII digits, at least one, after an optional plus sign; leading zeros do
not matter.  A number that does not fit below the bound of its type is no number of that type.
-/

namespace CrossShade.Text

/-- The value of a digit. -/
def digitValue (c : Char) : Nat :=
  c.toNat - 48

/-- The value of a row of digits. -/
def digitsValue (digits : List Char) : Nat :=
  digits.foldl (fun value c => 10 * value + digitValue c) 0

/-- Drops a plus sign from the start. -/
def dropPlus : List Char → List Char
  | '+' :: rest => rest
  | text => text

/-- Reads a number below `bound`. -/
def readBelow? (bound : Nat) (text : List Char) : Option Nat :=
  let digits := dropPlus text
  if digits.isEmpty || !digits.all Char.isDigit then
    none
  else
    let value := digitsValue digits
    if value < bound then some value else none

/-- Reads a number of eight bits. -/
def readUInt8? (text : List Char) : Option UInt8 :=
  (readBelow? UInt8.size text).map UInt8.ofNat

/-- Reads a number of thirty-two bits. -/
def readUInt32? (text : List Char) : Option UInt32 :=
  (readBelow? UInt32.size text).map UInt32.ofNat

/-- A number that was read fits. -/
theorem lt_of_readBelow? {bound value : Nat} {text : List Char}
    (found : readBelow? bound text = some value) : value < bound := by
  unfold readBelow? at found
  grind

theorem digitsValue_append_single (digits : List Char) (c : Char) :
    digitsValue (digits ++ [c]) = 10 * digitsValue digits + digitValue c := by
  simp [digitsValue, List.foldl_append]

end CrossShade.Text
