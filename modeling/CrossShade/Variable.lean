import CrossShade.Text.Ascii
import CrossShade.Text.Decimal
import CrossShade.ValueType

/-!
# Interface variables

The variables through which a stage receives and passes on values, with their semantics.  A semantic
is a name that may end in a number; the name without the number is its base, and the number, zero if
there is none, is its index.
-/

namespace CrossShade

/-- How a value is interpolated between vertices. -/
inductive Interpolation where
  | unspecified
  | linear
  | centroid
  | noInterpolation
  | noPerspective
  | sample
  deriving Repr, DecidableEq

namespace Interpolation

/-- The name of a mode. -/
def name : Interpolation → String
  | unspecified => "Default"
  | linear => "Linear"
  | centroid => "Centroid"
  | noInterpolation => "NoInterpolation"
  | noPerspective => "NoPerspective"
  | sample => "Sample"

/-- The word for a mode in descriptions and in HLSL. -/
def word? : Interpolation → Option String
  | unspecified => none
  | linear => some "linear"
  | centroid => some "centroid"
  | noInterpolation => some "nointerpolation"
  | noPerspective => some "noperspective"
  | sample => some "sample"

/-- Reads the word for a mode. -/
def read (text : String) : Except UnknownKeyword Interpolation :=
  readKeyword "interpolation mode"
    ([linear, centroid, noInterpolation, noPerspective, sample].filterMap fun mode =>
      mode.word?.map fun word => (word, mode)) text

end Interpolation

/-- A variable of a stage interface.  One that is not used is declared but never passed. -/
structure Variable where
  type : ValueType
  name : String
  semantic : Option String := none
  interpolation : Interpolation := .unspecified
  isUsed : Bool := true
  deriving Repr, DecidableEq

namespace Variable

/-- Whether the semantic names a value that the system provides or consumes: it begins with `SV_`,
in any letter case, and goes on. -/
def isSystemValue (v : Variable) : Bool :=
  match v.semantic.map String.toList with
  | some (s :: t :: u :: _ :: _) => Text.sameLetters [s, t, u] ['S', 'V', '_']
  | _ => false

/-- The semantic without its number, in upper case. -/
def semanticBase? (v : Variable) : Option String :=
  v.semantic.map fun semantic =>
    Text.upper (String.ofList (Text.withoutTrailingDigits semantic.toList))

/-- The number of the semantic; without one, or with one too large, it is zero. -/
def semanticIndex (v : Variable) : UInt32 :=
  match v.semantic with
  | none => 0
  | some semantic => (Text.readUInt32? (Text.trailingDigits semantic.toList)).getD 0

end Variable

/-- The used variables of a list. -/
def usedVariables (vars : List Variable) : List Variable :=
  vars.filter (·.isUsed)

end CrossShade
