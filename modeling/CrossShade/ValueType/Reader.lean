import CrossShade.Text.Ascii
import CrossShade.Text.Decimal
import CrossShade.Text.Split
import CrossShade.ValueType

/-!
# Reading value types

A type is a scalar word with optional dimensions, or the name of a structure, followed by at most
one length between brackets.  A scalar word whose dimensions make no sense is the name of a
structure.
-/

namespace CrossShade.ValueType

/-- Why a text spells no type. -/
inductive SpellingFault where
  | unterminatedArray (text : String)
  | badLength (length text : String)
  | zeroLength (text : String)
  | noType (text : String)
  deriving Repr, DecidableEq

/-- The report of a text that spells no type. -/
def SpellingFault.message : SpellingFault → String
  | unterminatedArray text => s!"unterminated array type '{text}'"
  | badLength length text => s!"invalid array length '{length}' in '{text}'"
  | zeroLength text => s!"array length must be positive in '{text}'"
  | noType text => s!"invalid type '{text}'"

/-- Reads a dimension, which is a number from one to four. -/
def readDimension? (text : List Char) : Option UInt8 :=
  (Text.readUInt8? text).filter fun n => 1 ≤ n && n ≤ 4

/-- Reads what follows a scalar word: nothing, a width, or rows and columns. -/
def readDimensions? (base : ScalarType) (text : List Char) : Option ValueType :=
  if text.isEmpty then some (.scalar base)
  else
    match Text.cutAt? 'x' text with
    | some (rows, columns) => do
      return .matrix base (← readDimension? rows) (← readDimension? columns)
    | none => do
      let width ← readDimension? text
      return if width = 1 then .scalar base else .vector base width

/-- The scalars in the order in which their words are tried. -/
def scalarOrder : List ScalarType :=
  [.uint, .int, .float, .bool]

/-- Reads a scalar, vector or matrix. -/
def readNumeric? (text : List Char) : Option ValueType :=
  scalarOrder.findSome? fun base => do
    readDimensions? base (← Text.afterStart? base.word.toList text)

/-- Reads a type without brackets. -/
def readElement (text : List Char) : Except SpellingFault ValueType :=
  let text := Text.trim text
  match readNumeric? text with
  | some type => .ok type
  | none =>
    if Text.isIdentifier text then .ok (.struct (String.ofList text))
    else .error (.noType (String.ofList text))

/-- Reads a type. -/
def read (text : List Char) : Except SpellingFault ValueType :=
  let text := Text.trim text
  match Text.cutAt? '[' text with
  | none => readElement text
  | some (before, after) =>
    if after.getLast? ≠ some ']' then .error (.unterminatedArray (String.ofList text))
    else do
      let element ← readElement before
      let inner := after.dropLast
      match Text.readUInt32? (Text.trim inner) with
      | none => .error (.badLength (String.ofList inner) (String.ofList text))
      | some length =>
        if length = 0 then .error (.zeroLength (String.ofList text))
        else return .array element (.fixed length)

end CrossShade.ValueType
