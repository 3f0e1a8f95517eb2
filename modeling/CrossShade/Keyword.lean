/-!
# Keywords

Enumerations are written by keyword.  A table of keywords reads them, and a text that is in no row
of the table is reported together with the kind of thing that was expected.
-/

namespace CrossShade

/-- A text that is no keyword of its kind. -/
structure UnknownKeyword where
  kind : String
  text : String
  deriving Repr, DecidableEq

/-- The report of an unknown keyword. -/
def UnknownKeyword.message (fault : UnknownKeyword) : String :=
  s!"unknown {fault.kind} '{fault.text}'"

/-- Reads a keyword: the first row with this text counts. -/
def readKeyword {α : Type} (kind : String) (rows : List (String × α)) (text : String) :
    Except UnknownKeyword α :=
  match rows.lookup text with
  | some value => .ok value
  | none => .error ⟨kind, text⟩

/-- A type of finitely many values, each with a name of its own. -/
class Named (α : Type) where
  /-- Every value. -/
  all : List α
  name : α → String

/-- The value with a name. -/
def Named.find? {α : Type} [Named α] (text : String) : Option α :=
  (Named.all (α := α)).find? fun value => Named.name value == text

end CrossShade
