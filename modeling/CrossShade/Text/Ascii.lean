/-!
# Letters and digits

Identifiers, letter case and trailing digits.  All of this is about ASCII alone: a letter outside
ASCII is no letter of an identifier and has no other case.
-/

namespace CrossShade.Text

/-- The characters an identifier may begin with. -/
def startsIdentifier (c : Char) : Bool :=
  c.isAlpha || c == '_'

/-- The characters an identifier may consist of. -/
def continuesIdentifier (c : Char) : Bool :=
  c.isAlphanum || c == '_'

/-- An identifier is a letter or an underscore, followed by letters, digits and underscores. -/
def isIdentifier (text : List Char) : Bool :=
  (text.head?.any startsIdentifier) && text.all continuesIdentifier

/-- Upper case of every ASCII letter. -/
def upper (text : String) : String :=
  String.ofList (text.toList.map Char.toUpper)

/-- Equality of texts when ASCII letters of either case count as one. -/
def sameLetters (a b : List Char) : Bool :=
  a.map Char.toUpper == b.map Char.toUpper

/-- The digits at the end of a text. -/
def trailingDigits (text : List Char) : List Char :=
  (text.reverse.takeWhile Char.isDigit).reverse

/-- A text without the digits at its end. -/
def withoutTrailingDigits (text : List Char) : List Char :=
  (text.reverse.dropWhile Char.isDigit).reverse

/-- Nothing is lost when the digits are cut off. -/
theorem withoutTrailingDigits_append (text : List Char) :
    withoutTrailingDigits text ++ trailingDigits text = text := by
  rw [withoutTrailingDigits, trailingDigits, ← List.reverse_append, List.takeWhile_append_dropWhile,
    List.reverse_reverse]

/-- The digits at the end of a text are digits. -/
theorem isDigit_of_mem_trailingDigits {text : List Char} {c : Char}
    (member : c ∈ trailingDigits text) : c.isDigit = true := by
  have inRun : c ∈ text.reverse.takeWhile Char.isDigit := by simpa [trailingDigits] using member
  exact List.all_eq_true.mp List.all_takeWhile c inRun

end CrossShade.Text
