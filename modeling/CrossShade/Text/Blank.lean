/-!
# Blank characters

Which characters count as blank, and the two things that are done with them: cutting them off the
ends of a text and cutting a text into words at them.  Texts are lists of characters here, so that
every function is a plain recursion.
-/

namespace CrossShade.Text

/-- A character is blank when it has the Unicode property White_Space. -/
def isBlank (c : Char) : Bool :=
  let code := c.toNat
  (9 ≤ code && code ≤ 13) || code == 0x20 || code == 0x85 || code == 0xA0 || code == 0x1680 ||
    (0x2000 ≤ code && code ≤ 0x200A) || code == 0x2028 || code == 0x2029 || code == 0x202F ||
    code == 0x205F || code == 0x3000

/-- Drops the blanks before the first other character. -/
def trimStart (text : List Char) : List Char :=
  text.dropWhile isBlank

/-- Drops the blanks after the last other character. -/
def trimEnd (text : List Char) : List Char :=
  (text.reverse.dropWhile isBlank).reverse

/-- Drops the blanks at both ends. -/
def trim (text : List Char) : List Char :=
  trimEnd (trimStart text)

/-- Cuts a text at every character of a class; there is one piece more than there are cuts. -/
def pieces (cut : Char → Bool) : List Char → List (List Char)
  | [] => [[]]
  | c :: rest =>
    if cut c then
      [] :: pieces cut rest
    else
      match pieces cut rest with
      | [] => [[c]]
      | piece :: more => (c :: piece) :: more

/-- The maximal runs of characters that are not blank, in order. -/
def words (text : List Char) : List (List Char) :=
  (pieces isBlank text).filter (!·.isEmpty)

/-- Every text has a first piece. -/
theorem pieces_ne_nil (cut : Char → Bool) (text : List Char) : pieces cut text ≠ [] := by
  cases text with
  | nil => simp [pieces]
  | cons c rest =>
    unfold pieces
    split
    · simp
    · split <;> simp

/-- A text without a cut is its own single piece. -/
theorem pieces_of_forall_not (cut : Char → Bool) (text : List Char)
    (uncut : ∀ c ∈ text, cut c = false) : pieces cut text = [text] := by
  induction text with
  | nil => rfl
  | cons c rest ih =>
    simp [pieces, uncut c (by simp), ih fun d member => uncut d (by simp [member])]

@[simp] theorem trimStart_nil : trimStart [] = [] := rfl

@[simp] theorem trimEnd_nil : trimEnd [] = [] := rfl

@[simp] theorem trim_nil : trim [] = [] := rfl

end CrossShade.Text
