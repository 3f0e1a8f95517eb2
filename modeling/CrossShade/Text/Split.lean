import CrossShade.Text.Blank

/-!
# Cutting texts

Lines of a text, and cutting a text once at the first character of a class.

A line ends at a line feed, and a carriage return directly before that line feed belongs to the
ending.  What follows the last line feed is a line only if it is not empty, and a carriage return at
its end stays.
-/

namespace CrossShade.Text

/-- The text before the first character of a class and the text after it. -/
def cutWhere? (cut : Char → Bool) (text : List Char) : Option (List Char × List Char) :=
  match text.dropWhile (!cut ·) with
  | [] => none
  | _ :: after => some (text.takeWhile (!cut ·), after)

/-- The text before the first occurrence of a character and the text after it. -/
def cutAt? (c : Char) (text : List Char) : Option (List Char × List Char) :=
  cutWhere? (· == c) text

/-- Drops one carriage return from the end of a line. -/
def dropReturn (line : List Char) : List Char :=
  if line.getLast? = some '\r' then line.dropLast else line

/-- What stays of the pieces between line feeds: all but the last were ended by one. -/
def endedLines : List (List Char) → List (List Char)
  | [] => []
  | [last] => if last.isEmpty then [] else [last]
  | line :: more => dropReturn line :: endedLines more

/-- The lines of a text. -/
def lines (text : List Char) : List (List Char) :=
  endedLines (pieces (· == '\n') text)

/-- The rest of a text that begins with the given characters. -/
def afterStart? : (start text : List Char) → Option (List Char)
  | [], text => some text
  | _ :: _, [] => none
  | c :: start, d :: text => if c = d then afterStart? start text else none

/-- Whether one text occurs inside another. -/
def occursIn (part : List Char) : List Char → Bool
  | [] => part.isEmpty
  | c :: rest => part.isPrefixOf (c :: rest) || occursIn part rest

@[simp] theorem lines_nil : lines [] = [] := rfl

theorem afterStart?_append (start rest : List Char) :
    afterStart? start (start ++ rest) = some rest := by
  induction start with
  | nil => rfl
  | cons c start ih => simp [afterStart?, ih]

theorem eq_append_of_afterStart? {start text rest : List Char}
    (found : afterStart? start text = some rest) : text = start ++ rest := by
  fun_induction afterStart? start text with
  | case1 text => simpa using found
  | case2 => simp at found
  | case3 c start text ih => simp [ih found]
  | case4 => simp at found

theorem cutAt?_eq_some {c : Char} {text before after : List Char}
    (found : cutAt? c text = some (before, after)) : text = before ++ c :: after := by
  unfold cutAt? cutWhere? at found
  split at found
  · simp at found
  · rename_i d rest dropped
    simp only [Option.some.injEq, Prod.mk.injEq] at found
    obtain ⟨rfl, rfl⟩ := found
    have head := List.head?_dropWhile_not (fun x : Char => !(x == c)) text
    rw [dropped] at head
    have same : d = c := by simpa using head
    rw [← same]
    conv => lhs; rw [← List.takeWhile_append_dropWhile (p := fun x : Char => !(x == c)) (l := text)]
    rw [dropped, same]

end CrossShade.Text
