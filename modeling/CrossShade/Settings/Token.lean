import CrossShade.Text.Word

/-!
# Tokens of settings

How a text of settings is taken apart: characters, the blanks and comments between tokens, and
identifiers.  Reading takes a token from the start of a text; a text that cannot be read is refused
without a reason.
-/

namespace CrossShade.Settings

/-- Takes something from the start of a text. -/
abbrev Reader := StateT (List Char) Option

namespace Reader

/-! ## Characters -/

/-- The text that is still to be read. -/
def remaining : Reader (List Char) :=
  get

/-- Goes on with another text. -/
def goOn (text : List Char) : Reader Unit :=
  set text

/-- Takes the next character. -/
def next : Reader Char := do
  match ← remaining with
  | [] => failure
  | c :: rest =>
    goOn rest
    return c

/-- Takes a text if it comes next, and tells whether it did. -/
def take (text : List Char) : Reader Bool := do
  let present ← remaining
  if text.isPrefixOf present then
    goOn (present.drop text.length)
    return true
  else return false

/-- Takes a text that has to come next. -/
def expect (text : String) : Reader Unit := do
  if !(← take text.toList) then failure

/-- Takes the longest run of characters of a class. -/
def takeWhile (p : Char → Bool) : Reader (List Char) := do
  let present ← remaining
  goOn (present.dropWhile p)
  return present.takeWhile p

/-- Passes if a condition holds. -/
def check (condition : Bool) : Reader Unit :=
  if condition then pure () else failure

end Reader

/-! ## Blanks -/

/-- The blanks between tokens: those of ASCII, the next-line character and the marks for directions,
lines and paragraphs. -/
def isBlank (c : Char) : Bool :=
  [' ', '\t', '\n', '\r', '\x0b', '\x0c', '\u0085', '\u200e', '\u200f', '\u2028',
    '\u2029'].contains c

/-- What follows block comments of which some are open; they may stand inside one another. -/
def afterBlock : (level : Nat) → List Char → Option (List Char)
  | 0, text => some text
  | level + 1, '/' :: '*' :: rest => afterBlock (level + 2) rest
  | level + 1, '*' :: '/' :: rest => afterBlock level rest
  | level + 1, _ :: rest => afterBlock (level + 1) rest
  | _ + 1, [] => none

theorem length_afterBlock {level : Nat} {text rest : List Char}
    (found : afterBlock level text = some rest) : rest.length ≤ text.length := by
  fun_induction afterBlock level text <;> simp_all <;> omega

/-- What follows blanks and comments; a slash has to begin a comment. -/
def afterBlanks : List Char → Option (List Char)
  | [] => some []
  | '/' :: '/' :: rest => afterBlanks (rest.dropWhile (· ≠ '\n'))
  | '/' :: '*' :: rest =>
    match found : afterBlock 1 rest with
    | none => none
    | some after =>
      have := length_afterBlock found
      afterBlanks after
  | '/' :: _ => none
  | c :: rest => if isBlank c then afterBlanks rest else some (c :: rest)
termination_by text => text.length
decreasing_by
  · have := (List.dropWhile_suffix (· ≠ '\n') (l := rest)).length_le
    simp only [List.length_cons]
    omega
  · simp only [List.length_cons]
    omega
  · simp

namespace Reader

/-- Takes blanks and comments. -/
def blanks : Reader Unit := fun text =>
  (afterBlanks text).map fun rest => ((), rest)

/-- Takes a comma between blanks, and tells whether there was one. -/
def comma : Reader Bool := do
  blanks
  let found ← take [',']
  if found then blanks
  return found

/-! ## Identifiers -/

/-- The characters of an identifier after the mark that lets it hold signs and points. -/
def continuesMarked (c : Char) : Bool :=
  Text.continuesWord c || c == '.' || c == '+' || c == '-'

/-- The ways in which a quoted text or a byte begins that could be taken for an identifier. -/
def quotedStarts : List String :=
  ["b\"", "b'", "br#", "br\"", "r\"", "r#\"", "r##"]

/-- Takes an identifier.  After `r#` it may hold signs and points; without that mark none may follow
it. -/
def identifier : Reader String := do
  let text ← remaining
  check (text.head?.any Text.startsWord && !quotedStarts.any (·.toList.isPrefixOf text))
  if ← take ['r', '#'] then
    let word ← takeWhile continuesMarked
    check (!word.isEmpty)
    return String.ofList word
  else
    let word ← takeWhile Text.continuesWord
    check (!(← remaining).head?.any continuesMarked)
    return String.ofList word

/-- Takes a word if it comes next and ends there, and tells whether it did. -/
def word (text : String) : Reader Bool := do
  let present ← remaining
  let letters := text.toList
  if letters.isPrefixOf present && !(present.drop letters.length).head?.any Text.continuesWord then
    take letters
  else return false

/-- Takes one of some words, and tells whether one was there. -/
def anyWord : List String → Reader Bool
  | [] => return false
  | text :: rest => do
    if ← word text then return true else anyWord rest

/-! ## Digits -/

/-- The value of a hexadecimal digit. -/
def hexValue? (c : Char) : Option Nat :=
  if c.isDigit then some (c.toNat - 48)
  else if 'a' ≤ c && c ≤ 'f' then some (c.toNat - 87)
  else if 'A' ≤ c && c ≤ 'F' then some (c.toNat - 55)
  else none

end Reader

end CrossShade.Settings
