import CrossShade.Settings.Number

/-!
# Values of unknown settings

A setting that is not known is skipped together with its value, whatever that is: a truth value, a
number, a range, a text, a character, an option, a list, a map, or a structure with or without a
name.  Values nest only so deep: `skip` is told how many levels are left, of which an option takes
one and a list, a map or a structure takes two.
-/

namespace CrossShade.Settings

/-- Extensions that a text of settings switches on. -/
structure Extensions where
  /-- A value stands for itself where an option is expected. -/
  implicitSome : Bool := false
  /-- A structure in an option needs no parentheses of its own. -/
  bareStructures : Bool := false
  /-- A structure has to be named. -/
  explicitNames : Bool := false
  deriving Repr, DecidableEq

namespace Reader

/-! ## Groups -/

/-- Takes items up to a closing character, which is left: a comma has to stand between two of them
and may stand after the last.  `count` bounds how many there are. -/
def items (item : Reader Unit) (close : Char) : (count : Nat) → (comma : Bool) → Reader Unit
  | 0, _ => failure
  | count + 1, hadComma => do
    blanks
    if (← remaining).head? == some close then return ()
    check hadComma
    item
    items item close count (← comma)

/-- Takes all items up to a closing character, which is left. -/
def itemsBefore (close : Char) (item : Reader Unit) : Reader Unit := do
  items item close ((← remaining).length + 1) true

/-- Takes items between two characters. -/
def group (start close : Char) (item : Reader Unit) : Reader Unit := do
  expect start.toString
  itemsBefore close item
  expect close.toString

/-- Takes a key, a colon and a value. -/
def entry (key value : Reader Unit) : Reader Unit := do
  key
  blanks
  expect ":"
  blanks
  value

/-- Takes a name, a colon and a value. -/
def namedEntry (value : Reader Unit) : Reader Unit :=
  entry (do let _ ← identifier) value

/-- Takes an identifier if one comes next, and tells whether one did. -/
def identifier? : Reader Bool := fun text =>
  match identifier text with
  | some (_, rest) => some (true, rest)
  | none => some (false, text)

/-! ## What is between parentheses -/

/-- What stands between two parentheses: values with names, no value or more than one, or one. -/
inductive Content where
  | named
  | values
  | single
  deriving Repr, DecidableEq

/-- Takes a character, a text or bytes if one of them comes next, and tells whether one did. -/
def literal? : Reader Bool :=
  (do characterLiteral; return true) <|>
    (do let _ ← quoted; return true) <|>
    (do quotedBytes; return true) <|>
    return false

/-- Whether a comma and another value come before the parenthesis that closes this level.  What is
quoted counts as a whole. -/
def hasAnother : (count level : Nat) → Reader Bool
  | 0, _ => failure
  | count + 1, level => do
    blanks
    if ← literal? then return ← hasAnother count level
    let c ← next
    if ['(', '[', '\x7b'].contains c then hasAnother count (level + 1)
    else if [')', ']', '\x7d'].contains c then
      match level with
      | 0 => return false
      | level + 1 => hasAnother count level
    else if c == ',' && level == 0 then
      blanks
      return (← remaining).head? != some ')'
    else hasAnother count level

/-- Takes as much after a parenthesis as tells what stands there. -/
def findContent : Reader Content := do
  blanks
  if (← remaining).head? == some ')' then return .values
  let isWord ← identifier?
  if isWord then blanks
  if isWord && (← remaining).head? == some ':' then return .named
  return if ← hasAnother (← remaining).length 0 then .values else .single

/-- What comes next after a parenthesis; nothing is taken. -/
def content : Reader Content := fun text =>
  (findContent text).map fun (content, _) => (content, text)

/-- Whether a name and a colon come next after a parenthesis. -/
def isNamed : Reader Bool := fun text =>
  let look : Reader Bool := do
    expect "("
    blanks
    let _ ← identifier
    blanks
    return (← remaining).head? == some ':'
  some (((look text).map (·.1)).getD false, text)

/-! ## Values -/

/-- Takes an option after its name: between parentheses, or a value that stands for itself. -/
def optionRest (extensions : Extensions) (value : (isBare : Bool) → Reader Unit) :
    Reader Unit := do
  blanks
  if ← take ['('] then
    blanks
    value extensions.bareStructures
    let _ ← comma
    expect ")"
  else
    check extensions.implicitSome
    value false

/-- Takes a structure after its name: values or named values between parentheses. -/
def structureRest (item : Reader Unit) : Reader Unit := do
  group '(' ')' (if ← isNamed then namedEntry item else item)

/-- Takes a list, a map or a structure, with items that `item` takes. -/
def groups (item : Reader Unit) : Reader Unit := do
  match (← remaining).head? with
  | some '(' => structureRest item
  | some '[' => group '[' ']' item
  | some '\x7b' => group '\x7b' '\x7d' (entry item item)
  | _ => failure

/-- Takes a text, a character, bytes, a number or a range. -/
def scalar : Reader Unit := do
  match ← remaining with
  | '\'' :: _ => characterLiteral
  | 'b' :: '\'' :: _ => numberOrRange
  | 'b' :: _ => quotedBytes
  | '"' :: _ => do let _ ← quoted
  | 'r' :: _ => do let _ ← quoted
  | _ => numberOrRange

/-- Whether a number comes next that is a word. -/
def startsInfinite : Reader Bool := fun text =>
  (anyWord infiniteWords text).map fun (found, _) => (found, text)

/-- The readers of what a value holds. -/
structure Inner where
  /-- Takes what an option holds: a value, or what stands between parentheses if the flag is set. -/
  option : (isBare : Bool) → Reader Unit
  /-- Takes an item of a list, a map or a structure. -/
  item : Reader Unit

/-- Takes any value; `hasGroups` says whether it may be a list, a map or a structure. -/
def anyValue (extensions : Extensions) (hasGroups : Bool) (inner : Inner) : Reader Unit := do
  if ← anyWord ["true", "false", "None"] then return ()
  if ← word "Some" then return ← optionRest extensions inner.option
  if ← take ['(', ')'] then return ()
  if ← startsInfinite then numberOrRange
  else if ← identifier? then
    blanks
    if (← remaining).head? == some '(' then
      check hasGroups
      structureRest inner.item
  else if (← remaining).head?.any fun c => ['(', '[', '\x7b'].contains c then
    check hasGroups
    groups inner.item
  else scalar

/-- Takes what stands between parentheses, up to the closing one: any value or the inside of a
structure. -/
def bareValue (extensions : Extensions) (hasGroups : Bool) (inner : Inner) : Reader Unit := do
  match ← content with
  | .single => anyValue extensions hasGroups inner
  | .values =>
    check hasGroups
    itemsBefore ')' inner.item
  | .named =>
    check hasGroups
    itemsBefore ')' (namedEntry inner.item)

/-- Takes any value that nests at most to a limit, or the inside of a structure if `isBare` is
set. -/
def skip (extensions : Extensions) : (limit : Nat) → (isBare : Bool) → Reader Unit
  | 0, isBare =>
    (if isBare then bareValue else anyValue) extensions false ⟨fun _ => failure, failure⟩
  | 1, isBare =>
    (if isBare then bareValue else anyValue) extensions true ⟨skip extensions 0, failure⟩
  | limit + 2, isBare =>
    (if isBare then bareValue else anyValue) extensions true
      ⟨skip extensions (limit + 1), skip extensions limit false⟩

end Reader

end CrossShade.Settings
