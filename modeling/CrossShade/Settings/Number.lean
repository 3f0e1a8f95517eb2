import CrossShade.Binary32.Reader
import CrossShade.Settings.Literal

/-!
# Numbers and ranges

Whole numbers in four bases, numbers with a point or an exponent, and ranges between two numbers.
Underscores may set digits apart, and the name of a type may follow.  Two points in a row belong to
no number, so that they can stand between the bounds of a range.
-/

namespace CrossShade.Settings.Reader

/-! ## Whole numbers -/

/-- The characters of a whole number in any base. -/
def continuesNumber (c : Char) : Bool :=
  (hexValue? c).isSome || c == '_'

/-- The value of digits in a base; underscores do not count. -/
def digitsValue? (base : Nat) (digits : List Char) : Option Nat :=
  (digits.filter (· ≠ '_')).foldlM (fun value c => do
    let digit ← hexValue? c
    if digit < base then some (base * value + digit) else none) 0

/-- Takes the mark of a base. -/
def base : Reader Nat := do
  if ← take ['0', 'b'] then return 2
  else if ← take ['0', 'o'] then return 8
  else if ← take ['0', 'x'] then return 16
  else return 10

/-- Takes a sign, and tells whether it was a minus. -/
def sign : Reader Bool := do
  if ← take ['+'] then return false else take ['-']

/-- Takes a whole number without a sign: the mark of a base and digits, the first of which is no
underscore. -/
def digits : Reader Nat := do
  let base ← base
  let digits ← takeWhile continuesNumber
  check (!digits.isEmpty && digits.head? != some '_')
  (digitsValue? base digits : Option Nat)

/-- Takes a whole number of thirty-two bits, which the name of its type may follow; zero may have a
minus sign. -/
def uint32 : Reader UInt32 := do
  let negative ← sign
  let value ← digits
  let _ ← word "u32"
  check (value < if negative then 1 else UInt32.size)
  return UInt32.ofNat value

/-- The types of whole numbers: the name, and the bounds of the value without its sign. -/
def integerTypes : List (String × Nat × Nat) :=
  [("i8", Int8.size / 2, Int8.size / 2 - 1), ("i16", Int16.size / 2, Int16.size / 2 - 1),
    ("i32", Int32.size / 2, Int32.size / 2 - 1), ("i64", Int64.size / 2, Int64.size / 2 - 1),
    ("u8", 0, UInt8.size - 1), ("u16", 0, UInt16.size - 1), ("u32", 0, UInt32.size - 1),
    ("u64", 0, UInt64.size - 1)]

/-- The bounds of a number whose type is not named: it is of one of the widest types. -/
def widest : Nat × Nat :=
  (Int64.size / 2, UInt64.size - 1)

/-- Takes the name of a type of whole numbers if one comes next, and gives the bounds. -/
def integerType : List (String × Nat × Nat) → Reader (Nat × Nat)
  | [] => return widest
  | (name, bounds) :: rest => do
    if ← word name then return bounds else integerType rest

/-- Takes a whole number that is within the bounds of its type. -/
def integer : Reader Unit := do
  let negative ← sign
  let value ← digits
  let bounds ← integerType integerTypes
  check (value ≤ if negative then bounds.1 else bounds.2)

/-! ## Numbers with a point or an exponent -/

/-- The words for what is no finite number. -/
def infiniteWords : List String :=
  ["", "+", "-"].flatMap fun sign =>
    ["inf", "NaN"].flatMap fun name => ["", "f32", "f64"].map fun type => sign ++ name ++ type

/-- The characters of a number with a point or an exponent. -/
def continuesFloat (c : Char) : Bool :=
  c.isDigit || ['e', 'E', '.', '+', '-', '_'].contains c

/-- The longest start of a text that such a number could be; two points in a row end it. -/
def floatStart : List Char → List Char
  | [] => []
  | '.' :: '.' :: _ => []
  | c :: rest => if continuesFloat c then c :: floatStart rest else []

/-- Whether underscores stand only after digits and exponent marks, or after one another there. -/
def underscoresFit : (allowed : Bool) → List Char → Bool
  | _, [] => true
  | allowed, c :: rest =>
    if c == '_' then allowed && underscoresFit allowed rest
    else if c == '.' then underscoresFit false rest
    else underscoresFit (allowed || c.isDigit || c == 'e' || c == 'E') rest

/-- Takes a number with a point or an exponent, and the name of its type. -/
def float : Reader Unit := do
  let present ← remaining
  let text := floatStart present
  goOn (present.drop text.length)
  check (underscoresFit false text && (Binary32.read? (text.filter (· ≠ '_'))).isSome)
  let _ ← anyWord ["f32", "f64"]

/-! ## Numbers of any kind -/

/-- Takes a number in digits.  One that reads as both kinds is whole if it can be. -/
def decimal : Reader Unit := do
  let text ← remaining
  let unsigned := match text with
    | '+' :: rest => rest
    | '-' :: rest => rest
    | _ => text
  if (unsigned.takeWhile continuesNumber).length < (floatStart unsigned).length then float
  else integer <|> float

/-- Takes a number: a word, a byte or digits. -/
def number : Reader Unit := do
  if ← anyWord infiniteWords then return ()
  if ['b', '\''].isPrefixOf (← remaining) then byteLiteral else decimal

/-! ## Ranges -/

/-- The mark between the bounds of a range. -/
def rangeMark : List Char :=
  ['.', '.']

/-- Takes the mark of a range and the upper bound, which may be missing unless an equals sign says
that it belongs to the range. -/
def upTo : Reader Unit := do
  if ← take rangeMark then
    if ← take ['='] then number else number <|> pure ()
  else failure

/-- Takes a number, or a range, in which nothing stands between the bounds and the mark. -/
def numberOrRange : Reader Unit := do
  if rangeMark.isPrefixOf (← remaining) then upTo
  else
    number
    upTo <|> pure ()

end CrossShade.Settings.Reader
