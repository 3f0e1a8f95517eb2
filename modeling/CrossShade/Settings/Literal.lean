import CrossShade.Settings.Token
import CrossShade.Text.Utf8

/-!
# Quoted texts, characters and bytes

What stands between quotation marks or apostrophes.  A backslash begins an escape, and the kinds of
literal differ in what two hexadecimal digits after an `x` stand for: in a text they begin the bytes
of a character, in a character literal they are a character of ASCII, and among bytes they are one.
-/

namespace CrossShade.Settings.Reader

/-! ## Escapes -/

/-- Takes the digits of a byte. -/
def byte : Reader UInt8 := do
  let high ← (hexValue? (← next) : Option Nat)
  let low ← (hexValue? (← next) : Option Nat)
  return UInt8.ofNat (16 * high + low)

/-- Takes the escapes of at most `count` more bytes, until all of them are a character in UTF-8. -/
def character : (count : Nat) → List UInt8 → Reader Char
  | count, bytes =>
    match Text.Utf8.decode? bytes, count with
    | some [c], _ => return c
    | _, 0 => failure
    | _, count + 1 => do
      expect "\\x"
      character count (bytes ++ [← byte])

/-- What the escape of a byte begins in one kind of literal. -/
abbrev ByteEscape := UInt8 → Reader Char

namespace ByteEscape

/-- In a text the escaped bytes of a character follow each other. -/
def inText : ByteEscape := fun byte =>
  character 3 [byte]

/-- A character literal has room for a single byte. -/
def inCharacter : ByteEscape := fun byte =>
  character 0 [byte]

/-- Among bytes every byte stands for itself. -/
def inBytes : ByteEscape := fun byte =>
  return Char.ofNat byte.toNat

end ByteEscape

/-- Takes at most `count` hexadecimal digits up to a closing brace. -/
def codePoint : (count value : Nat) → Reader Nat
  | 0, value => do
    expect "\x7d"
    return value
  | count + 1, value => do
    if ← take ['\x7d'] then return value
    let digit ← (hexValue? (← next) : Option Nat)
    codePoint count (16 * value + digit)

/-- Takes what follows the backslash of an escape. -/
def escape (ofByte : ByteEscape) : Reader Char := do
  match ← next with
  | '\'' => return '\''
  | '"' => return '"'
  | '\\' => return '\\'
  | 'n' => return '\n'
  | 'r' => return '\r'
  | 't' => return '\t'
  | '0' => return '\x00'
  | 'x' => ofByte (← byte)
  | 'u' => do
    expect "\x7b"
    check (!(← remaining).head?.any (· == '\x7d'))
    let code ← codePoint 6 0
    check (code.isValidChar)
    return Char.ofNat code
  | _ => failure

/-! ## Between quotation marks -/

/-- Takes a line break, and tells whether there was one. -/
def lineBreak : Reader Bool := do
  if ← take ['\n'] then return true else take ['\r', '\n']

/-- The blanks that an escaped line break leaves out together with itself. -/
def isIndentation (c : Char) : Bool :=
  [' ', '\t', '\n', '\r'].contains c

/-- Takes a text up to its closing quotation mark, in at most `count` characters and escapes.  A
line break after a backslash does not belong to the text, and neither do the blanks after it. -/
def quotedRest (ofByte : ByteEscape) : (count : Nat) → Reader (List Char)
  | 0 => failure
  | count + 1 => do
    match ← next with
    | '"' => return []
    | '\\' =>
      if ← lineBreak then
        let _ ← takeWhile isIndentation
        quotedRest ofByte count
      else return (← escape ofByte) :: (← quotedRest ofByte count)
    | c => return c :: (← quotedRest ofByte count)

/-- The text before a closing mark and the text after it. -/
def splitAtMark (mark : List Char) : List Char → Option (List Char × List Char)
  | [] => none
  | c :: rest =>
    if mark.isPrefixOf (c :: rest) then some ([], (c :: rest).drop mark.length)
    else (splitAtMark mark rest).map fun (before, after) => (c :: before, after)

/-- Takes what is quoted: with escapes between quotation marks, or without them after the letter
`r`, closed by as many number signs as open it. -/
def quotedWith (ofByte : ByteEscape) : Reader String := do
  if ← take ['"'] then
    return String.ofList (← quotedRest ofByte (← remaining).length)
  else
    expect "r"
    let signs ← takeWhile (· == '#')
    expect "\""
    String.ofList <$> splitAtMark ('"' :: signs)

/-- Takes a quoted text. -/
def quoted : Reader String :=
  quotedWith .inText

/-- Takes quoted bytes, which have a `b` before them. -/
def quotedBytes : Reader Unit := do
  expect "b"
  let _ ← quotedWith .inBytes

/-! ## Between apostrophes -/

/-- Takes a character between apostrophes. -/
def characterLiteral : Reader Unit := do
  expect "'"
  if (← next) == '\\' then
    let _ ← escape .inCharacter
  expect "'"

/-- Takes a byte between apostrophes with a `b` before them: a character of ASCII or an escape, but
not one by code point. -/
def byteLiteral : Reader Unit := do
  expect "b'"
  let c ← next
  if c == '\\' then
    check ((← remaining).head? != some 'u')
    let _ ← escape .inBytes
  else check (c.toNat < 0x80)
  expect "'"

end CrossShade.Settings.Reader
