import CrossShade.Text.Graphic

/-!
# Quoted texts

A text between quotation marks, in which a quotation mark, a backslash and whatever is not graphic
are written as escapes: two characters for the common controls, otherwise the code point in
hexadecimal between braces.
-/

namespace CrossShade.Text

/-- A digit of a hexadecimal number, in lower case. -/
def hexDigit (n : Nat) : Char :=
  if n < 10 then Char.ofNat (48 + n) else Char.ofNat (87 + n)

/-- A number in hexadecimal without leading zeros. -/
def hex (n : Nat) : List Char :=
  if n < 16 then [hexDigit n] else hex (n / 16) ++ [hexDigit (n % 16)]

/-- A character as it stands in a quoted text; `apostrophe` says whether an apostrophe is escaped.
-/
def escaped (apostrophe : Bool) (c : Char) : List Char :=
  match c with
  | '\x00' => ['\\', '0']
  | '\t' => ['\\', 't']
  | '\n' => ['\\', 'n']
  | '\r' => ['\\', 'r']
  | '\\' => ['\\', '\\']
  | '"' => ['\\', '"']
  | '\'' => if apostrophe then ['\\', '\''] else ['\'']
  | c => if isGraphic c then [c] else "\\u\x7b".toList ++ hex c.toNat ++ ['\x7d']

/-- A text between quotation marks; an apostrophe stays as it is. -/
def quoted (text : String) : String :=
  String.ofList ('"' :: text.toList.flatMap (escaped false) ++ ['"'])

/-- A text between quotation marks in which an apostrophe is escaped too. -/
def quotedStrictly (text : String) : String :=
  String.ofList ('"' :: text.toList.flatMap (escaped true) ++ ['"'])

end CrossShade.Text
