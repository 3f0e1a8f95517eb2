/-!
# UTF-8

Reading bytes as UTF-8, strictly or with a replacement character in the place of what is not UTF-8.

A broken sequence is replaced as a whole as far as it could still have become a character: one
replacement stands for the longest start of a well-formed sequence, or for a single byte that can
start none.
-/

namespace CrossShade.Text.Utf8

/-- What stands for bytes that are not UTF-8. -/
def replacement : Char :=
  '\uFFFD'

/-- Bytes that continue a sequence. -/
def isTail (b : UInt8) : Bool :=
  0x80 ≤ b && b ≤ 0xBF

/-- The bytes that may come second after a given first byte of a longer sequence. -/
def allowsSecond (first second : UInt8) : Bool :=
  if first == 0xE0 then 0xA0 ≤ second && second ≤ 0xBF
  else if first == 0xED then 0x80 ≤ second && second ≤ 0x9F
  else if first == 0xF0 then 0x90 ≤ second && second ≤ 0xBF
  else if first == 0xF4 then 0x80 ≤ second && second ≤ 0x8F
  else isTail second

/-- How many bytes follow a first byte; none for a byte that starts no sequence. -/
def tailCount? (first : UInt8) : Option Nat :=
  if first < 0x80 then some 0
  else if 0xC2 ≤ first && first ≤ 0xDF then some 1
  else if 0xE0 ≤ first && first ≤ 0xEF then some 2
  else if 0xF0 ≤ first && first ≤ 0xF4 then some 3
  else none

/-- How many of the bytes after a first byte belong to its sequence, at most `count`. -/
def tailLength (first : UInt8) (count : Nat) (rest : List UInt8) : Nat :=
  match count, rest with
  | 0, _ => 0
  | _, [] => 0
  | count + 1, second :: more =>
    if allowsSecond first second then 1 + ((more.take count).takeWhile isTail).length else 0

/-- The character of a complete sequence. -/
def assemble (first : UInt8) (tail : List UInt8) : Char :=
  let start := match tail.length with
    | 0 => first.toNat
    | 1 => first.toNat % 0x20
    | 2 => first.toNat % 0x10
    | _ => first.toNat % 0x08
  Char.ofNat (tail.foldl (fun code b => 64 * code + b.toNat % 64) start)

/-- The characters of a byte sequence, `none` in the place of each broken part. -/
def decodeParts : List UInt8 → List (Option Char)
  | [] => []
  | first :: rest =>
    match tailCount? first with
    | none => none :: decodeParts rest
    | some count =>
      let length := tailLength first count rest
      if length = count then
        some (assemble first (rest.take count)) :: decodeParts (rest.drop length)
      else
        none :: decodeParts (rest.drop length)
termination_by bytes => bytes.length
decreasing_by all_goals simp only [List.length_cons, List.length_drop]; omega

/-- The text of a byte sequence, if all of it is UTF-8. -/
def decode? (bytes : List UInt8) : Option (List Char) :=
  (decodeParts bytes).mapM id

/-- The text of a byte sequence with a replacement for each broken part. -/
def decodeLossy (bytes : List UInt8) : List Char :=
  (decodeParts bytes).map (·.getD replacement)

end CrossShade.Text.Utf8
