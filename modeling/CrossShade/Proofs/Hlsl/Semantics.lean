import CrossShade.Direct3D11.Semantic
import CrossShade.Proofs.Text.Plain
import CrossShade.Variable
import Mathlib

/-!
# Semantics as HLSL reads them

HLSL takes a semantic for a name with a number: letter case does not matter, the digits at the end
are the number, and without digits the number is zero.

* `Semantic.read` is that reading.  The number has no bound here.
* `read_numbered` reads a semantic that was put together from a name and a number.
* `semanticBase?_eq_read` and `toNat_semanticIndex` say that a variable takes its semantic apart in
  the same way, as long as the number fits.
* `read_ownSemantic` says that a semantic made of a name is read without a number.
-/

namespace CrossShade

/-! ## Letters and digits at the end -/

namespace Text

variable {c : Char} {text digits : List Char}

theorem toUpper_of_isDigit (h : c.isDigit = true) : c.toUpper = c := by
  refine Char.toUpper_eq_of_not_isLower fun hlower => ?_
  have hdigit := range_of_isDigit h
  have hletter := range_of_isLower hlower
  omega

/-- Upper case makes no digit of a letter. -/
theorem isDigit_toUpper (c : Char) : c.toUpper.isDigit = c.isDigit := by
  by_cases hlower : c.isLower = true
  · have hletter := range_of_isLower hlower
    have hupper : c.toUpper.isUpper = true := by
      rw [Char.isUpper_toUpper_eq_isAlpha]
      simp [Char.isAlpha, hlower]
    have hbeyond : ∀ d : Char, 65 ≤ d.toNat → d.isDigit = false := by
      intro d hd
      by_contra hdigit
      have hrange := range_of_isDigit (by simpa using hdigit)
      omega
    rw [hbeyond _ (range_of_isUpper hupper).1, hbeyond c (by omega)]
  · rw [Char.toUpper_eq_of_not_isLower hlower]

theorem toList_upper (text : String) : (upper text).toList = text.toList.map Char.toUpper :=
  String.toList_ofList

theorem upper_upper (text : String) : upper (upper text) = upper text := by
  rw [upper, toList_upper, List.map_map, upper]
  congr 2
  funext c
  exact Char.toUpper_toUpper_eq_toUpper c

theorem trailingDigits_map_toUpper (text : List Char) :
    trailingDigits (text.map Char.toUpper) = trailingDigits text := by
  have hsame : Char.isDigit ∘ Char.toUpper = Char.isDigit := funext isDigit_toUpper
  rw [trailingDigits, ← List.map_reverse, List.takeWhile_map, hsame, ← List.map_reverse]
  refine (List.map_congr_left fun c hc => ?_).trans (List.map_id _)
  exact toUpper_of_isDigit (isDigit_of_mem_trailingDigits hc)

theorem withoutTrailingDigits_map_toUpper (text : List Char) :
    withoutTrailingDigits (text.map Char.toUpper) =
      (withoutTrailingDigits text).map Char.toUpper := by
  have hsame : Char.isDigit ∘ Char.toUpper = Char.isDigit := funext isDigit_toUpper
  rw [withoutTrailingDigits, ← List.map_reverse, List.dropWhile_map, hsame, ← List.map_reverse]
  rfl

/-- Digits after a text that does not end in one are all the digits at its end. -/
theorem trailingDigits_append (htext : text.getLast?.any Char.isDigit = false)
    (hdigits : ∀ c ∈ digits, c.isDigit = true) :
    trailingDigits (text ++ digits) = digits ∧ withoutTrailingDigits (text ++ digits) = text := by
  have hall : ∀ c ∈ digits.reverse, c.isDigit = true := fun c hc =>
    hdigits c (List.mem_reverse.mp hc)
  have hend : text.reverse.takeWhile Char.isDigit = [] ∧
      text.reverse.dropWhile Char.isDigit = text.reverse := by
    rw [List.getLast?_eq_head?_reverse] at htext
    cases hlist : text.reverse with
    | nil => exact ⟨rfl, rfl⟩
    | cons c rest =>
      rw [hlist] at htext
      have hc : ¬c.isDigit = true := by simpa using htext
      exact ⟨List.takeWhile_cons_of_neg hc, List.dropWhile_cons_of_neg hc⟩
  constructor
  · rw [trailingDigits, List.reverse_append, List.takeWhile_append_of_pos hall, hend.1,
      List.append_nil, List.reverse_reverse]
  · rw [withoutTrailingDigits, List.reverse_append, List.dropWhile_append_of_pos hall, hend.2,
      List.reverse_reverse]

end Text

/-! ## Reading -/

namespace Hlsl

/-- A semantic as HLSL takes it. -/
structure Semantic where
  name : String
  number : Nat
  deriving Repr, DecidableEq

namespace Semantic

/-- Reads a semantic: the name in upper case, without the digits at its end, and their value. -/
def read (text : String) : Semantic :=
  let letters := (Text.upper text).toList
  ⟨String.ofList (Text.withoutTrailingDigits letters),
    Text.digitsValue (Text.trailingDigits letters)⟩

theorem read_eq (text : String) : read text =
    ⟨Text.upper (String.ofList (Text.withoutTrailingDigits text.toList)),
      Text.digitsValue (Text.trailingDigits text.toList)⟩ := by
  rw [read, Text.toList_upper, Text.withoutTrailingDigits_map_toUpper,
    Text.trailingDigits_map_toUpper, Text.upper, String.toList_ofList]

/-- A name and a number are read as they were put together. -/
theorem read_numbered (name : String) (hname : name.toList.getLast?.any Char.isDigit = false)
    (n : UInt32) : read (name ++ toString n) = ⟨Text.upper name, n.toNat⟩ := by
  have hdigits : ∀ c ∈ (toString n).toList, c.isDigit = true := by
    rw [Text.toList_toString_uint32]
    exact fun c hc => Nat.isDigit_of_mem_toDigits (by decide) (by decide) hc
  obtain ⟨hnumber, hrest⟩ := Text.trailingDigits_append hname hdigits
  rw [read_eq, String.toList_append, hnumber, hrest, String.ofList_toList,
    Text.toList_toString_uint32, Text.digitsValue_eq_ofDigitChars, Nat.ofDigitChars_ten_toDigits]

/-- What does not end in a digit is all name. -/
theorem read_name {name : String} (hname : name.toList.getLast?.any Char.isDigit = false) :
    read name = ⟨Text.upper name, 0⟩ := by
  have hdigits : ∀ c ∈ ([] : List Char), c.isDigit = true := nofun
  obtain ⟨hnumber, hrest⟩ := Text.trailingDigits_append hname hdigits
  rw [List.append_nil] at hnumber hrest
  rw [read_eq, hnumber, hrest, String.ofList_toList]
  rfl

end Semantic

end Hlsl

/-! ## Semantics of variables -/

namespace Variable

open Hlsl

variable {v : Variable} {semantic : String}

theorem semanticBase?_eq_read (h : v.semantic = some semantic) :
    v.semanticBase? = some (Semantic.read semantic).name := by
  rw [semanticBase?, h, Option.map_some, Semantic.read_eq]

theorem toNat_semanticIndex (h : v.semantic = some semantic)
    (hfits : (Semantic.read semantic).number < UInt32.size) :
    v.semanticIndex.toNat = (Semantic.read semantic).number := by
  rw [Semantic.read_eq] at hfits ⊢
  rw [semanticIndex, h]
  dsimp only at hfits ⊢
  by_cases hnone : Text.trailingDigits semantic.toList = []
  · rw [hnone]
    rfl
  · rw [Text.readUInt32?, Text.readBelow?_of_isDigit hnone
      (fun c hc => Text.isDigit_of_mem_trailingDigits hc) hfits, Option.map_some, Option.getD_some,
      UInt32.toNat_ofNat_of_lt' hfits]

end Variable

namespace Direct3D11

open Hlsl

/-- A semantic made of a name never ends in a digit. -/
theorem getLast?_ownSemantic (name : String) :
    (ownSemantic name).toList.getLast?.any Char.isDigit = false := by
  unfold ownSemantic
  dsimp only
  split
  · rw [String.toList_append, List.getLast?_append]
    rfl
  · rename_i hend
    simpa using hend

theorem upper_ownSemantic (name : String) : Text.upper (ownSemantic name) = ownSemantic name := by
  unfold ownSemantic
  dsimp only
  split
  · rw [Text.upper, String.toList_append, List.map_append, String.ofList_append, ← Text.upper,
      Text.upper_upper]
    rfl
  · exact Text.upper_upper name

theorem read_ownSemantic (name : String) :
    Semantic.read (ownSemantic name) = ⟨ownSemantic name, 0⟩ := by
  rw [Semantic.read_name (getLast?_ownSemantic name), upper_ownSemantic]

end Direct3D11

end CrossShade
