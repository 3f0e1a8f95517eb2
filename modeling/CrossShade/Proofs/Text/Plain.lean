import CrossShade.Proofs.Text.Cutting
import CrossShade.Text.Ascii
import CrossShade.Text.Decimal

/-!
# Plain words

The words that descriptions are made of: identifiers, numbers and types.  None of them has a blank
or one of the marks that descriptions are cut at, so a plain word is found again wherever it was
put.

* `IsPlain` is what all of them have in common.
* `isPlain_of_isIdentifier` and `isPlain_toString` are the two sources of plain words, and
  `readUInt32?_toString` says that a number is read as it was written.
-/

namespace CrossShade.Text

variable {text other : List Char} {c : Char}

/-- The marks that descriptions are cut at. -/
def marks : List Char :=
  [':', '#', '<', '>', '%']

/-- A character that is neither a blank nor a mark. -/
def isPlain (c : Char) : Bool :=
  !isBlank c && !marks.contains c

/-- A text that is not empty and has neither blanks nor marks. -/
structure IsPlain (text : List Char) : Prop where
  ne_nil : text ≠ []
  plain : ∀ c ∈ text, isPlain c = true

namespace IsPlain

theorem not_isBlank (h : IsPlain text) (hc : c ∈ text) : isBlank c = false := by
  have hplain := h.plain c hc
  unfold isPlain at hplain
  simpa using (Bool.and_eq_true_iff.mp hplain).1

theorem not_mem (h : IsPlain text) (hc : c ∈ marks) : c ∉ text := by
  intro hmem
  have hplain := h.plain c hmem
  unfold isPlain at hplain
  simp [hc] at hplain

theorem hasNoEdge (h : IsPlain text) : HasNoEdge text :=
  hasNoEdge_of_forall fun _ hc => h.not_isBlank hc

theorem trim (h : IsPlain text) : Text.trim text = text :=
  h.hasNoEdge.trim

/-- Blanks around a plain word are found and cut off. -/
theorem trim_cons_blank (h : IsPlain text) : Text.trim (' ' :: text) = text := by
  rw [Text.trim_cons (by decide), h.trim]

theorem trim_append_blank (h : IsPlain text) : Text.trim (text ++ [' ']) = text := by
  rw [Text.trim_append (by decide), h.trim]

theorem append (h : IsPlain text) (hother : ∀ c ∈ other, isPlain c = true) :
    IsPlain (text ++ other) := by
  refine ⟨by simp [h.ne_nil], ?_⟩
  intro c hc
  rcases List.mem_append.mp hc with hc | hc
  · exact h.plain c hc
  · exact hother c hc

end IsPlain

/-! ## Identifiers -/

theorem range_of_isUpper (h : c.isUpper = true) : 65 ≤ c.toNat ∧ c.toNat ≤ 90 := by
  have hbounds : 'A'.val ≤ c.val ∧ c.val ≤ 'Z'.val := of_decide_eq_true h
  exact ⟨UInt32.le_iff_toNat_le.mp hbounds.1, UInt32.le_iff_toNat_le.mp hbounds.2⟩

theorem range_of_isLower (h : c.isLower = true) : 97 ≤ c.toNat ∧ c.toNat ≤ 122 := by
  obtain ⟨hleast, hgreatest⟩ := Bool.and_eq_true_iff.mp h
  exact ⟨UInt32.le_iff_toNat_le.mp (of_decide_eq_true hleast),
    UInt32.le_iff_toNat_le.mp (of_decide_eq_true hgreatest)⟩

theorem range_of_isDigit (h : c.isDigit = true) : 48 ≤ c.toNat ∧ c.toNat ≤ 57 :=
  Char.isDigit_iff_toNat.mp h

/-- Letters, digits and underscores are between the zero and the last letter. -/
theorem isPlain_of_continuesIdentifier (h : continuesIdentifier c = true) : isPlain c = true := by
  have hrange : (48 ≤ c.toNat ∧ c.toNat ≤ 57) ∨ (65 ≤ c.toNat ∧ c.toNat ≤ 122) := by
    rcases Bool.or_eq_true_iff.mp h with halphanum | hunderscore
    · rcases Bool.or_eq_true_iff.mp halphanum with halpha | hdigit
      · rcases Bool.or_eq_true_iff.mp halpha with hupper | hlower
        · have := range_of_isUpper hupper
          omega
        · have := range_of_isLower hlower
          omega
      · have := range_of_isDigit hdigit
        omega
    · rw [beq_iff_eq.mp hunderscore]
      decide
  have hblank : isBlank c = false := by
    simp only [isBlank, Bool.or_eq_false_iff, Bool.and_eq_false_iff, beq_eq_false_iff_ne,
      decide_eq_false_iff_not]
    omega
  have hmark : c ∉ marks := by
    intro hmem
    revert hrange
    simp only [marks, List.mem_cons, List.not_mem_nil, or_false] at hmem
    rcases hmem with rfl | rfl | rfl | rfl | rfl <;> decide
  simp [isPlain, hblank, hmark]

theorem isPlain_of_isIdentifier (h : isIdentifier text = true) : IsPlain text := by
  unfold isIdentifier at h
  obtain ⟨hhead, hall⟩ := Bool.and_eq_true_iff.mp h
  refine ⟨?_, ?_⟩
  · rintro rfl
    simp at hhead
  · intro c hc
    exact isPlain_of_continuesIdentifier (List.all_eq_true.mp hall c hc)

/-! ## Numbers -/

theorem isPlain_of_isDigit (h : c.isDigit = true) : isPlain c = true :=
  isPlain_of_continuesIdentifier (by simp [continuesIdentifier, Char.isAlphanum, h])

theorem isPlain_toDigits (n : Nat) : IsPlain (Nat.toDigits 10 n) := by
  refine ⟨Nat.toDigits_ne_nil, ?_⟩
  intro c hc
  exact isPlain_of_isDigit (Nat.isDigit_of_mem_toDigits (by decide) (by decide) hc)

theorem digitsValue_eq_ofDigitChars (digits : List Char) :
    digitsValue digits = Nat.ofDigitChars 10 digits 0 := rfl

/-- A row of digits is a number, if that fits. -/
theorem readBelow?_of_isDigit {bound : Nat} {digits : List Char} (hsome : digits ≠ [])
    (hdigits : ∀ c ∈ digits, c.isDigit = true) (h : digitsValue digits < bound) :
    readBelow? bound digits = some (digitsValue digits) := by
  have hplus : dropPlus digits = digits := by
    unfold dropPlus
    split
    · have hplus := hdigits '+' (by simp)
      simp at hplus
    · rfl
  have hall : digits.all Char.isDigit = true := List.all_eq_true.mpr hdigits
  simp [readBelow?, hplus, hall, hsome, h]

theorem readBelow?_toDigits {bound n : Nat} (h : n < bound) :
    readBelow? bound (Nat.toDigits 10 n) = some n := by
  have hvalue : digitsValue (Nat.toDigits 10 n) = n := by
    rw [digitsValue_eq_ofDigitChars, Nat.ofDigitChars_ten_toDigits]
  rw [readBelow?_of_isDigit Nat.toDigits_ne_nil
    (fun c hc => Nat.isDigit_of_mem_toDigits (by decide) (by decide) hc) (by rwa [hvalue]), hvalue]

theorem toList_toString_uint32 (n : UInt32) :
    (toString n).toList = Nat.toDigits 10 n.toNat := by
  exact Nat.toList_repr

theorem isPlain_toString (n : UInt32) : IsPlain (toString n).toList := by
  rw [toList_toString_uint32]
  exact isPlain_toDigits n.toNat

/-- A number is read as it was written. -/
theorem readUInt32?_toString (n : UInt32) : readUInt32? (toString n).toList = some n := by
  rw [toList_toString_uint32, readUInt32?, readBelow?_toDigits n.toNat_lt]
  simp

end CrossShade.Text
