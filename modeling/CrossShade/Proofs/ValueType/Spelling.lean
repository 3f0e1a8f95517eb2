import CrossShade.Proofs.Outcome
import CrossShade.Proofs.Text.Plain
import CrossShade.Shader.Printer

/-!
# Reading types as they are spelled

A type that can be read at all is read from its own spelling.

* `IsNumeric` and `IsElement` describe the types that are read without brackets, and `read_cases`
  all that are read.
* `read_spelling` is the round trip, and `isPlain_spelling` says that a spelling is one plain word.
-/

namespace CrossShade.ValueType

open Text (isIdentifier IsPlain)

variable {type element : ValueType} {text : List Char}

/-- A type that some text spells. -/
def IsReadable (type : ValueType) : Prop :=
  ∃ text, read text = .ok type

/-- The scalars, vectors and matrices that can be read. -/
def IsNumeric : ValueType → Prop
  | scalar _ => True
  | vector _ width => width ∈ [2, 3, 4]
  | matrix _ rows columns => rows ∈ [1, 2, 3, 4] ∧ columns ∈ [1, 2, 3, 4]
  | array _ _ | struct _ => False

/-- The types that can be read without brackets. -/
def IsElement (type : ValueType) : Prop :=
  type.IsNumeric ∨
    ∃ name, type = struct name ∧ isIdentifier name.toList = true ∧
      readNumeric? name.toList = none

/-! ## Elements -/

theorem mem_of_readDimension? {n : UInt8} (h : readDimension? text = some n) :
    n ∈ [1, 2, 3, 4] := by
  unfold readDimension? at h
  obtain ⟨-, hrange⟩ := Option.filter_eq_some_iff.mp h
  simp only [Bool.and_eq_true, decide_eq_true_eq, UInt8.le_iff_toNat_le] at hrange
  simp only [List.mem_cons, List.not_mem_nil, or_false, ← UInt8.toNat_inj]
  have hone : (1 : UInt8).toNat = 1 := rfl
  have htwo : (2 : UInt8).toNat = 2 := rfl
  have hthree : (3 : UInt8).toNat = 3 := rfl
  have hfour : (4 : UInt8).toNat = 4 := rfl
  omega

theorem isNumeric_of_readDimensions? {base : ScalarType}
    (h : readDimensions? base text = some type) : type.IsNumeric := by
  unfold readDimensions? at h
  split at h
  · obtain rfl : scalar base = type := by simpa using h
    trivial
  · split at h
    · simp only [Option.bind_eq_bind, Option.bind_eq_some_iff, Option.pure_def,
        Option.some.injEq] at h
      obtain ⟨rows, hrows, columns, hcolumns, rfl⟩ := h
      exact ⟨mem_of_readDimension? hrows, mem_of_readDimension? hcolumns⟩
    · simp only [Option.bind_eq_bind, Option.bind_eq_some_iff, Option.pure_def,
        Option.some.injEq] at h
      obtain ⟨width, hwidth, rfl⟩ := h
      have hmem := mem_of_readDimension? hwidth
      split
      · trivial
      · rename_i hone
        simpa [IsNumeric, hone] using hmem

theorem isNumeric_of_readNumeric? (h : readNumeric? text = some type) : type.IsNumeric := by
  unfold readNumeric? at h
  obtain ⟨base, -, hbase⟩ := List.exists_of_findSome?_eq_some h
  simp only [Option.bind_eq_bind, Option.bind_eq_some_iff] at hbase
  obtain ⟨rest, -, hrest⟩ := hbase
  exact isNumeric_of_readDimensions? hrest

theorem isElement_of_readElement (h : readElement text = .ok type) : type.IsElement := by
  simp only [readElement] at h
  split at h
  · rename_i found hfound
    obtain rfl : found = type := by simpa using h
    exact .inl (isNumeric_of_readNumeric? hfound)
  · rename_i hnone
    split at h
    · rename_i hidentifier
      obtain rfl : struct (String.ofList (Text.trim text)) = type := by simpa using h
      exact .inr ⟨_, rfl, by simpa using hidentifier, by simpa using hnone⟩
    · simp at h

/-- Numeric types are few enough to look at each of them. -/
theorem readNumeric?_spelling (h : type.IsNumeric) :
    isIdentifier type.spelling.toList = true ∧
      readNumeric? type.spelling.toList = some type := by
  have hscalar : ∀ base ∈ ScalarType.all, isIdentifier (scalar base).spelling.toList = true ∧
      readNumeric? (scalar base).spelling.toList = some (scalar base) := by decide +kernel
  have hvector : ∀ base ∈ ScalarType.all, ∀ width ∈ [2, 3, 4],
      isIdentifier (vector base width).spelling.toList = true ∧
        readNumeric? (vector base width).spelling.toList = some (vector base width) := by
    decide +kernel
  have hmatrix : ∀ base ∈ ScalarType.all, ∀ rows ∈ [1, 2, 3, 4], ∀ columns ∈ [1, 2, 3, 4],
      isIdentifier (matrix base rows columns).spelling.toList = true ∧
        readNumeric? (matrix base rows columns).spelling.toList =
          some (matrix base rows columns) := by
    decide +kernel
  have hall : ∀ base : ScalarType, base ∈ ScalarType.all := by
    intro base
    cases base <;> decide
  cases type with
  | scalar base => exact hscalar base (hall base)
  | vector base width => exact hvector base (hall base) width h
  | matrix base rows columns => exact hmatrix base (hall base) rows h.1 columns h.2
  | array inner size => exact h.elim
  | struct name => exact h.elim

theorem IsElement.isIdentifier_spelling (h : type.IsElement) :
    isIdentifier type.spelling.toList = true := by
  rcases h with hnumeric | ⟨name, rfl, hidentifier, -⟩
  · exact (readNumeric?_spelling hnumeric).1
  · exact hidentifier

theorem IsElement.readElement_spelling (h : type.IsElement) :
    readElement type.spelling.toList = .ok type := by
  have htrim := (Text.isPlain_of_isIdentifier h.isIdentifier_spelling).trim
  simp only [readElement, htrim]
  rcases h with hnumeric | ⟨name, rfl, hidentifier, hname⟩
  · rw [(readNumeric?_spelling hnumeric).2]
  · have hspelling : (struct name).spelling = name := rfl
    simp [hspelling, hname, hidentifier]

/-! ## Types with brackets -/

/-- What can be read is an element, or an array of elements with a length. -/
theorem read_cases (h : type.IsReadable) :
    type.IsElement ∨
      ∃ element length, type = array element (.fixed length) ∧ length ≠ 0 ∧
        element.IsElement := by
  obtain ⟨text, htext⟩ := h
  simp only [read] at htext
  split at htext
  · exact .inl (isElement_of_readElement htext)
  · split at htext
    · simp at htext
    · simp only [bind_eq_ok] at htext
      obtain ⟨element, helement, hlength⟩ := htext
      split at hlength
      · simp at hlength
      · rename_i length hread
        split at hlength
        · simp at hlength
        · rename_i hne
          obtain rfl : array element (.fixed length) = type := by simpa using hlength
          exact .inr ⟨element, length, rfl, hne, isElement_of_readElement helement⟩

theorem toList_spelling_array (element : ValueType) (length : UInt32) :
    (array element (.fixed length)).spelling.toList =
      element.spelling.toList ++ '[' :: ((toString length).toList ++ [']']) := by
  have hshape : (array element (.fixed length)).spelling =
      element.spelling ++ "[" ++ toString length ++ "]" := rfl
  rw [hshape]
  simp

theorem IsElement.isPlain_spelling_array (h : element.IsElement) (length : UInt32) :
    IsPlain (array element (.fixed length)).spelling.toList := by
  rw [toList_spelling_array]
  refine (Text.isPlain_of_isIdentifier h.isIdentifier_spelling).append ?_
  intro c hc
  simp only [List.mem_cons, List.mem_append, List.not_mem_nil, or_false] at hc
  rcases hc with rfl | hc | rfl
  · decide
  · exact (Text.isPlain_toString length).plain c hc
  · decide

theorem isPlain_spelling (h : type.IsReadable) : IsPlain type.spelling.toList := by
  rcases read_cases h with helement | ⟨element, length, rfl, -, helement⟩
  · exact Text.isPlain_of_isIdentifier helement.isIdentifier_spelling
  · exact helement.isPlain_spelling_array length

/-- Without brackets there is only an element to read. -/
theorem read_of_not_mem (hplain : IsPlain text) (h : '[' ∉ text) :
    read text = readElement text := by
  simp only [read, hplain.trim, Text.cutAt?_eq_none h]

theorem IsElement.not_mem_bracket (h : type.IsElement) : '[' ∉ type.spelling.toList := by
  intro hmem
  have hidentifier := h.isIdentifier_spelling
  unfold isIdentifier at hidentifier
  have hall := List.all_eq_true.mp (Bool.and_eq_true_iff.mp hidentifier).2 '[' hmem
  revert hall
  decide

theorem IsElement.read_spelling (h : type.IsElement) : read type.spelling.toList = .ok type := by
  rw [read_of_not_mem (Text.isPlain_of_isIdentifier h.isIdentifier_spelling) h.not_mem_bracket]
  exact h.readElement_spelling

theorem IsElement.read_spelling_array {length : UInt32} (h : element.IsElement)
    (hne : length ≠ 0) :
    read (array element (.fixed length)).spelling.toList =
      .ok (array element (.fixed length)) := by
  have htrim := (h.isPlain_spelling_array length).trim
  simp only [read, htrim]
  rw [toList_spelling_array, Text.cutAt?_append h.not_mem_bracket]
  simp [h.readElement_spelling, (Text.isPlain_toString length).trim, Text.readUInt32?_toString,
    hne]

/-- A type that can be read at all is read from its spelling. -/
theorem read_spelling (h : type.IsReadable) : read type.spelling.toList = .ok type := by
  rcases read_cases h with helement | ⟨element, length, rfl, hne, helement⟩
  · exact helement.read_spelling
  · exact helement.read_spelling_array hne

instance (type : ValueType) : Decidable type.IsReadable :=
  decidable_of_iff (read type.spelling.toList = .ok type) ⟨fun h => ⟨_, h⟩, read_spelling⟩

end CrossShade.ValueType
