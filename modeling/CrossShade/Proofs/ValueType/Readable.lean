import Mathlib.Data.List.Induction
import CrossShade.Proofs.ValueType.Spelling

/-!
# Which types can be read

The types that some text spells, described without the reader.

* `IsDimension`, `Follows` and `SpellsNumeric` are the grammar of scalars, vectors and matrices;
  `readNumeric?_eq_some_iff` says that the reader follows it.
* `HasBareSpelling` and `HasSpelling` are the types that the grammar, structures and brackets give.
  An identifier is the name of a structure exactly when the grammar gives it no other meaning.
-/

namespace CrossShade.ValueType

open Text (isIdentifier digitValue digitsValue)

variable {type : ValueType} {base : ScalarType} {text rest : List Char} {n : UInt8} {c : Char}

/-- A number from one to four as it may be written: a plus sign or none, zeros and the digit. -/
def IsDimension (n : UInt8) (text : List Char) : Prop :=
  n ∈ [1, 2, 3, 4] ∧ ∃ zeros,
    Text.dropPlus text = List.replicate zeros '0' ++ [Nat.digitChar n.toNat]

/-- What may follow the word for a scalar, and the type that comes of it. -/
inductive Follows (base : ScalarType) : List Char → ValueType → Prop
  | nothing : Follows base [] (scalar base)
  | one {text : List Char} (hone : IsDimension 1 text) : Follows base text (scalar base)
  | width {text : List Char} {n : UInt8} (hwidth : IsDimension n text) (hne : n ≠ 1) :
      Follows base text (vector base n)
  | extents {rows columns : List Char} {m n : UInt8} (hrows : IsDimension m rows)
      (hcolumns : IsDimension n columns) :
      Follows base (rows ++ 'x' :: columns) (matrix base m n)

/-- The texts of scalars, vectors and matrices. -/
def SpellsNumeric (text : List Char) (type : ValueType) : Prop :=
  ∃ base rest, text = base.word.toList ++ rest ∧ Follows base rest type

/-- The types that are spelled without brackets. -/
def HasBareSpelling (type : ValueType) : Prop :=
  type.IsNumeric ∨
    ∃ name, type = struct name ∧ isIdentifier name.toList = true ∧
      ∀ other, ¬ SpellsNumeric name.toList other

/-- The types that are spelled at all. -/
def HasSpelling (type : ValueType) : Prop :=
  type.HasBareSpelling ∨
    ∃ element length, type = array element (.fixed length) ∧ length ≠ 0 ∧
      element.HasBareSpelling

/-! ## Dimensions -/

theorem digitChar_digitValue (h : c.isDigit = true) : Nat.digitChar (digitValue c) = c := by
  have hrange := Text.range_of_isDigit h
  have hten : digitValue c < 10 := by
    unfold digitValue
    omega
  apply Char.toNat_inj.mp
  rw [Nat.toNat_digitChar_of_lt_ten hten]
  unfold digitValue
  omega

/-- Digits that are worth nothing are zeros. -/
theorem eq_replicate_of_digitsValue {digits : List Char}
    (hdigits : ∀ c ∈ digits, c.isDigit = true) (h : digitsValue digits = 0) :
    digits = List.replicate digits.length '0' := by
  induction digits using List.reverseRecOn with
  | nil => rfl
  | append_singleton digits c ih =>
    rw [Text.digitsValue_append_single] at h
    have hbefore := ih (fun d hd => hdigits d (by simp [hd])) (by omega)
    have hvalue : digitValue c = 0 := by omega
    have hlast : '0' = c := by
      have hchar := digitChar_digitValue (hdigits c (by simp))
      rwa [hvalue] at hchar
    rw [List.length_append, List.length_singleton, List.replicate_succ', ← hbefore, hlast]

theorem digitsValue_replicate (zeros : Nat) (c : Char) :
    digitsValue (List.replicate zeros '0' ++ [c]) = digitValue c := by
  have hzeros : digitsValue (List.replicate zeros '0') = 0 := by
    induction zeros with
    | zero => rfl
    | succ zeros ih =>
      rw [List.replicate_succ', Text.digitsValue_append_single, ih]
      rfl
  rw [Text.digitsValue_append_single, hzeros]
  omega

/-- A row of digits that is worth less than ten is that digit after zeros. -/
theorem exists_replicate_of_digitsValue {digits : List Char} (hsome : digits ≠ [])
    (hdigits : ∀ c ∈ digits, c.isDigit = true) (h : digitsValue digits < 10) :
    ∃ zeros, digits = List.replicate zeros '0' ++ [Nat.digitChar (digitsValue digits)] := by
  obtain ⟨before, c, rfl⟩ := (List.eq_nil_or_concat' digits).resolve_left hsome
  rw [Text.digitsValue_append_single] at h ⊢
  have hbefore : digitsValue before = 0 := by omega
  refine ⟨before.length, ?_⟩
  rw [hbefore, Nat.mul_zero, Nat.zero_add, digitChar_digitValue (hdigits c (by simp)),
    ← eq_replicate_of_digitsValue (fun d hd => hdigits d (by simp [hd])) hbefore]

theorem readBelow?_eq_some_iff {bound value : Nat} :
    Text.readBelow? bound text = some value ↔
      Text.dropPlus text ≠ [] ∧ (∀ c ∈ Text.dropPlus text, c.isDigit = true) ∧
        digitsValue (Text.dropPlus text) = value ∧ value < bound := by
  simp only [Text.readBelow?]
  split
  · rename_i hbad
    simp only [Bool.or_eq_true, List.isEmpty_iff, Bool.not_eq_true', List.all_eq_false] at hbad
    grind
  · rename_i hgood
    simp only [Bool.or_eq_true, List.isEmpty_iff, Bool.not_eq_true', not_or, Bool.not_eq_false,
      List.all_eq_true] at hgood
    grind

/-- A dimension is one digit, and in range. -/
theorem dimension_digit : ∀ n ∈ ([1, 2, 3, 4] : List UInt8),
    n.toNat < 10 ∧ (1 ≤ n && n ≤ 4) = true ∧ (Nat.digitChar n.toNat).isDigit = true ∧
      digitValue (Nat.digitChar n.toNat) = n.toNat := by
  decide +kernel

/-- The digits of a dimension are worth it. -/
theorem IsDimension.digits (h : IsDimension n text) :
    (∀ c ∈ Text.dropPlus text, c.isDigit = true) ∧
      digitsValue (Text.dropPlus text) = n.toNat := by
  obtain ⟨hmem, zeros, htext⟩ := h
  obtain ⟨-, -, hdigit, hvalue⟩ := dimension_digit n hmem
  rw [htext]
  constructor
  · intro c hc
    rcases List.mem_append.mp hc with hzero | hlast
    · rw [List.eq_of_mem_replicate hzero]
      decide
    · rw [List.mem_singleton.mp hlast]
      exact hdigit
  · rw [digitsValue_replicate, hvalue]

theorem readDimension?_eq_some_iff : readDimension? text = some n ↔ IsDimension n text := by
  constructor
  · intro h
    have hmem := mem_of_readDimension? h
    unfold readDimension? at h
    obtain ⟨hread, -⟩ := Option.filter_eq_some_iff.mp h
    obtain ⟨value, hvalue, hn⟩ := Option.map_eq_some_iff.mp hread
    obtain ⟨hsome, hdigits, hworth, hbound⟩ := readBelow?_eq_some_iff.mp hvalue
    have hsame : digitsValue (Text.dropPlus text) = n.toNat := by
      rw [← hn, UInt8.toNat_ofNat_of_lt' hbound, hworth]
    have hten : digitsValue (Text.dropPlus text) < 10 := by
      rw [hsame]
      exact (dimension_digit n hmem).1
    have hform := exists_replicate_of_digitsValue hsome hdigits hten
    rw [hsame] at hform
    exact ⟨hmem, hform⟩
  · intro h
    obtain ⟨hdigits, hvalue⟩ := h.digits
    obtain ⟨hmem, zeros, htext⟩ := h
    have hread : Text.readBelow? UInt8.size text = some n.toNat := by
      refine readBelow?_eq_some_iff.mpr ⟨?_, hdigits, hvalue, n.toNat_lt⟩
      simp [htext]
    simp only [readDimension?, Text.readUInt8?, hread, Option.map_some, UInt8.ofNat_toNat]
    exact Option.filter_eq_some_iff.mpr ⟨rfl, (dimension_digit n hmem).2.1⟩

/-! ## Scalars, vectors and matrices -/

theorem IsDimension.ne_nil (h : IsDimension n text) : text ≠ [] := by
  obtain ⟨-, zeros, htext⟩ := h
  intro hnil
  rw [hnil] at htext
  simp [Text.dropPlus] at htext

/-- A dimension is written with digits and a plus sign. -/
theorem IsDimension.isDigit_or_eq_plus (h : IsDimension n text) (hc : c ∈ text) :
    c.isDigit = true ∨ c = '+' := by
  have hdigits := h.digits.1
  unfold Text.dropPlus at hdigits
  split at hdigits
  · rcases List.mem_cons.mp hc with hplus | hrest
    · exact .inr hplus
    · exact .inl (hdigits c hrest)
  · exact .inl (hdigits c hc)

theorem IsDimension.not_mem_x (h : IsDimension n text) : 'x' ∉ text := by
  intro hmem
  have hx := h.isDigit_or_eq_plus hmem
  revert hx
  decide

/-- The reader of what follows a word accepts what may follow it. -/
theorem readDimensions?_eq_some_iff :
    readDimensions? base text = some type ↔ Follows base text type := by
  constructor
  · intro h
    unfold readDimensions? at h
    split at h
    · rename_i hempty
      obtain rfl : scalar base = type := by simpa using h
      rw [List.isEmpty_iff.mp hempty]
      exact .nothing
    · split at h
      · rename_i rows columns hcut
        simp only [Option.bind_eq_bind, Option.bind_eq_some_iff, Option.pure_def,
          Option.some.injEq] at h
        obtain ⟨m, hrows, n, hcolumns, rfl⟩ := h
        rw [Text.cutAt?_eq_some hcut]
        exact .extents (readDimension?_eq_some_iff.mp hrows)
          (readDimension?_eq_some_iff.mp hcolumns)
      · simp only [Option.bind_eq_bind, Option.bind_eq_some_iff, Option.pure_def,
          Option.some.injEq] at h
        obtain ⟨n, hwidth, rfl⟩ := h
        have hdimension := readDimension?_eq_some_iff.mp hwidth
        split
        · rename_i hone
          rw [hone] at hdimension
          exact .one hdimension
        · rename_i hne
          exact .width hdimension hne
  · intro h
    cases h with
    | nothing => rfl
    | one hone =>
      have hread := readDimension?_eq_some_iff.mpr hone
      simp [readDimensions?, hone.ne_nil, Text.cutAt?_eq_none hone.not_mem_x, hread]
    | width hwidth hne =>
      have hread := readDimension?_eq_some_iff.mpr hwidth
      simp [readDimensions?, hwidth.ne_nil, Text.cutAt?_eq_none hwidth.not_mem_x, hread, hne]
    | extents hrows hcolumns =>
      have hread := readDimension?_eq_some_iff.mpr hrows
      have hother := readDimension?_eq_some_iff.mpr hcolumns
      simp [readDimensions?, Text.cutAt?_append hrows.not_mem_x, hread, hother]

theorem readDimensions?_eq_none_iff :
    readDimensions? base text = none ↔ ∀ type, ¬ Follows base text type := by
  rw [Option.eq_none_iff_forall_ne_some]
  exact forall_congr' fun type => not_congr readDimensions?_eq_some_iff

/-- No word for a scalar begins with another, so the order in which they are tried is no matter. -/
theorem readNumeric?_append (base : ScalarType) (rest : List Char) :
    readNumeric? (base.word.toList ++ rest) = readDimensions? base rest := by
  cases hread : readDimensions? base rest <;> cases base <;>
    simp [readNumeric?, scalarOrder, ScalarType.word, Text.afterStart?, List.findSome?, hread]

theorem readNumeric?_eq_some_iff : readNumeric? text = some type ↔ SpellsNumeric text type := by
  constructor
  · intro h
    unfold readNumeric? at h
    obtain ⟨base, -, hbase⟩ := List.exists_of_findSome?_eq_some h
    simp only [Option.bind_eq_bind, Option.bind_eq_some_iff] at hbase
    obtain ⟨rest, hrest, hread⟩ := hbase
    exact ⟨base, rest, Text.eq_append_of_afterStart? hrest, readDimensions?_eq_some_iff.mp hread⟩
  · intro h
    obtain ⟨base, rest, rfl, hfollows⟩ := h
    rw [readNumeric?_append]
    exact readDimensions?_eq_some_iff.mpr hfollows

theorem readNumeric?_eq_none_iff :
    readNumeric? text = none ↔ ∀ type, ¬ SpellsNumeric text type := by
  rw [Option.eq_none_iff_forall_ne_some]
  exact forall_congr' fun type => not_congr readNumeric?_eq_some_iff

theorem isElement_iff_hasBareSpelling : type.IsElement ↔ type.HasBareSpelling := by
  simp only [IsElement, HasBareSpelling, readNumeric?_eq_none_iff]

/-- Nothing that the grammar gives is cut or trimmed. -/
theorem SpellsNumeric.continues_or_eq_plus (h : SpellsNumeric text type) (hc : c ∈ text) :
    Text.continuesIdentifier c = true ∨ c = '+' := by
  have hdimension : ∀ {n text}, IsDimension n text → c ∈ text →
      Text.continuesIdentifier c = true ∨ c = '+' := by
    intro n text hdimension hc
    rcases hdimension.isDigit_or_eq_plus hc with hdigit | hplus
    · exact .inl (by simp [Text.continuesIdentifier, Char.isAlphanum, hdigit])
    · exact .inr hplus
  obtain ⟨base, rest, rfl, hfollows⟩ := h
  rcases List.mem_append.mp hc with hword | hrest
  · have hall : base.word.toList.all Text.continuesIdentifier = true := by
      cases base <;> decide
    exact .inl (List.all_eq_true.mp hall c hword)
  · cases hfollows with
    | nothing => simp at hrest
    | one hone => exact hdimension hone hrest
    | width hwidth _ => exact hdimension hwidth hrest
    | extents hrows hcolumns =>
      rcases List.mem_append.mp hrest with hbefore | hafter
      · exact hdimension hrows hbefore
      · rcases List.mem_cons.mp hafter with rfl | hafter
        · exact .inl (by decide)
        · exact hdimension hcolumns hafter

theorem SpellsNumeric.read_eq (h : SpellsNumeric text type) : read text = .ok type := by
  have hplain : Text.IsPlain text := by
    refine ⟨?_, ?_⟩
    · obtain ⟨base, rest, rfl, -⟩ := h
      cases base <;> simp [ScalarType.word]
    · intro c hc
      rcases h.continues_or_eq_plus hc with hcontinues | rfl
      · exact Text.isPlain_of_continuesIdentifier hcontinues
      · decide
  have hbracket : '[' ∉ text := by
    intro hmem
    have hopen := h.continues_or_eq_plus hmem
    revert hopen
    decide
  rw [read_of_not_mem hplain hbracket, readElement, hplain.trim, readNumeric?_eq_some_iff.mpr h]

/-! ## All types -/

/-- There are no arrays of arrays. -/
theorem not_hasBareSpelling_array {element : ValueType} {size : ArraySize} :
    ¬ HasBareSpelling (array element size) := by
  intro h
  rcases h with hnumeric | ⟨name, hname, -⟩
  · exact hnumeric
  · cases hname

theorem isReadable_iff_hasSpelling : type.IsReadable ↔ type.HasSpelling := by
  simp only [HasSpelling, ← isElement_iff_hasBareSpelling]
  constructor
  · exact read_cases
  · intro h
    rcases h with helement | ⟨element, length, rfl, hne, helement⟩
    · exact ⟨_, helement.read_spelling⟩
    · exact ⟨_, helement.read_spelling_array hne⟩

/-- The types that can be read are the scalars, vectors, matrices and structures and the arrays of
these, and each is read from its own spelling.  An identifier that begins with the word for a scalar
is the name of a structure unless what follows are dimensions. -/
theorem read_iff_hasSpelling :
    (∀ type : ValueType, (∃ text, read text = .ok type) ↔ type.HasSpelling) ∧
      (∀ type : ValueType, type.HasSpelling → read type.spelling.toList = .ok type) ∧
      (∀ text type, read text = .ok type → read type.spelling.toList = .ok type) ∧
      (∀ text type, SpellsNumeric text type → read text = .ok type) ∧
      ∀ (base : ScalarType) (rest : List Char),
        isIdentifier (base.word.toList ++ rest) = true → (∀ type, ¬ Follows base rest type) →
          read (base.word.toList ++ rest) =
            .ok (struct (String.ofList (base.word.toList ++ rest))) := by
  refine ⟨fun type => isReadable_iff_hasSpelling, ?_, ?_, ?_, ?_⟩
  · intro type h
    exact read_spelling (isReadable_iff_hasSpelling.mpr h)
  · intro text type h
    exact read_spelling ⟨text, h⟩
  · intro text type h
    exact h.read_eq
  · intro base rest hidentifier hnone
    have hstruct : (struct (String.ofList (base.word.toList ++ rest))).IsElement := by
      refine .inr ⟨_, rfl, by simpa using hidentifier, ?_⟩
      rw [String.toList_ofList, readNumeric?_append]
      exact readDimensions?_eq_none_iff.mpr hnone
    have hspelling : (struct (String.ofList (base.word.toList ++ rest))).spelling.toList =
        base.word.toList ++ rest := String.toList_ofList
    have hread := hstruct.read_spelling
    rwa [hspelling] at hread

/-- Spellings that look alike: a width after a zero, a width that is none, rows without columns, and
the greatest length. -/
theorem read_iff_hasSpelling_lookalikes :
    read "float04".toList = .ok (vector .float 4) ∧
      read "float5".toList = .ok (struct "float5") ∧
      read "uint2x".toList = .ok (struct "uint2x") ∧
      read "float5[4294967295]".toList = .ok (array (struct "float5") (.fixed 4294967295)) ∧
      ¬ ∃ text, read text = .ok (array (array float4 (.fixed 2)) (.fixed 2)) := by
  obtain ⟨hset, hspelling, -, hnumeric, hstruct⟩ := read_iff_hasSpelling
  refine ⟨?_, ?_, ?_, ?_, ?_⟩
  · have hfour : IsDimension 4 "04".toList := ⟨by decide, 1, by decide⟩
    exact hnumeric _ _ ⟨.float, "04".toList, by decide, .width hfour (by decide)⟩
  · exact hstruct .float "5".toList (by decide) (readDimensions?_eq_none_iff.mp (by decide))
  · exact hstruct .uint "2x".toList (by decide) (readDimensions?_eq_none_iff.mp (by decide))
  · have hname : HasBareSpelling (struct "float5") :=
      .inr ⟨"float5", rfl, by decide, readNumeric?_eq_none_iff.mp (by decide)⟩
    have htext : (array (struct "float5") (.fixed 4294967295)).spelling = "float5[4294967295]" := by
      decide +kernel
    have hread := hspelling _ (.inr ⟨struct "float5", 4294967295, rfl, by decide, hname⟩)
    rwa [htext] at hread
  · intro h
    rcases (hset _).mp h with hbare | ⟨element, length, hsame, -, hbare⟩
    · exact not_hasBareSpelling_array hbare
    · cases hsame
      exact not_hasBareSpelling_array hbare

end CrossShade.ValueType
