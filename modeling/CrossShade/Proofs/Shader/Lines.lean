import CrossShade.Proofs.Text.Row
import CrossShade.Proofs.ValueType.Spelling

/-!
# Reading the lines of a description

Every line that describes a part of a shader is the content of its line, and is read as that part.

* `Variable.IsPrintable` and its like for the other parts say what the parts must be made of.
* `readVariable_described`, `readField_describedMember`, `readSampler_described` and
  `readView_described` are the round trips of single lines.
* The lemmas on headers are about lines that open a uniform buffer or a structure, and about
  properties, whose values may contain blanks.
-/

namespace CrossShade

open Text (IsPlain IsWord IsContent)

/-- A name in a description is an identifier. -/
def IsName (name : String) : Prop :=
  Text.isIdentifier name.toList = true
  deriving Decidable

theorem IsName.isPlain {name : String} (h : IsName name) : IsPlain name.toList :=
  Text.isPlain_of_isIdentifier h

theorem IsName.noColon {name : String} (h : IsName name) : ':' ∉ name.toList :=
  h.isPlain.not_mem (by decide)

theorem IsName.readIdentifier {name : String} (h : IsName name) :
    Description.readIdentifier name.toList = .ok name := by
  have hidentifier : Text.isIdentifier name.toList = true := h
  simp [Description.readIdentifier, hidentifier]

theorem IsName.checkSemantic {name : String} (h : IsName name) (line : List Char) :
    Description.checkSemantic line name.toList = .ok () := by
  have hidentifier : Text.isIdentifier name.toList = true := h
  have hsome : name.toList.isEmpty = false := by simpa using h.isPlain.ne_nil
  simp [Description.checkSemantic, hsome, hidentifier]

theorem isWord_of_isIdentifier {word : List Char} (h : Text.isIdentifier word = true) :
    IsWord word :=
  (Text.isPlain_of_isIdentifier h).isWord

theorem toList_spaced (words : List String) :
    (spaced words).toList = [' '].intercalate (words.map String.toList) :=
  String.toList_intercalate

/-- A line of words is the content of its line if the words are in order. -/
theorem isContent_spaced {words : List String} (hsome : words ≠ [])
    (h : ∀ word ∈ words, IsWord word.toList) : IsContent (spaced words).toList := by
  rw [toList_spaced]
  refine Text.isContent_intercalate (by simpa using hsome) ?_
  intro word hword
  obtain ⟨text, htext, rfl⟩ := List.mem_map.mp hword
  exact h text htext

@[simp] theorem toList_spaced_singleton (word : String) : (spaced [word]).toList = word.toList := by
  simp [toList_spaced]

/-- A line of words is cut into these words. -/
theorem words_spaced {words : List String} (h : ∀ word ∈ words, IsWord word.toList) :
    Text.words (spaced words).toList = words.map String.toList := by
  rw [toList_spaced]
  refine Text.words_intercalate ?_
  intro word hword
  obtain ⟨text, htext, rfl⟩ := List.mem_map.mp hword
  exact h text htext

theorem not_mem_spaced {words : List String} (h : ∀ word ∈ words, ':' ∉ word.toList) :
    ':' ∉ (spaced words).toList := by
  rw [toList_spaced]
  refine Text.not_mem_intercalate (by decide) ?_
  intro word hword
  obtain ⟨text, htext, rfl⟩ := List.mem_map.mp hword
  exact h text htext

/-- A line is cut at the colon before its last word. -/
theorem cutAt?_spaced {words : List String} (hsome : words ≠ [])
    (h : ∀ word ∈ words, ':' ∉ word.toList) (last : String) :
    Text.cutAt? ':' (spaced (words ++ [":", last])).toList =
      some ((spaced words).toList ++ [' '], ' ' :: last.toList) := by
  have hwords : ∀ word ∈ words.map String.toList, ':' ∉ word := by
    intro word hword
    obtain ⟨text, htext, rfl⟩ := List.mem_map.mp hword
    exact h text htext
  have hcut := Text.cutAt?_intercalate (c := ':') (by decide) (by simpa using hsome)
    (List.cons_ne_nil last.toList []) hwords
  rw [List.intercalate_singleton, ← toList_spaced] at hcut
  rw [toList_spaced, List.map_append]
  exact hcut

/-- What stands after the first word of a line. -/
theorem afterStart?_spaced {start : List Char} (word : String) {words : List String}
    (hstart : start = word.toList ++ [' ']) (hsome : words ≠ []) :
    Text.afterStart? start (spaced (word :: words)).toList = some (spaced words).toList := by
  rw [toList_spaced, toList_spaced, hstart, List.map_cons]
  exact Text.afterStart?_intercalate word.toList (by simpa using hsome)

/-- A line that begins with another word does not begin with this one. -/
theorem afterStart?_spaced_eq_none {start : List Char} (word : String) {other : String}
    {words : List String} (hstart : start = word.toList ++ [' ']) (hword : IsName word)
    (hother : IsWord other.toList) (hne : other ≠ word) (hsome : words ≠ []) :
    Text.afterStart? start (spaced (other :: words)).toList = none := by
  rw [toList_spaced, hstart, List.map_cons]
  refine Text.afterStart?_intercalate_eq_none hword.isPlain.isWord hother ?_ (by simpa using hsome)
  rwa [ne_eq, String.toList_inj]

/-! ## Types -/

namespace ValueType

variable {type : ValueType}

theorem described_of_isReadable (h : type.IsReadable) : type.described = type.spelling := by
  rcases read_cases h with helement | ⟨element, length, rfl, -, -⟩
  · rcases helement with hnumeric | ⟨name, rfl, -, -⟩
    · cases type with
      | array element size => exact hnumeric.elim
      | _ => rfl
    · rfl
  · rfl

theorem isPlain_described (h : type.IsReadable) : IsPlain type.described.toList := by
  rw [described_of_isReadable h]
  exact isPlain_spelling h

theorem read_described (h : type.IsReadable) : read type.described.toList = .ok type := by
  rw [described_of_isReadable h]
  exact read_spelling h

theorem readType_described (h : type.IsReadable) :
    Description.readType type.described.toList = .ok type := by
  rw [Description.readType, read_described h]
  rfl

/-- A word that names a structure describes no other type. -/
theorem described_ne {word : String} (h : type.IsReadable)
    (hword : read word.toList = .ok (struct word)) (hne : type ≠ struct word) :
    type.described ≠ word := by
  intro hsame
  have hread := read_described h
  rw [hsame, hword, Except.ok.injEq] at hread
  exact hne hread.symm

end ValueType

/-! ## Variables -/

/-- The tessellation factors that the semantic of a variable stands for. -/
def Variable.factors? (v : Variable) : Option ArraySize :=
  v.semantic.bind fun semantic => Description.factorsOf? semantic.toList

/-- A variable of identifiers and a type that can be read.  The factors of its semantic are counted
by its type if it is made of single floats. -/
structure Variable.IsPrintable (v : Variable) : Prop where
  name : IsName v.name
  semantic : ∀ semantic ∈ v.semantic, IsName semantic
  type : (v.type.IsReadable ∧ (v.type = .scalar .float → v.factors? = none)) ∨
    ∃ size ∈ v.factors?, v.type = .array (.scalar .float) size

instance (v : Variable) : Decidable v.IsPrintable :=
  decidable_of_iff (IsName v.name ∧ (∀ semantic ∈ v.semantic, IsName semantic) ∧
      ((v.type.IsReadable ∧ (v.type = .scalar .float → v.factors? = none)) ∨
        ∃ size ∈ v.factors?, v.type = .array (.scalar .float) size))
    ⟨fun h => ⟨h.1, h.2.1, h.2.2⟩, fun h => ⟨h.name, h.semantic, h.type⟩⟩

namespace Variable

variable {v : Variable}

/-- The type that is read before the semantic is looked at. -/
theorem IsPrintable.exists_readable (h : v.IsPrintable) :
    ∃ type : ValueType, type.IsReadable ∧ type.described = v.type.described ∧
      (∀ name, type = .struct name → v.type = .struct name) ∧
      (v.semantic = none → type = v.type) ∧
      ∀ semantic ∈ v.semantic, Description.withFactors type semantic.toList = v.type := by
  rcases h.type with ⟨hreadable, hfactors⟩ | ⟨size, hfactors, htype⟩
  · refine ⟨v.type, hreadable, rfl, fun _ => id, fun _ => rfl, ?_⟩
    intro semantic hsemantic
    rw [Option.mem_def] at hsemantic
    rw [Variable.factors?, hsemantic, Option.bind_some] at hfactors
    unfold Description.withFactors
    split
    · rename_i size hsize
      rw [if_neg]
      intro hfloat
      rw [hfactors hfloat] at hsize
      simp at hsize
    · rfl
  · rw [Option.mem_def] at hfactors
    refine ⟨.scalar .float, ⟨"float".toList, rfl⟩, ?_, by simp, ?_, ?_⟩
    · rw [htype]
      cases hsemantic : v.semantic with
      | none => simp [Variable.factors?, hsemantic] at hfactors
      | some semantic =>
        rw [Variable.factors?, hsemantic, Option.bind_some, Description.factorsOf?] at hfactors
        split at hfactors
        · obtain rfl : ArraySize.outerFactors = size := by simpa using hfactors
          rfl
        · split at hfactors
          · obtain rfl : ArraySize.innerFactors = size := by simpa using hfactors
            rfl
          · simp at hfactors
    · intro hnone
      simp [Variable.factors?, hnone] at hfactors
    · intro semantic hsemantic
      rw [Option.mem_def] at hsemantic
      rw [Variable.factors?, hsemantic, Option.bind_some] at hfactors
      simp [Description.withFactors, hfactors, htype]

theorem isPlain_of_mem_words (h : v.IsPrintable) :
    ∀ word ∈ v.words, IsPlain word.toList := by
  obtain ⟨type, hreadable, hdescribed, -⟩ := h.exists_readable
  intro word hword
  simp only [words, List.mem_append, List.mem_cons, List.not_mem_nil, or_false,
    Option.mem_toList] at hword
  rcases hword with (hunused | hmode) | rfl | rfl
  · obtain rfl : word = "unused" := by
      cases hused : v.isUsed <;> simp_all
    exact Text.isPlain_of_isIdentifier (by decide)
  · refine Text.isPlain_of_isIdentifier ?_
    cases hmodes : v.interpolation <;> rw [hmodes] at hmode <;>
      simp only [Interpolation.word?, reduceCtorEq, Option.some.injEq] at hmode <;>
      rw [← hmode] <;> decide
  · rw [← hdescribed]
    exact ValueType.isPlain_described hreadable
  · exact h.name.isPlain

/-- The mark of an unused variable is dropped, and nothing else is taken for one. -/
theorem dropUnused_words (h : v.type.described ≠ "unused") :
    Description.dropUnused (v.words.map String.toList) = (v.isUsed,
      (v.interpolation.word?.toList ++ [v.type.described, v.name]).map String.toList) := by
  have hne : v.type.described.toList ≠ "unused".toList := by
    rwa [ne_eq, String.toList_inj]
  cases hused : v.isUsed with
  | false => simp [words, hused, Description.dropUnused]
  | true =>
    cases hmode : v.interpolation with
    | unspecified =>
      simp only [words, hused, hmode, Interpolation.word?, Description.dropUnused,
        Option.toList_none, List.nil_append, List.map_cons, if_true, if_neg hne]
    | _ => simp [words, hused, hmode, Interpolation.word?, Description.dropUnused]

theorem dropInterpolation_words (mode : Interpolation) (type name : String) :
    Description.dropInterpolation ((mode.word?.toList ++ [type, name]).map String.toList) =
      (mode, [type.toList, name.toList]) := by
  cases mode <;> rfl

theorem words_ne_nil (v : Variable) : v.words ≠ [] := by
  simp [words]

theorem isContent_described (h : v.IsPrintable) : IsContent v.described.toList := by
  have hwords : ∀ word ∈ v.words, IsWord word.toList :=
    fun word hword => (isPlain_of_mem_words h word hword).isWord
  unfold described
  split
  · exact isContent_spaced v.words_ne_nil hwords
  · rename_i semantic hsemantic
    refine isContent_spaced (by simp) ?_
    intro word hword
    simp only [List.mem_append, List.mem_cons, List.not_mem_nil, or_false] at hword
    rcases hword with hword | rfl | rfl
    · exact hwords word hword
    · exact Text.isWord_colon
    · exact (h.semantic word hsemantic).isPlain.isWord

/-- The words of a variable are cut off from its semantic. -/
theorem readVariable_described (h : v.IsPrintable) (hunused : v.type ≠ .struct "unused") :
    Description.readVariable v.described.toList = .ok v := by
  obtain ⟨type, hreadable, hdescribed, hstruct, hplain, hfactors⟩ := h.exists_readable
  have hne := ValueType.described_ne hreadable (by rfl) (mt (hstruct "unused") hunused)
  rw [hdescribed] at hne
  have hused := dropUnused_words hne
  have hwords := words_spaced fun word hword => (isPlain_of_mem_words h word hword).isWord
  have hcolon : ∀ word ∈ v.words, ':' ∉ word.toList :=
    fun word hword => (isPlain_of_mem_words h word hword).not_mem (by decide)
  have htype := ValueType.readType_described hreadable
  rw [hdescribed] at htype
  cases hsemantic : v.semantic with
  | none =>
    have hline : v.described = spaced v.words := by rw [described, hsemantic]
    have hnone := Text.cutAt?_eq_none (not_mem_spaced hcolon)
    simp only [Description.readVariable, hline, hnone, Option.map_none, Option.getD_none, hwords,
      hused, dropInterpolation_words, htype, h.name.readIdentifier, hplain hsemantic, ok_bind,
      pure_eq_ok, ← hsemantic]
  | some semantic =>
    have hname := h.semantic semantic hsemantic
    have hline : v.described = spaced (v.words ++ [":", semantic]) := by
      rw [described, hsemantic]
    have hdeclaration : Text.words ((spaced v.words).toList ++ [' ']) =
        v.words.map String.toList := by
      rw [Text.words_append (by decide), hwords, Text.words_nil, List.append_nil]
    simp only [Description.readVariable, hline, cutAt?_spaced v.words_ne_nil hcolon semantic,
      Option.map_some, Option.getD_some, hdeclaration, hname.isPlain.trim_cons_blank, hused,
      dropInterpolation_words, htype, hname.checkSemantic, h.name.readIdentifier,
      hfactors semantic hsemantic, String.ofList_toList, ok_bind, pure_eq_ok, ← hsemantic]

end Variable

/-! ## Members and bindings -/

/-- A member of a structure or of a uniform buffer, of an identifier and a type that can be read. -/
structure IsPrintableMember (type : ValueType) (name : String) : Prop where
  name : IsName name
  readable : type.IsReadable

instance (type : ValueType) (name : String) : Decidable (IsPrintableMember type name) :=
  decidable_of_iff (IsName name ∧ type.IsReadable)
    ⟨fun h => ⟨h.1, h.2⟩, fun h => ⟨h.name, h.readable⟩⟩

/-- A structure of such members. -/
structure Structure.IsPrintable (structure_ : Structure) : Prop where
  name : IsName structure_.name
  members : ∀ field ∈ structure_.members, IsPrintableMember field.type field.name

instance (structure_ : Structure) : Decidable structure_.IsPrintable :=
  decidable_of_iff (IsName structure_.name ∧
      ∀ field ∈ structure_.members, IsPrintableMember field.type field.name)
    ⟨fun h => ⟨h.1, h.2⟩, fun h => ⟨h.name, h.members⟩⟩

/-- A uniform buffer of such members. -/
structure UniformBuffer.IsPrintable (buffer : UniformBuffer) : Prop where
  name : IsName buffer.name
  members : ∀ member ∈ buffer.members, IsPrintableMember member.type member.name

instance (buffer : UniformBuffer) : Decidable buffer.IsPrintable :=
  decidable_of_iff (IsName buffer.name ∧
      ∀ member ∈ buffer.members, IsPrintableMember member.type member.name)
    ⟨fun h => ⟨h.1, h.2⟩, fun h => ⟨h.name, h.members⟩⟩

theorem readSlot_blank (slot : UInt32) :
    Description.readSlot (' ' :: (toString slot).toList) = .ok slot := by
  rw [Description.readSlot, (Text.isPlain_toString slot).trim_cons_blank,
    Text.readUInt32?_toString]

/-- A name and a slot on the two sides of a colon. -/
theorem readNamedSlot_spaced {name : String} (h : IsName name) (slot : UInt32) :
    Description.readNamedSlot (spaced [name, ":", toString slot]).toList = .ok (name, slot) := by
  have hcut := cutAt?_spaced (List.cons_ne_nil name []) (by simpa using h.noColon) (toString slot)
  rw [List.singleton_append] at hcut
  simp only [Description.readNamedSlot, hcut, toList_spaced_singleton,
    h.isPlain.trim_append_blank, h.readIdentifier, readSlot_blank, ok_bind, pure_eq_ok]

section Member

variable {type : ValueType} {name : String}

theorem isContent_describedMember (h : IsPrintableMember type name) :
    IsContent (describedMember type name).toList := by
  refine isContent_spaced (by simp) ?_
  intro word hword
  simp only [List.mem_cons, List.not_mem_nil, or_false] at hword
  rcases hword with rfl | rfl
  · exact (ValueType.isPlain_described h.readable).isWord
  · exact h.name.isPlain.isWord

theorem readField_describedMember (h : IsPrintableMember type name) :
    Description.readField (describedMember type name).toList = .ok ⟨type, name⟩ := by
  have hwords : Text.words (describedMember type name).toList =
      [type.described.toList, name.toList] := by
    refine words_spaced ?_
    intro word hword
    simp only [List.mem_cons, List.not_mem_nil, or_false] at hword
    rcases hword with rfl | rfl
    · exact (ValueType.isPlain_described h.readable).isWord
    · exact h.name.isPlain.isWord
  simp only [Description.readField, hwords, ValueType.readType_described h.readable,
    h.name.readIdentifier, ok_bind, pure_eq_ok]

/-- A member does not open the next structure or uniform buffer. -/
theorem afterStart?_describedMember (h : IsPrintableMember type name) (opening : String)
    {start : List Char} (hstart : start = opening.toList ++ [' '])
    (hopening : ValueType.read opening.toList = .ok (.struct opening)) (hname : IsName opening)
    (hne : type ≠ .struct opening) :
    Text.afterStart? start (describedMember type name).toList = none :=
  afterStart?_spaced_eq_none opening hstart hname (ValueType.isPlain_described h.readable).isWord
    (ValueType.described_ne h.readable hopening hne) (by simp)

end Member

/-- The words of a binding without those before its name. -/
theorem isWord_of_mem_namedSlot {name word : String} {slot : UInt32} (h : IsName name)
    (hword : word ∈ [name, ":", toString slot]) : IsWord word.toList := by
  simp only [List.mem_cons, List.not_mem_nil, or_false] at hword
  rcases hword with rfl | rfl | rfl
  · exact h.isPlain.isWord
  · exact Text.isWord_colon
  · exact (Text.isPlain_toString slot).isWord

namespace SamplerBinding

variable {sampler : SamplerBinding}

theorem isContent_described (h : IsName sampler.name) : IsContent sampler.described.toList := by
  refine isContent_spaced (by simp) ?_
  intro word hword
  simp only [List.mem_append, List.mem_cons (a := word) (b := "sampler")] at hword
  rcases hword with hmark | rfl | hword
  · obtain rfl : word = "comparison" := by
      cases hcompares : sampler.comparison <;> simp_all
    exact (Text.isPlain_of_isIdentifier (by decide)).isWord
  · exact (Text.isPlain_of_isIdentifier (by decide)).isWord
  · exact isWord_of_mem_namedSlot h hword

theorem readSampler_described (h : IsName sampler.name) :
    Description.readSampler sampler.described.toList = .ok sampler := by
  have hnamed := readNamedSlot_spaced h sampler.slot
  have hsampler : Text.afterStart? "sampler ".toList
      (spaced ["sampler", sampler.name, ":", toString sampler.slot]).toList =
        some (spaced [sampler.name, ":", toString sampler.slot]).toList :=
    afterStart?_spaced "sampler" (by decide) (by simp)
  cases hcompares : sampler.comparison with
  | true =>
    have hline : sampler.described =
        spaced ["comparison", "sampler", sampler.name, ":", toString sampler.slot] := by
      simp [described, hcompares]
    have hmark : Text.afterStart? "comparison ".toList sampler.described.toList =
        some (spaced ["sampler", sampler.name, ":", toString sampler.slot]).toList := by
      rw [hline]
      exact afterStart?_spaced "comparison" (by decide) (by simp)
    have htrim : Text.trimStart
        (spaced ["sampler", sampler.name, ":", toString sampler.slot]).toList =
          (spaced ["sampler", sampler.name, ":", toString sampler.slot]).toList := by
      refine Text.trimStart_eq_self (isContent_spaced (by simp) ?_).hasNoEdge.start
      intro word hword
      rcases List.mem_cons.mp hword with rfl | hword
      · exact isWord_of_isIdentifier (by decide)
      · exact isWord_of_mem_namedSlot h hword
    simp only [Description.readSampler, hmark, htrim, hsampler, hnamed, ok_bind, pure_eq_ok,
      ← hcompares]
  | false =>
    have hline : sampler.described =
        spaced ["sampler", sampler.name, ":", toString sampler.slot] := by
      simp [described, hcompares]
    have hmark : Text.afterStart? "comparison ".toList
        (spaced ["sampler", sampler.name, ":", toString sampler.slot]).toList = none := by
      exact afterStart?_spaced_eq_none "comparison" (by decide) (by decide)
        (isWord_of_isIdentifier (by decide)) (by decide) (by simp)
    simp only [Description.readSampler, hline, hmark, hsampler, hnamed, ok_bind, pure_eq_ok]
    rw [← hcompares]

end SamplerBinding

namespace ViewBinding

variable {view : ViewBinding}

/-- A view of elements that can be read. -/
structure IsPrintable (view : ViewBinding) : Prop where
  name : IsName view.name
  element : view.element.IsReadable

instance (view : ViewBinding) : Decidable view.IsPrintable :=
  decidable_of_iff (IsName view.name ∧ view.element.IsReadable)
    ⟨fun h => ⟨h.1, h.2⟩, fun h => ⟨h.name, h.element⟩⟩

theorem isPlain_word (kind : ResourceKind) : IsPlain kind.word.toList := by
  refine Text.isPlain_of_isIdentifier ?_
  cases kind <;> decide

theorem read_word (kind : ResourceKind) : ResourceKind.read kind.word = .ok kind := by
  cases kind <;> rfl

theorem toList_kindWord (view : ViewBinding) : view.kindWord.toList =
    view.kind.word.toList ++ '<' :: (view.element.described.toList ++ ['>']) := by
  simp [kindWord]

theorem isWord_kindWord (h : view.IsPrintable) : IsWord view.kindWord.toList := by
  have hkind := (isPlain_word view.kind).isWord
  have helement := (ValueType.isPlain_described h.element).isWord
  rw [toList_kindWord]
  refine ⟨by simp, ?_, ?_⟩
  · intro c hc
    simp only [List.mem_append, List.mem_cons, List.not_mem_nil, or_false] at hc
    rcases hc with hc | rfl | hc | rfl
    · exact hkind.not_isBlank c hc
    · decide
    · exact helement.not_isBlank c hc
    · decide
  · intro c hc
    simp only [List.mem_append, List.mem_cons, List.not_mem_nil, or_false] at hc
    rcases hc with hc | rfl | hc | rfl
    · exact hkind.not_sign c hc
    · decide
    · exact helement.not_sign c hc
    · decide

theorem isContent_described (h : view.IsPrintable) : IsContent view.described.toList := by
  refine isContent_spaced (by simp) ?_
  intro word hword
  rcases List.mem_cons.mp hword with rfl | hword
  · exact isWord_kindWord h
  · exact isWord_of_mem_namedSlot h.name hword

theorem readViewHead_described (h : view.IsPrintable) (line : List Char) :
    Description.readViewHead line
        (view.kind.word.toList ++ '<' :: (view.element.described.toList ++ '>' ::
          (' ' :: view.name.toList))) =
      .ok (view.kind.word.toList, view.element, view.name.toList) := by
  have hkind := Text.cutAt?_append ((isPlain_word view.kind).not_mem (c := '<') (by decide))
    (view.element.described.toList ++ '>' :: (' ' :: view.name.toList))
  have helement := Text.cutAt?_append
    ((ValueType.isPlain_described h.element).not_mem (c := '>') (by decide))
    (' ' :: view.name.toList)
  simp only [Description.readViewHead, hkind, helement, ValueType.readType_described h.element,
    h.name.isPlain.trim_cons_blank, ok_bind, pure_eq_ok]

theorem readView_described (h : view.IsPrintable) :
    Description.readView view.described.toList = .ok view := by
  have hwords : ∀ word ∈ [view.kindWord, view.name], IsWord word.toList ∧ ':' ∉ word.toList := by
    have hkind : ':' ∉ view.kindWord.toList := by
      have hword : ':' ∉ view.kind.word.toList := (isPlain_word view.kind).not_mem (by decide)
      have helement : ':' ∉ view.element.described.toList :=
        (ValueType.isPlain_described h.element).not_mem (by decide)
      simp [toList_kindWord, hword, helement]
    simpa using ⟨⟨isWord_kindWord h, hkind⟩, h.name.isPlain.isWord, h.name.noColon⟩
  have hcut := cutAt?_spaced (List.cons_ne_nil view.kindWord [view.name])
    (fun word hword => (hwords word hword).2) (toString view.slot)
  have hline := isContent_spaced (List.cons_ne_nil view.kindWord [view.name])
    (fun word hword => (hwords word hword).1)
  have hhead : Text.trim ((spaced [view.kindWord, view.name]).toList ++ [' ']) =
      view.kind.word.toList ++ '<' :: (view.element.described.toList ++ '>' ::
          (' ' :: view.name.toList)) := by
    rw [Text.trim_append (by decide), hline.hasNoEdge.trim, toList_spaced]
    simp [toList_kindWord, List.intercalate_cons_of_ne_nil]
  have hdescribed : view.described =
      spaced ([view.kindWord, view.name] ++ [":", toString view.slot]) := rfl
  simp only [Description.readView, hdescribed, hcut, hhead, readViewHead_described h, ok_bind,
    (isPlain_word view.kind).trim, String.ofList_toList, read_word, mapError_ok,
    h.name.readIdentifier, readSlot_blank, pure_eq_ok]

end ViewBinding

theorem FixedSampling.isContent_described {pair : FixedSampling} (hview : IsName pair.view)
    (hsampler : IsName pair.sampler) : IsContent pair.described.toList := by
  refine isContent_spaced (by simp) ?_
  intro word hword
  simp only [List.mem_cons, List.not_mem_nil, or_false] at hword
  rcases hword with rfl | rfl | rfl
  · exact hview.isPlain.isWord
  · exact Text.isWord_colon
  · exact hsampler.isPlain.isWord

theorem addFixedSampling_described {pair : FixedSampling} (hview : IsName pair.view)
    (hsampler : IsName pair.sampler) (description : Description) :
    description.addFixedSampling pair.described.toList =
      .ok { description with fixedSampling := description.fixedSampling ++ [pair] } := by
  have hcut := cutAt?_spaced (List.cons_ne_nil pair.view []) (by simpa using hview.noColon)
    pair.sampler
  have hdescribed : pair.described = spaced ([pair.view] ++ [":", pair.sampler]) := rfl
  simp only [Description.addFixedSampling, hdescribed, hcut, toList_spaced_singleton,
    hview.isPlain.trim_append_blank, hsampler.isPlain.trim_cons_blank, hview.readIdentifier,
    hsampler.readIdentifier, ok_bind, pure_eq_ok]

/-! ## Properties -/

/-- A text that can be the value of a property: nothing of it is trimmed or taken for a comment. -/
structure IsValue (text : String) : Prop where
  trimmed : Text.trim text.toList = text.toList
  noFeed : '\n' ∉ text.toList
  noComment : '#' ∉ text.toList

instance (text : String) : Decidable (IsValue text) :=
  decidable_of_iff
    (Text.trim text.toList = text.toList ∧ '\n' ∉ text.toList ∧ '#' ∉ text.toList)
    ⟨fun h => ⟨h.1, h.2.1, h.2.2⟩, fun h => ⟨h.trimmed, h.noFeed, h.noComment⟩⟩

/-- A text that can be the key of a property. -/
structure IsKey (key : String) : Prop extends IsValue key where
  ne_empty : key ≠ ""
  noEqual : '=' ∉ key.toList

instance (key : String) : Decidable (IsKey key) :=
  decidable_of_iff (IsValue key ∧ key ≠ "" ∧ '=' ∉ key.toList)
    ⟨fun h => ⟨h.1, h.2.1, h.2.2⟩, fun h => ⟨h.toIsValue, h.ne_empty, h.noEqual⟩⟩

theorem content_of_noComment {line : List Char} (h : '#' ∉ line) :
    Reading.content line = Text.trim line := by
  rw [Reading.content, Text.takeWhile_of_not_mem h]

section Property

variable {key value : String}

theorem toList_describedProperty (key value : String) :
    (Shader.describedProperty (key, value)).toList =
      ' ' :: (key.toList ++ (' ' :: '=' :: ' ' :: value.toList)) := by
  simp [Shader.describedProperty]

theorem isLine_describedProperty (hkey : IsKey key) (hvalue : IsValue value) :
    Text.IsLine (Shader.describedProperty (key, value)).toList := by
  rw [toList_describedProperty]
  constructor
  · simp [hkey.noFeed, hvalue.noFeed]
  · have hstop := (Text.trim_eq_self_iff.mp hvalue.trimmed).noReturn
    have hshape : ' ' :: (key.toList ++ (' ' :: '=' :: ' ' :: value.toList)) =
        (' ' :: (key.toList ++ [' ', '=', ' '])) ++ value.toList := by
      simp
    rw [hshape, List.getLast?_append]
    cases hlast : value.toList.getLast? with
    | none =>
      have hfront : (' ' :: (key.toList ++ [' ', '=', ' '])).getLast? = some ' ' := by
        rw [← List.cons_append, List.getLast?_append]
        rfl
      rw [hfront]
      decide
    | some c => rwa [hlast] at hstop

/-- A property is read from what is left when the blanks at both ends are cut off; the blank before
an empty value is one of them. -/
theorem content_describedProperty (hkey : IsKey key) (hvalue : IsValue value) :
    ∃ rest, Reading.content (Shader.describedProperty (key, value)).toList =
        (key.toList ++ [' ']) ++ '=' :: rest ∧
      Text.trim rest = value.toList := by
  have hkeyEdge := Text.trim_eq_self_iff.mp hkey.trimmed
  have hvalueEdge := Text.trim_eq_self_iff.mp hvalue.trimmed
  have hkeySome : key.toList ≠ [] := by
    rw [ne_eq, String.toList_eq_nil_iff]
    exact hkey.ne_empty
  rw [toList_describedProperty, content_of_noComment (by simp [hkey.noComment, hvalue.noComment]),
    Text.trim_cons (by decide)]
  by_cases hempty : value.toList = []
  · have hequal : Text.HasNoEdge ['='] := by
      refine Text.hasNoEdge_of_forall ?_
      intro c hc
      rw [List.mem_singleton.mp hc]
      decide
    have hline := hkeyEdge.join hequal hkeySome (by simp) [' ']
    refine ⟨[], ?_, by rw [hempty, Text.trim_nil]⟩
    have hshape : key.toList ++ (' ' :: '=' :: ' ' :: value.toList) =
        (key.toList ++ [' '] ++ ['=']) ++ [' '] := by
      simp [hempty]
    rw [hshape, Text.trim_append (by decide), hline.trim]
  · have hline := hkeyEdge.join hvalueEdge hkeySome hempty [' ', '=', ' ']
    refine ⟨' ' :: value.toList, ?_, ?_⟩
    · have hshape : key.toList ++ (' ' :: '=' :: ' ' :: value.toList) =
          key.toList ++ [' ', '=', ' '] ++ value.toList := by
        simp
      rw [hshape, hline.trim]
      simp
    · rw [Text.trim_cons (by decide), hvalue.trimmed]

/-- A key that is not set yet is set. -/
theorem addProperty_content {line : List Char} {description : Description}
    (hkey : IsKey key) (hvalue : IsValue value)
    (hfresh : description.properties.get? key = none)
    (hline : line = Reading.content (Shader.describedProperty (key, value)).toList) :
    description.addProperty line = .ok
      { description with properties := description.properties.set key value } := by
  obtain ⟨rest, hcontent, hrest⟩ := content_describedProperty hkey hvalue
  have hcut : '=' ∉ key.toList ++ [' '] := by simp [hkey.noEqual]
  have htrim : Text.trim (key.toList ++ [' ']) = key.toList := by
    rw [Text.trim_append (by decide), hkey.trimmed]
  have hsome : key.isEmpty = false := by simpa using hkey.ne_empty
  rw [Description.addProperty, hline, hcontent, Text.cutAt?_append hcut]
  simp [htrim, hrest, hsome, hfresh]

end Property

end CrossShade
