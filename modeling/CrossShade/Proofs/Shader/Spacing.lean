import CrossShade.Proofs.Outcome
import CrossShade.Proofs.Shader.Lines
import CrossShade.Proofs.Text.SameWords
import CrossShade.Proofs.ValueType.Readable

/-!
# Blanks between the parts of a line

Wherever a reader takes a part of a line, it takes the same from a line with the same words: it cuts
at a mark, cuts into words or trims, and none of these tells one row of blanks from another.  Only
keywords are looked for with the space behind them.

* `trim_congr` is about the readers of single words, which have no use for blanks.
* There is one lemma for every reader, from `readIdentifier_congr` to `addFixedSampling_congr`.
* `keywords` are those that a line is found to begin with, and `addLine_congr` says that lines with
  the same words and keywords are read alike.
-/

namespace CrossShade

variable {first second line other : List Char}

/-! ## Words -/

namespace Text

/-- A reader that has no use for blanks takes the same from texts with the same words. -/
theorem trim_congr {α : Type} {read : List Char → α} {refused : α}
    (hrefused : ∀ text c, c ∈ text → isBlank c = true → read text = refused)
    (h : words first = words second) : read (trim first) = read (trim second) := by
  rcases trim_eq_or_hasBlank h with hsame | ⟨⟨c, hc, hblank⟩, d, hd, hother⟩
  · rw [hsame]
  · rw [hrefused _ c hc hblank, hrefused _ d hd hother]

/-- Trimmed texts with the same words are empty together. -/
theorem trim_isEmpty (h : words first = words second) :
    (trim first).isEmpty = (trim second).isEmpty := by
  have hnil : ∀ text : List Char, (trim text).isEmpty = (words text).isEmpty := by
    intro text
    rw [Bool.eq_iff_iff, List.isEmpty_iff, List.isEmpty_iff, ← words_trim text]
    constructor
    · intro htext
      rw [htext, words_nil]
    · exact (hasNoEdge_trim text).eq_nil
  rw [hnil, hnil, h]

theorem isIdentifier_eq_false_of_blank (text : List Char) (c : Char) (hc : c ∈ text)
    (hblank : isBlank c = true) : isIdentifier text = false := by
  by_contra hidentifier
  rw [(isPlain_of_isIdentifier (by simpa using hidentifier)).not_isBlank hc] at hblank
  cases hblank

theorem readUInt32?_eq_none_of_blank (text : List Char) (c : Char) (hc : c ∈ text)
    (hblank : isBlank c = true) : readUInt32? text = none := by
  rw [readUInt32?, Option.map_eq_none_iff]
  by_contra hread
  obtain ⟨value, hvalue⟩ := Option.ne_none_iff_exists'.mp hread
  obtain ⟨-, hdigits, -⟩ := ValueType.readBelow?_eq_some_iff.mp hvalue
  have hplain : c.isDigit = true ∨ c = '+' := by
    unfold dropPlus at hdigits
    split at hdigits
    · rcases List.mem_cons.mp hc with hplus | hrest
      · exact .inr hplus
      · exact .inl (hdigits c hrest)
    · exact .inl (hdigits c hc)
  rcases hplain with hdigit | rfl
  · have hnone := isPlain_of_isDigit hdigit
    simp [isPlain, hblank] at hnone
  · revert hblank
    decide

theorem trim_eq_of_isIdentifier (h : words first = words second)
    (hidentifier : isIdentifier (trim first) = true) : trim first = trim second := by
  rcases trim_eq_or_hasBlank h with hsame | ⟨⟨c, hc, hblank⟩, -⟩
  · exact hsame
  · rw [isIdentifier_eq_false_of_blank _ c hc hblank] at hidentifier
    cases hidentifier

end Text

open Text (words trim isBlank trim_congr words_cutAt? words_trim hasNoEdge_trim)

/-! ## Types -/

namespace ValueType

theorem readNumeric?_eq_none_of_blank (text : List Char) (c : Char) (hc : c ∈ text)
    (hblank : isBlank c = true) : readNumeric? text = none := by
  rw [readNumeric?_eq_none_iff]
  intro type hspells
  rcases hspells.continues_or_eq_plus hc with hcontinues | rfl
  · have hplain := Text.isPlain_of_continuesIdentifier hcontinues
    simp [Text.isPlain, hblank] at hplain
  · revert hblank
    decide

theorem readElement_congr (h : words first = words second) :
    SameOk (readElement first) (readElement second) := by
  simp only [readElement]
  rw [trim_congr readNumeric?_eq_none_of_blank h]
  cases readNumeric? (trim second) with
  | some type => exact .refl _
  | none =>
    dsimp only
    split
    · rename_i hidentifier
      rw [← Text.trim_eq_of_isIdentifier h hidentifier, if_pos hidentifier]
      exact .refl _
    · rename_i hidentifier
      rw [trim_congr Text.isIdentifier_eq_false_of_blank h] at hidentifier
      rw [if_neg hidentifier]
      exact .error _ _

theorem read_congr (h : words first = words second) : SameOk (read first) (read second) := by
  have htrim : words (trim first) = words (trim second) := by rw [words_trim, words_trim, h]
  rcases words_cutAt? (c := '[') (by decide) htrim with
    ⟨hnone, hother⟩ | ⟨before, after, start, stop, hcut, hother, hbefore, hafter⟩
  · simp only [read, hnone, hother]
    exact readElement_congr htrim
  · -- What stands behind the bracket ends where the trimmed text does.
    have hstop : ∀ {text before after : List Char}, Text.cutAt? '[' (trim text) =
        some (before, after) → ∀ d ∈ after.getLast?, isBlank d = false := by
      intro text before after hcut d hd
      refine (hasNoEdge_trim text).stop d ?_
      rw [Text.cutAt?_eq_some hcut, List.getLast?_append, List.getLast?_cons,
        Option.mem_def.mp hd]
      rfl
    obtain ⟨hlast, hinner⟩ := Text.words_dropLast (hstop hcut) (hstop hother) hafter
    simp only [read, hcut, hother, hlast]
    split
    · exact .error _ _
    · refine (readElement_congr hbefore).bind fun element _ => ?_
      rw [trim_congr Text.readUInt32?_eq_none_of_blank hinner]
      split
      · exact .error _ _
      · split
        · exact .error _ _
        · exact .refl _

end ValueType

namespace ResourceKind

/-- No word for a kind has a blank. -/
theorem not_isBlank_of_read {text : String} {kind : ResourceKind} (h : read text = .ok kind) :
    ∀ c ∈ text.toList, isBlank c = false := by
  unfold read readKeyword at h
  split at h
  · rename_i found hfound
    obtain ⟨before, after, hrows, -⟩ := List.lookup_eq_some_iff.mp hfound
    have hrow : (withoutWriteMark text, found) ∈ all.map fun kind => (kind.word, kind) := by
      rw [hrows]
      simp
    obtain ⟨known, -, hword⟩ := List.mem_map.mp hrow
    have hplain : ∀ c ∈ (withoutWriteMark text).toList, isBlank c = false := by
      rw [← (Prod.mk.inj hword).1]
      intro c hc
      exact (ViewBinding.isPlain_word known).not_isBlank hc
    intro c hc
    unfold withoutWriteMark at hplain
    split at hplain
    · rename_i rest htext
      rw [htext, List.mem_cons, List.mem_cons] at hc
      rw [String.toList_ofList] at hplain
      rcases hc with rfl | rfl | hrest
      · decide
      · decide
      · exact hplain c hrest
    · exact hplain c hc
  · cases h

theorem read_trim_congr (h : words first = words second) :
    SameOk (read (String.ofList (trim first))) (read (String.ofList (trim second))) := by
  rcases Text.trim_eq_or_hasBlank h with hsame | ⟨⟨c, hc, hblank⟩, d, hd, hother⟩
  · rw [hsame]
    exact .refl _
  · have hrefused : ∀ {text : List Char} {c : Char}, c ∈ text → isBlank c = true →
        ∀ kind, read (String.ofList text) ≠ .ok kind := by
      intro text c hc hblank kind hread
      have hplain := not_isBlank_of_read hread c (by simpa using hc)
      rw [hblank] at hplain
      cases hplain
    exact .of_refused (hrefused hc hblank) (hrefused hd hother)

end ResourceKind

/-- Whether the lines of a section are rows of words. -/
def Section.isSpaced : Section → Bool
  | .preamble | .properties | .code _ => false
  | _ => true

namespace Description

/-! ## Names, slots and types -/

theorem readIdentifier_congr (h : words first = words second) :
    SameOk (readIdentifier (trim first)) (readIdentifier (trim second)) := by
  unfold readIdentifier
  split
  · rename_i hidentifier
    rw [← Text.trim_eq_of_isIdentifier h hidentifier, if_pos hidentifier]
    exact .refl _
  · rename_i hidentifier
    rw [trim_congr Text.isIdentifier_eq_false_of_blank h] at hidentifier
    rw [if_neg hidentifier]
    exact .error _ _

theorem readSlot_congr (h : words first = words second) :
    SameOk (readSlot first) (readSlot second) := by
  unfold readSlot
  rw [trim_congr Text.readUInt32?_eq_none_of_blank h]
  split
  · exact .refl _
  · exact .error _ _

theorem readNamedSlot_congr (h : words first = words second) :
    SameOk (readNamedSlot first) (readNamedSlot second) := by
  unfold readNamedSlot
  rcases words_cutAt? (c := ':') (by decide) h with
    ⟨hnone, hother⟩ | ⟨name, slot, name', slot', hcut, hother, hname, hslot⟩
  · rw [hnone, hother]
    exact .error _ _
  · rw [hcut, hother]
    refine (readIdentifier_congr hname).bind fun name _ => ?_
    exact (readSlot_congr hslot).bind fun slot _ => .refl _

theorem readType_congr (h : words first = words second) :
    SameOk (readType first) (readType second) :=
  (ValueType.read_congr h).mapError LineFault.type

/-! ## The parts of a description -/

theorem readField_congr (h : words first = words second) :
    SameOk (readField first) (readField second) := by
  unfold readField
  rw [h]
  split
  · exact .refl _
  · exact .error _ _

theorem checkSemantic_congr (h : words first = words second) :
    SameOk (checkSemantic line (trim first)) (checkSemantic other (trim second)) := by
  unfold checkSemantic
  rw [Text.trim_isEmpty h, trim_congr Text.isIdentifier_eq_false_of_blank h]
  split
  · exact .error _ _
  · split
    · exact .refl _
    · exact .error _ _

theorem isIdentifier_of_checkSemantic {semantic : List Char}
    (h : checkSemantic line semantic = .ok ()) : Text.isIdentifier semantic = true := by
  unfold checkSemantic at h
  split at h
  · cases h
  · split at h
    · assumption
    · cases h

theorem readVariable_congr (h : words first = words second) :
    SameOk (readVariable first) (readVariable second) := by
  unfold readVariable
  rcases words_cutAt? (c := ':') (by decide) h with
    ⟨hnone, hother⟩ | ⟨declaration, semantic, declaration', semantic', hcut, hother, hwords, hend⟩
  · simp only [hnone, hother, Option.map_none, Option.getD_none, h]
    split
    · exact .refl _
    · exact .error _ _
  · simp only [hcut, hother, Option.map_some, Option.getD_some, hwords]
    split
    · refine (SameOk.refl _).bind fun type _ => ?_
      refine (checkSemantic_congr hend).bind fun _ hchecked => ?_
      rw [Text.trim_eq_of_isIdentifier hend (isIdentifier_of_checkSemantic hchecked)]
      exact .refl _
    · exact .error _ _

/-- The head of a view is cut into parts with the same words. -/
theorem readViewHead_bind_congr {α : Type}
    {rest others : List Char × ValueType × List Char → Except LineFault α}
    (h : words first = words second)
    (hrest : ∀ kind kind' element name name', words kind = words kind' →
      words name = words name' →
        SameOk (rest (kind, element, trim name)) (others (kind', element, trim name'))) :
    SameOk (readViewHead line (trim first) >>= rest)
      (readViewHead other (trim second) >>= others) := by
  have htrim : words (trim first) = words (trim second) := by rw [words_trim, words_trim, h]
  unfold readViewHead
  rcases words_cutAt? (c := '<') (by decide) htrim with
    ⟨hnone, hother⟩ | ⟨kind, behind, kind', behind', hcut, hother, hkind, hbehind⟩
  · rw [hnone, hother]
    rcases Text.words_cutWhere? (hasNoEdge_trim first) (hasNoEdge_trim second) htrim with
      ⟨hnone, hother⟩ | ⟨kind, name, name', hcut, hother, hname⟩
    · simp only [hnone, hother, error_bind]
      exact .error _ _
    · simp only [hcut, hother, ok_bind]
      exact hrest kind kind .float4 name name' rfl hname
  · rw [hcut, hother]
    rcases words_cutAt? (c := '>') (by decide) hbehind with
      ⟨hnone, hother⟩ | ⟨element, name, element', name', hcut, hother, helement, hname⟩
    · simp only [hnone, hother, error_bind]
      exact .error _ _
    · simp only [hcut, hother, bind_assoc, pure_bind]
      refine (readType_congr helement).bind fun element _ => ?_
      exact hrest kind kind' element name name' hkind hname

theorem readView_congr (h : words first = words second) :
    SameOk (readView first) (readView second) := by
  unfold readView
  rcases words_cutAt? (c := ':') (by decide) h with
    ⟨hnone, hother⟩ | ⟨declaration, slot, declaration', slot', hcut, hother, hwords, hslot⟩
  · rw [hnone, hother]
    exact .error _ _
  · rw [hcut, hother]
    refine readViewHead_bind_congr hwords fun kind kind' element name name' hkind hname => ?_
    refine ((ResourceKind.read_trim_congr hkind).mapError _).bind fun kind _ => ?_
    refine (readIdentifier_congr hname).bind fun name _ => ?_
    exact (readSlot_congr hslot).bind fun slot _ => .refl _

theorem addFixedSampling_congr (description : Description) (h : words first = words second) :
    SameOk (description.addFixedSampling first) (description.addFixedSampling second) := by
  unfold addFixedSampling
  rcases words_cutAt? (c := ':') (by decide) h with
    ⟨hnone, hother⟩ | ⟨view, sampler, view', sampler', hcut, hother, hview, hsampler⟩
  · rw [hnone, hother]
    exact .error _ _
  · rw [hcut, hother]
    refine (readIdentifier_congr hview).bind fun view _ => ?_
    exact (readIdentifier_congr hsampler).bind fun sampler _ => .refl _

/-! ## Keywords -/

/-- A word and the space that ends it. -/
def IsKeyword (keyword : String) : Prop :=
  Text.isIdentifier keyword.toList.dropLast = true ∧ keyword.toList.getLast? = some ' '

instance (keyword : String) : Decidable (IsKeyword keyword) :=
  inferInstanceAs (Decidable (_ ∧ _))

/-- Whether a line begins with a keyword and the space that ends it. -/
def opensWith (keyword : String) (line : List Char) : Bool :=
  (Text.afterStart? keyword.toList line).isSome

/-- The keywords that a line of a section is found to begin with, each with the space that ends
it. -/
def keywords (part : Section) (line : List Char) : List String :=
  match part with
  | .uniformBuffers => ["ubuffer "].filter (opensWith · line)
  | .structures => ["struct "].filter (opensWith · line)
  | .samplers =>
    match Text.afterStart? "comparison ".toList line with
    | some rest => "comparison " :: ["sampler "].filter (opensWith · (Text.trimStart rest))
    | none => ["sampler "].filter (opensWith · line)
  | _ => []

/-- A keyword is the first word of the line that begins with it. -/
theorem words_of_afterStart? (keyword : String) {rest : List Char} (hkeyword : IsKeyword keyword)
    (h : Text.afterStart? keyword.toList line = some rest) :
    words line = keyword.toList.dropLast :: words rest := by
  obtain ⟨hidentifier, hspace⟩ := hkeyword
  have hplain := Text.isPlain_of_isIdentifier hidentifier
  have hsplit : keyword.toList = keyword.toList.dropLast ++ [' '] := by
    obtain ⟨word, hword⟩ := List.getLast?_eq_some_iff.mp hspace
    rw [hword, List.dropLast_concat]
  rw [hsplit] at h
  exact Text.words_of_afterStart? hplain.ne_nil (fun c hc => hplain.not_isBlank hc) (by decide) h

/-- Two lines with the same words begin both with a keyword, then the rests have the same words, or
neither does. -/
theorem afterStart?_congr (keyword : String) (hkeyword : IsKeyword keyword)
    (h : words first = words second) (hopens : opensWith keyword first = opensWith keyword second) :
    Text.afterStart? keyword.toList first = none ∧ Text.afterStart? keyword.toList second = none ∨
      ∃ rest others, Text.afterStart? keyword.toList first = some rest ∧
        Text.afterStart? keyword.toList second = some others ∧ words rest = words others := by
  unfold opensWith at hopens
  cases hfirst : Text.afterStart? keyword.toList first with
  | none =>
    rw [hfirst] at hopens
    exact .inl ⟨rfl, Option.isNone_iff_eq_none.mp (by simpa using hopens.symm)⟩
  | some rest =>
    rw [hfirst] at hopens
    obtain ⟨others, hsecond⟩ := Option.isSome_iff_exists.mp hopens.symm
    rw [words_of_afterStart? keyword hkeyword hfirst,
      words_of_afterStart? keyword hkeyword hsecond] at h
    exact .inr ⟨rest, others, rfl, hsecond, (List.cons.inj h).2⟩

theorem opensWith_congr {keyword : String}
    (h : [keyword].filter (opensWith · first) = [keyword].filter (opensWith · second)) :
    opensWith keyword first = opensWith keyword second := by
  cases hfirst : opensWith keyword first <;> cases hsecond : opensWith keyword second <;>
    simp [hfirst, hsecond] at h ⊢

theorem addUniformLine_congr (description : Description) (h : words first = words second)
    (hkeywords : keywords .uniformBuffers first = keywords .uniformBuffers second) :
    SameOk (description.addUniformLine first) (description.addUniformLine second) := by
  unfold addUniformLine
  rcases afterStart?_congr "ubuffer " (by decide) h (opensWith_congr hkeywords) with
    ⟨hnone, hother⟩ | ⟨rest, others, hrest, hother, hwords⟩
  · rw [hnone, hother]
    refine (readField_congr h).bind fun field _ => ?_
    dsimp only
    split
    · exact .refl _
    · exact .error _ _
  · rw [hrest, hother]
    exact (readNamedSlot_congr hwords).bind fun _ _ => .refl _

theorem addStructureLine_congr (description : Description) (h : words first = words second)
    (hkeywords : keywords .structures first = keywords .structures second) :
    SameOk (description.addStructureLine first) (description.addStructureLine second) := by
  unfold addStructureLine
  rcases afterStart?_congr "struct " (by decide) h (opensWith_congr hkeywords) with
    ⟨hnone, hother⟩ | ⟨rest, others, hrest, hother, hwords⟩
  · rw [hnone, hother]
    refine (readField_congr h).bind fun field _ => ?_
    dsimp only
    split
    · exact .refl _
    · exact .error _ _
  · rw [hrest, hother]
    exact (readIdentifier_congr hwords).bind fun _ _ => .refl _

/-- Reads a sampler behind its mark, if it has one. -/
def readNamedSampler (comparison : Bool) (fault : LineFault) (line : List Char) :
    Except LineFault SamplerBinding :=
  match Text.afterStart? "sampler ".toList line with
  | none => .error fault
  | some declaration => do
    let (name, slot) ← readNamedSlot declaration
    return ⟨name, slot, comparison⟩

theorem readNamedSampler_congr (comparison : Bool) (fault other : LineFault)
    (h : words first = words second)
    (hopens : opensWith "sampler " first = opensWith "sampler " second) :
    SameOk (readNamedSampler comparison fault first)
      (readNamedSampler comparison other second) := by
  unfold readNamedSampler
  rcases afterStart?_congr "sampler " (by decide) h hopens with
    ⟨hnone, hother⟩ | ⟨rest, others, hrest, hother, hwords⟩
  · rw [hnone, hother]
    exact .error _ _
  · rw [hrest, hother]
    exact (readNamedSlot_congr hwords).bind fun _ _ => .refl _

theorem readSampler_congr (h : words first = words second)
    (hkeywords : keywords .samplers first = keywords .samplers second) :
    SameOk (readSampler first) (readSampler second) := by
  have hmark : opensWith "comparison " first = opensWith "comparison " second := by
    have hmem : ∀ line, "comparison " ∈ keywords .samplers line ↔
        opensWith "comparison " line = true := by
      intro line
      simp only [keywords, opensWith]
      cases Text.afterStart? "comparison ".toList line <;> simp
    rw [Bool.eq_iff_iff, ← hmem, ← hmem, hkeywords]
  unfold readSampler
  simp only [keywords] at hkeywords
  rcases afterStart?_congr "comparison " (by decide) h hmark with
    ⟨hnone, hother⟩ | ⟨rest, others, hrest, hother, hwords⟩
  · rw [hnone, hother]
    rw [hnone, hother] at hkeywords
    exact readNamedSampler_congr false _ _ h (opensWith_congr hkeywords)
  · rw [hrest, hother]
    rw [hrest, hother] at hkeywords
    refine readNamedSampler_congr true _ _ ?_ (opensWith_congr (List.cons.inj hkeywords).2)
    rw [Text.words_trimStart, Text.words_trimStart, hwords]

/-- Lines with the same words and keywords are read alike. -/
theorem addLine_congr {part : Section} (hpart : part.isSpaced = true) (description : Description)
    (h : words first = words second) (hkeywords : keywords part first = keywords part second) :
    SameOk (description.addLine part first) (description.addLine part second) := by
  cases part with
  | preamble | properties | code => cases hpart
  | interface group => exact (readVariable_congr h).bind fun _ _ => .refl _
  | uniformBuffers => exact addUniformLine_congr description h hkeywords
  | samplers => exact (readSampler_congr h hkeywords).bind fun _ _ => .refl _
  | readViews => exact (readView_congr h).bind fun _ _ => .refl _
  | writeViews => exact (readView_congr h).bind fun _ _ => .refl _
  | structures => exact addStructureLine_congr description h hkeywords
  | fixedSampling => exact addFixedSampling_congr description h

end Description

/-- The content of lines with the same words has the same words. -/
theorem Reading.words_content (h : words first = words second) :
    words (content first) = words (content second) := by
  rw [content, content, words_trim, words_trim]
  exact Text.words_takeWhile (by decide) h

end CrossShade
