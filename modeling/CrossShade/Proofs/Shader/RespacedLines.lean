import CrossShade.Proofs.Shader.ChangedLines
import CrossShade.Proofs.Shader.Spacing
import CrossShade.Proofs.Shader.WellTyped

/-!
# Descriptions with other blanks

Between the words of a row one blank is as good as any other and as many of them, except behind a
keyword: `ubuffer`, `struct`, `sampler` and `comparison` are found only if a space ends them.

* `Section.SameRow` and `Section.Respaced` say of lines that they differ in blanks alone;
  `SameRow.replaced` gives the typical case.
* `Section.keywordsIn` are the keywords that the lines are found to begin with.
* `foldlM_respaced` says that lines with the same keywords are read alike.
* `keywords_of_addLine` says that a row is read with and without its keyword only among structures,
  where it is a member if it does not begin a structure; `structureRows` tells the two apart, and so
  `structures_ne_of_foldlM`.
* `read_respaced` is the conclusion.
-/

namespace CrossShade

open Description (addBody addLine keywords opensWith)
open Reading (header? content)
open Text (words)

variable {part : Section} {line other : List Char} {lines others : List (List Char)}

/-! ## Lines with the same words -/

namespace Section

/-- The section that is open behind a line. -/
def next (part : Section) (line : List Char) : Section :=
  match header? { openSection := part } line with
  | some header => .ofHeader header
  | none => part

/-- The keywords that a line is found to begin with, if it is a row of the section. -/
def rowKeywords (part : Section) (line : List Char) : List String :=
  match header? { openSection := part } line with
  | some _ => []
  | none => keywords part (content line)

/-- Lines that differ in blanks alone: both are headers, or both are rows of a section in which
blanks stand between words. -/
inductive SameRow (part : Section) (line : List Char) : (other : List Char) → Prop where
  | same : SameRow part line line
  | header {other first second : List Char}
      (hline : header? { openSection := part } line = some first)
      (hother : header? { openSection := part } other = some second)
      (hwords : words first = words second) : SameRow part line other
  | row {other : List Char} (hpart : part.isSpaced = true)
      (hline : header? { openSection := part } line = none)
      (hother : header? { openSection := part } other = none)
      (hwords : words line = words other) : SameRow part line other

/-- Lines of which each differs from its counterpart in blanks alone. -/
inductive Respaced : Section → (lines others : List (List Char)) → Prop where
  | nil (part : Section) : Respaced part [] []
  | cons {part : Section} {line other : List Char} {rest more : List (List Char)}
      (hline : SameRow part line other) (hrest : Respaced (part.next line) rest more) :
      Respaced part (line :: rest) (other :: more)

instance (part : Section) (line other : List Char) : Decidable (SameRow part line other) :=
  decidable_of_iff (line = other ∨
      (∃ first ∈ header? { openSection := part } line,
        ∃ second ∈ header? { openSection := part } other, words first = words second) ∨
      part.isSpaced = true ∧ header? { openSection := part } line = none ∧
        header? { openSection := part } other = none ∧ words line = words other) <| by
    constructor
    · rintro (rfl | ⟨first, hline, second, hother, hwords⟩ | ⟨hpart, hline, hother, hwords⟩)
      · exact .same
      · exact .header hline hother hwords
      · exact .row hpart hline hother hwords
    · intro h
      cases h with
      | same => exact .inl rfl
      | header hline hother hwords => exact .inr (.inl ⟨_, hline, _, hother, hwords⟩)
      | row hpart hline hother hwords => exact .inr (.inr ⟨hpart, hline, hother, hwords⟩)

instance decidableRespaced : (part : Section) → (lines others : List (List Char)) →
    Decidable (Respaced part lines others)
  | part, [], [] => isTrue (.nil part)
  | part, line :: rest, other :: more =>
    have := decidableRespaced (part.next line) rest more
    decidable_of_iff (SameRow part line other ∧ Respaced (part.next line) rest more)
      ⟨fun h => .cons h.1 h.2, fun | .cons hline hrest => ⟨hline, hrest⟩⟩
  | _, [], _ :: _ => isFalse nofun
  | _, _ :: _, [] => isFalse nofun

/-- The keywords that lines are found to begin with, line by line. -/
def keywordsIn (part : Section) : (lines : List (List Char)) → List (List String)
  | [] => []
  | line :: rest => part.rowKeywords line :: keywordsIn (part.next line) rest

theorem ofHeader_congr {first second : List Char} (h : words first = words second) :
    ofHeader first = ofHeader second := by
  rw [ofHeader, ofHeader, h]

/-- Any blanks, one at least, may stand between two words of a row. -/
theorem SameRow.replaced {run replacement : List Char} (hpart : part.isSpaced = true)
    (hrun : run ≠ []) (hblank : ∀ c ∈ run, Text.isBlank c = true) (hreplacement : replacement ≠ [])
    (hblanks : ∀ c ∈ replacement, Text.isBlank c = true) {before : List Char}
    (hbefore : before.head?.any (· ≠ '%') = true) (after : List Char) :
    SameRow part (before ++ run ++ after) (before ++ replacement ++ after) := by
  have hheader : ∀ blanks : List Char,
      header? { openSection := part } (before ++ blanks ++ after) = none := by
    intro blanks
    refine Reading.header?_eq_none ?_
    cases before with
    | nil => cases hbefore
    | cons c rest => simpa using hbefore
  exact .row hpart (hheader run) (hheader replacement)
    (Text.words_replaced hrun hblank hreplacement hblanks before after).symm

theorem SameRow.next_eq (h : SameRow part line other) : part.next line = part.next other := by
  cases h with
  | same => rfl
  | header hline hother hwords =>
    simp only [next, hline, hother, ofHeader_congr hwords]
  | row _ hline hother _ => simp only [next, hline, hother]

end Section

open Section (SameRow Respaced keywordsIn)

namespace Description

variable {description next : Description}

theorem addBody_eq (hpart : part.isSpaced = true) (description : Description)
    (line : List Char) :
    addBody part description line =
      if (content line).isEmpty then .ok description
      else description.addLine part (content line) := by
  cases part with
  | code => cases hpart
  | _ => rfl

theorem content_isEmpty (h : words line = words other) :
    (content line).isEmpty = (content other).isEmpty :=
  Text.trim_isEmpty (Text.words_takeWhile (by decide) h)

theorem addBody_congr (hpart : part.isSpaced = true) (description : Description)
    (h : words line = words other)
    (hkeywords : keywords part (content line) = keywords part (content other)) :
    SameOk (addBody part description line) (addBody part description other) := by
  rw [addBody_eq hpart, addBody_eq hpart, content_isEmpty h]
  split
  · exact .refl _
  · exact addLine_congr hpart description (Reading.words_content h) hkeywords

end Description

namespace Reading

variable {description : Description} {reading next : Reading}

theorem step_eq_openNext {header : List Char}
    (h : header? { openSection := part } line = some header) (description : Description) :
    step ⟨part, description⟩ line = openNext ⟨part, description⟩ header := by
  rw [step, show header? ⟨part, description⟩ line = some header from h]

/-- A line leads to the section that it opens, or leaves the one that is open. -/
theorem openSection_step (h : step ⟨part, description⟩ line = .ok next) :
    next = ⟨part.next line, next.description⟩ := by
  unfold Section.next
  cases hheader : header? { openSection := part } line with
  | some header =>
    rw [step_eq_openNext hheader, openNext_eq, map_eq_ok] at h
    obtain ⟨after, -, rfl⟩ := h
    rfl
  | none =>
    rw [step_eq_addBody hheader, map_eq_ok] at h
    obtain ⟨after, -, rfl⟩ := h
    rfl

/-- Lines that differ in blanks alone are read alike if the same keywords are found. -/
theorem step_sameRow (h : SameRow part line other) (description : Description)
    (hkeywords : part.rowKeywords line = part.rowKeywords other) :
    SameOk (step ⟨part, description⟩ line) (step ⟨part, description⟩ other) := by
  cases h with
  | same => exact .refl _
  | @header _ first second hline hother hwords =>
    have hopens : openNext ⟨part, description⟩ first = openNext ⟨part, description⟩ second :=
      openNext_congr (by rw [hwords]) (by rw [hwords])
    rw [step_eq_openNext hline, step_eq_openNext hother, hopens]
    exact .refl _
  | row hpart hline hother hwords =>
    rw [step_eq_addBody hline, step_eq_addBody hother]
    simp only [Section.rowKeywords, hline, hother] at hkeywords
    exact (Description.addBody_congr hpart description hwords hkeywords).map _

/-- So are rows of them. -/
theorem foldlM_respaced (h : Respaced part lines others) (description : Description)
    (hkeywords : keywordsIn part lines = keywordsIn part others) :
    SameOk (lines.foldlM step ⟨part, description⟩) (others.foldlM step ⟨part, description⟩) := by
  induction h generalizing description with
  | nil => exact .refl _
  | cons hline _ ih =>
    obtain ⟨hrow, hrest⟩ := List.cons.inj hkeywords
    rw [← hline.next_eq] at hrest
    simp only [List.foldlM_cons]
    refine (step_sameRow hline description hrow).bind fun next hnext => ?_
    rw [openSection_step hnext]
    exact ih _ hrest

/-! ## Lines with other keywords -/

end Reading

namespace Description

variable {description next after : Description} {first second : List Char}

theorem isIdentifier_of_readIdentifier {text : List Char} {name : String}
    (h : readIdentifier text = .ok name) : Text.isIdentifier text = true := by
  unfold readIdentifier at h
  split at h
  · assumption
  · cases h

/-- A line that begins a uniform buffer has a colon, and a line of a member has none. -/
theorem opensWith_of_addUniformLine (h : words first = words second)
    (hfirst : description.addUniformLine first = .ok next)
    (hsecond : description.addUniformLine second = .ok after)
    (hopens : opensWith "ubuffer " first = true) : opensWith "ubuffer " second = true := by
  obtain ⟨rest, hrest⟩ := Option.isSome_iff_exists.mp hopens
  by_contra hother
  have hnone : Text.afterStart? "ubuffer ".toList second = none := by
    simpa [opensWith] using hother
  have hcolon : ':' ∈ second := by
    simp only [addUniformLine, hrest, bind_eq_ok] at hfirst
    obtain ⟨_, hnamed, -⟩ := hfirst
    rw [← Text.mem_congr (by decide) h, Text.eq_append_of_afterStart? hrest]
    unfold readNamedSlot at hnamed
    split at hnamed
    · cases hnamed
    · rename_i hcut
      rw [Text.cutAt?_eq_some hcut]
      simp
  simp only [addUniformLine, hnone, bind_eq_ok] at hsecond
  obtain ⟨field, hfield, -⟩ := hsecond
  unfold readField at hfield
  split at hfield
  · rename_i type name hwords
    simp only [bind_eq_ok] at hfield
    obtain ⟨_, -, _, hname, -⟩ := hfield
    have hkeyword : words first = "ubuffer".toList :: words rest :=
      words_of_afterStart? "ubuffer " (by decide) hrest
    rw [h, hwords] at hkeyword
    obtain ⟨word, hword, hmem⟩ := (Text.mem_iff_of_words (by decide)).mp hcolon
    rw [hwords, (List.cons.inj hkeyword).1, List.mem_cons, List.mem_singleton] at hword
    rcases hword with rfl | rfl
    · revert hmem
      decide
    · exact (Text.isPlain_of_isIdentifier (isIdentifier_of_readIdentifier hname)).not_mem
        (by decide) hmem
  · cases hfield

/-- The keywords that a sampler was read with are its first words. -/
theorem words_of_readSampler {sampler : SamplerBinding} (h : readSampler line = .ok sampler) :
    ∃ more, (keywords .samplers line = ["sampler "] ∧ words line = "sampler".toList :: more) ∨
      (keywords .samplers line = ["comparison ", "sampler "] ∧
        words line = "comparison".toList :: more) := by
  unfold readSampler at h
  cases hmark : Text.afterStart? "comparison ".toList line with
  | none =>
    simp only [hmark] at h
    split at h
    · cases h
    · rename_i rest hsampler
      have hopens : opensWith "sampler " line = true := by
        simp only [opensWith, hsampler, Option.isSome]
      refine ⟨words rest, .inl ⟨?_, ?_⟩⟩
      · simp only [keywords, hmark]
        simp [hopens]
      · exact words_of_afterStart? "sampler " (by decide) hsampler
  | some behind =>
    simp only [hmark] at h
    split at h
    · cases h
    · rename_i rest hsampler
      have hopens : opensWith "sampler " (Text.trimStart behind) = true := by
        simp only [opensWith, hsampler, Option.isSome]
      refine ⟨words behind, .inr ⟨?_, ?_⟩⟩
      · simp only [keywords, hmark]
        simp [hopens]
      · exact words_of_afterStart? "comparison " (by decide) hmark

/-- Both lines can be read only if they are found to begin with the same keywords, or they stand
among structures. -/
theorem keywords_of_addLine (hpart : part ≠ .structures) (h : words first = words second)
    (hfirst : description.addLine part first = .ok next)
    (hsecond : description.addLine part second = .ok after) :
    keywords part first = keywords part second := by
  cases part with
  | structures => exact absurd rfl hpart
  | uniformBuffers =>
    have hopens : opensWith "ubuffer " first = opensWith "ubuffer " second := by
      rw [Bool.eq_iff_iff]
      exact ⟨opensWith_of_addUniformLine h hfirst hsecond,
        opensWith_of_addUniformLine h.symm hsecond hfirst⟩
    simp only [keywords, List.filter_cons, List.filter_nil, hopens]
  | samplers =>
    simp only [addLine, bind_eq_ok] at hfirst hsecond
    obtain ⟨sampler, hsampler, -⟩ := hfirst
    obtain ⟨other, hother, -⟩ := hsecond
    obtain ⟨more, ⟨hkeywords, hwords⟩ | ⟨hkeywords, hwords⟩⟩ := words_of_readSampler hsampler <;>
    obtain ⟨rest, ⟨hothers, hsame⟩ | ⟨hothers, hsame⟩⟩ := words_of_readSampler hother <;>
    rw [hkeywords, hothers] <;>
    rw [h, hsame] at hwords <;>
    exact absurd (List.cons.inj hwords).1 (by decide)
  | _ => rfl

/-! ## Structures and their members -/

/-- The rows that structures stand for: one that begins a structure, and one for every member. -/
def structureRows (structures : List Structure) : List Bool :=
  structures.flatMap fun s => true :: s.members.map fun _ => false

/-- A line that is read begins a structure if it begins with the keyword. -/
theorem structureRows_addStructureLine (h : description.addStructureLine line = .ok next) :
    structureRows next.structures =
      structureRows description.structures ++ [opensWith "struct " line] := by
  unfold addStructureLine at h
  split at h
  · rename_i rest hrest
    simp only [bind_eq_ok, pure_eq_ok] at h
    obtain ⟨name, -, rfl⟩ := h
    have hopens : opensWith "struct " line = true := by simp only [opensWith, hrest, Option.isSome]
    rw [hopens]
    simp [structureRows]
  · rename_i hrest
    simp only [bind_eq_ok] at h
    obtain ⟨field, -, h⟩ := h
    split at h
    · rename_i structures hstructures
      obtain rfl := pure_eq_ok.mp h
      have hopens : opensWith "struct " line = false := by
        simp only [opensWith, hrest, Option.isSome]
      rw [hopens]
      exact flatMap_changeLast? (fun s : Structure => true :: s.members.map fun _ => false)
        (by simp) hstructures
    · cases h

/-- What a line of a section adds keeps the rows of structures, and puts one behind them at most. -/
theorem structureRows_addBody (h : addBody part description line = .ok next) :
    structureRows description.structures <+: structureRows next.structures := by
  by_cases hpart : part = .structures
  · subst hpart
    simp only [addBody] at h
    split at h
    · cases h
      exact List.prefix_refl _
    · exact ⟨_, (structureRows_addStructureLine h).symm⟩
  · rw [(actsOn_addBody part line).eq_withPart h]
    unfold withPart
    split <;> first | exact List.prefix_refl _ | exact absurd rfl hpart

end Description

namespace Reading

open Description (structureRows)

variable {description : Description} {reading next after final last : Reading}

theorem structureRows_step (h : reading.step line = .ok next) :
    structureRows reading.description.structures <+:
      structureRows next.description.structures := by
  rcases step_cases h with hsame | ⟨name, hstream⟩ | hadded
  · exact hsame ▸ List.prefix_refl _
  · exact hstream ▸ List.prefix_refl _
  · exact Description.structureRows_addBody hadded

theorem structureRows_foldlM (h : lines.foldlM step reading = .ok final) :
    structureRows reading.description.structures <+:
      structureRows final.description.structures := by
  refine foldlM_keeps (P := fun later : Reading => structureRows reading.description.structures <+:
    structureRows later.description.structures) ?_ h (List.prefix_refl _)
  intro later line next hstep hbefore
  exact hbefore.trans (structureRows_step hstep)

/-- If other keywords are found in a line and both lines are read, one begins a structure and the
other is a member. -/
theorem structureRows_of_ne (h : SameRow part line other)
    (hne : part.rowKeywords line ≠ part.rowKeywords other)
    (hline : step ⟨part, description⟩ line = .ok next)
    (hother : step ⟨part, description⟩ other = .ok after) :
    ∃ begins : Bool,
      structureRows next.description.structures =
        structureRows description.structures ++ [begins] ∧
      structureRows after.description.structures =
        structureRows description.structures ++ [!begins] := by
  cases h with
  | same => exact absurd rfl hne
  | header hline hother _ => simp [Section.rowKeywords, hline, hother] at hne
  | row hpart hheader hnone hwords =>
    simp only [Section.rowKeywords, hheader, hnone] at hne
    rw [step_eq_addBody hheader, map_eq_ok] at hline
    rw [step_eq_addBody hnone, map_eq_ok] at hother
    obtain ⟨next, hnext, rfl⟩ := hline
    obtain ⟨after, hafter, rfl⟩ := hother
    rw [Description.addBody_eq hpart] at hnext hafter
    rw [← Description.content_isEmpty hwords] at hafter
    by_cases hempty : (content line).isEmpty = true
    · -- Without content there are no keywords.
      have hnothing := hempty
      rw [Description.content_isEmpty hwords] at hnothing
      rw [List.isEmpty_iff.mp hempty, List.isEmpty_iff.mp hnothing] at hne
      exact absurd rfl hne
    · rw [if_neg hempty] at hnext hafter
      by_cases hstructures : part = .structures
      · subst hstructures
        refine ⟨opensWith "struct " (content line),
          Description.structureRows_addStructureLine hnext, ?_⟩
        have hopens : opensWith "struct " (content other) =
            !opensWith "struct " (content line) := by
          rw [Bool.eq_not]
          intro hsame
          exact hne (by simp only [keywords, List.filter_cons, List.filter_nil, hsame])
        rw [← hopens]
        exact Description.structureRows_addStructureLine hafter
      · exact absurd
          (Description.keywords_of_addLine hstructures (words_content hwords) hnext hafter) hne

/-- If other keywords are found in some line and all lines are read, the structures differ. -/
theorem structures_ne_of_foldlM (h : Respaced part lines others)
    (hne : keywordsIn part lines ≠ keywordsIn part others)
    (hlines : lines.foldlM step ⟨part, description⟩ = .ok final)
    (hothers : others.foldlM step ⟨part, description⟩ = .ok last) :
    final.description.structures ≠ last.description.structures := by
  induction h generalizing description with
  | nil => exact absurd rfl hne
  | @cons part line other rest more hline _ ih =>
    rw [List.foldlM_cons, bind_eq_ok] at hlines hothers
    obtain ⟨next, hnext, hrest⟩ := hlines
    obtain ⟨after, hafter, hmore⟩ := hothers
    by_cases hrow : part.rowKeywords line = part.rowKeywords other
    · -- This line is read alike, so the difference is behind it.
      obtain rfl : next = after := by
        have hsame := (step_sameRow hline description hrow next).mp hnext
        rw [hafter] at hsame
        exact (Except.ok.inj hsame).symm
      rw [openSection_step hnext] at hrest hmore
      refine ih ?_ hrest hmore
      rw [keywordsIn, keywordsIn, hrow, ← hline.next_eq] at hne
      exact fun hsame => hne (by rw [hsame])
    · -- The rows of structures differ behind this line, and go on from there.
      obtain ⟨begins, hrows, hrowsOther⟩ := structureRows_of_ne hline hrow hnext hafter
      have hbegin := structureRows_foldlM hrest
      have hbeginOther := structureRows_foldlM hmore
      rw [hrows] at hbegin
      rw [hrowsOther] at hbeginOther
      intro hsame
      rw [← hsame] at hbeginOther
      have hequal := (List.prefix_of_prefix_length_le hbegin hbeginOther (by simp)).eq_of_length
        (by simp)
      simpa using List.append_cancel_left hequal

end Reading

namespace Shader

open Description (linesOf)

variable {text other : String}

/-- Blanks between words do not change what a description is read to, if the same keywords are found
with them.  If not, no shader is read from the description with either. -/
theorem read_respaced (h : Respaced .preamble (linesOf text) (linesOf other)) :
    (keywordsIn .preamble (linesOf text) = keywordsIn .preamble (linesOf other) → ∀ shader,
      Shader.read text = .ok shader ↔ Shader.read other = .ok shader) ∧
    (keywordsIn .preamble (linesOf text) ≠ keywordsIn .preamble (linesOf other) → ∀ shader,
      Shader.read text = .ok shader → Shader.read other ≠ .ok shader) := by
  constructor
  · intro hkeywords shader
    simp only [read_iff_foldlM, Reading.foldlM_respaced h {} hkeywords _]
  · intro hne shader hread hother
    obtain ⟨final, hfinal, hmakes⟩ := read_iff_foldlM.mp hread
    obtain ⟨last, hlast, hmakesOther⟩ := read_iff_foldlM.mp hother
    refine Reading.structures_ne_of_foldlM h hne hfinal hlast ?_
    rw [← (Description.parts_of_makes hmakes).2, ← (Description.parts_of_makes hmakesOther).2]

/-- A description with a uniform buffer and its member. -/
def fogText (buffer member : String) : String :=
  "\n".intercalate ["%meta", "Name = Fog", "Stage = Pixel", "%ubuffers", buffer, member]

def fog : Shader where
  name := "Fog"
  stage := .pixel
  uniformBuffers := [⟨"Scene", 0, [⟨.scalar .float, "density", 0⟩]⟩]

theorem read_respaced_fog :
    Shader.read (fogText "ubuffer \tScene\t:  0" "  float\tdensity") = .ok fog ∧
      Shader.read (fogText "ubuffer\tScene : 0" "float density") ≠ .ok fog := by
  have hfog : Shader.read (fogText "ubuffer Scene : 0" "float density") = .ok fog := by
    decide +kernel
  have hspaces : Respaced .preamble (linesOf (fogText "ubuffer Scene : 0" "float density"))
      (linesOf (fogText "ubuffer \tScene\t:  0" "  float\tdensity")) := by decide +kernel
  have hkeywords : keywordsIn .preamble (linesOf (fogText "ubuffer Scene : 0" "float density")) =
      keywordsIn .preamble (linesOf (fogText "ubuffer \tScene\t:  0" "  float\tdensity")) := by
    decide +kernel
  have htab : Respaced .preamble (linesOf (fogText "ubuffer Scene : 0" "float density"))
      (linesOf (fogText "ubuffer\tScene : 0" "float density")) := by decide +kernel
  have hothers : keywordsIn .preamble (linesOf (fogText "ubuffer Scene : 0" "float density")) ≠
      keywordsIn .preamble (linesOf (fogText "ubuffer\tScene : 0" "float density")) := by
    decide +kernel
  exact ⟨((read_respaced hspaces).1 hkeywords fog).mp hfog,
    (read_respaced htab).2 hothers fog hfog⟩

/-- With a tab behind its keyword, the line of the buffer is taken for that of a member, and the
description is refused. -/
theorem read_tabbedFogText :
    Respaced .preamble (linesOf (fogText "ubuffer Scene : 0" "float density"))
        (linesOf (fogText "ubuffer\tScene : 0" "float density")) ∧
      Shader.read (fogText "ubuffer Scene : 0" "float density") = .ok fog ∧
      Shader.read (fogText "ubuffer\tScene : 0" "float density") =
        .error (.description 5 (.noField "ubuffer\tScene : 0")) := by
  decide +kernel

end Shader

end CrossShade
