import CrossShade.Proofs.Shader.ChangedLines

/-!
# Comments

A comment is cut off before a line is read, except in code and in the lines that open sections.

* `Description.withoutComment` is a text with the comment of one line cut off.
* `step_takeWhile` says that a comment plays no part in a line that is no header.
* `Reading.TakesComment` says which headers take a comment for a part of themselves: for their name
  or for their argument.  `openNext_takeWhile` is about those that do not, and
  `streams_ne_of_takesComment` about those that do.
* `streamNames_foldlM` says that the streams that were begun are found in the end.
* `read_withoutComment` is the conclusion.
-/

namespace CrossShade

namespace Text

variable {line : List Char}

/-- A comment begins at the first number sign. -/
theorem exists_eq_append_of_mem (hsign : '#' ∈ line) :
    ∃ comment, line = line.takeWhile (· ≠ '#') ++ '#' :: comment := by
  obtain ⟨kept, comment, rfl, hkept⟩ := List.eq_append_cons_of_mem hsign
  have hwhole := List.takeWhile_eq_self_iff.mp (takeWhile_of_not_mem hkept)
  exact ⟨comment, by rw [List.takeWhile_append_of_pos hwhole]; simp⟩

theorem not_mem_takeWhile (line : List Char) : '#' ∉ line.takeWhile (· ≠ '#') := by
  intro hsign
  have h := List.mem_takeWhile_imp hsign
  simp at h

end Text

namespace Description

/-- A line cut at its first number sign.  A carriage return at its end belongs to its ending. -/
def cutComment (line : List Char) : List Char :=
  line.takeWhile (· ≠ '#') ++ if '#' ∈ line ∧ line.getLast? = some '\r' then ['\r'] else []

/-- A text with one of its lines, counted from zero, cut at its first number sign. -/
def withoutComment (k : Nat) (text : String) : String :=
  changeLine k cutComment text

theorem cutComment_of_not_mem {line : List Char} (h : '#' ∉ line) : cutComment line = line := by
  rw [cutComment, if_neg fun hsign => h hsign.1, List.append_nil, Text.takeWhile_of_not_mem h]

end Description

namespace Reading

open Text (takeWhile_of_not_mem exists_eq_append_of_mem not_mem_takeWhile)

variable {reading next : Reading} {line header : List Char}

/-! ## Lines with comments -/

theorem ofName?_eq_none {name : List Char} (hsign : '#' ∈ name) : Section.ofName? name = none := by
  have hnames : ∀ entry ∈ Section.names, '#' ∉ entry.1.toList := by decide
  cases hfound : Section.ofName? name with
  | none => rfl
  | some part =>
    obtain ⟨before, after, hsplit, -⟩ := List.lookup_eq_some_iff.mp hfound
    have hentry := hnames (String.ofList name, part) (by simp [hsplit])
    exact absurd (by simpa using hsign) hentry

/-- A header that names a section, and its comment: the name stays, and so do the words behind it
up to the one that the comment begins in. -/
theorem words_of_namesSection (hnames : namesSection header = true) (hsign : '#' ∈ header) :
    ∃ name others part rest more,
      Text.words header = name :: others ++ (part ++ '#' :: rest) :: more ∧
      Text.words (header.takeWhile (· ≠ '#')) = name :: others ++ [part].filter (!·.isEmpty) := by
  obtain ⟨comment, hheader⟩ := exists_eq_append_of_mem hsign
  obtain ⟨earlier, part, rest, more, hwords, hcut, -⟩ :=
    Text.exists_words_append (c := '#') (by decide) (header.takeWhile (· ≠ '#')) comment
  rw [← hheader] at hwords
  cases earlier with
  | nil =>
    have hname : '#' ∈ part ++ '#' :: rest := List.mem_append_right part List.mem_cons_self
    simp [namesSection, hwords, ofName?_eq_none hname] at hnames
  | cons name others => exact ⟨name, others, part, rest, more, hwords, hcut⟩

/-- Without its comment a header names the same section. -/
theorem namesSection_takeWhile (hnames : namesSection header = true) :
    namesSection (header.takeWhile (· ≠ '#')) = true := by
  by_cases hsign : '#' ∈ header
  · obtain ⟨name, others, part, rest, more, hwords, hcut⟩ := words_of_namesSection hnames hsign
    rw [namesSection, hwords] at hnames
    rw [namesSection, hcut]
    exact hnames
  · rwa [takeWhile_of_not_mem hsign]

/-- Without its comment a line is not kept as code either. -/
theorem keepsLine_takeWhile (hkeeps : reading.keepsLine line = false) :
    reading.keepsLine (line.takeWhile (· ≠ '#')) = false := by
  cases hcode : reading.openSection.isCode with
  | false => simp [keepsLine, hcode]
  | true =>
    cases hheader : reading.header? line with
    | none => simp [keepsLine, hcode, hheader] at hkeeps
    | some header =>
      have hnames : namesSection header = true := by
        rw [eq_of_header? hheader] at hheader
        simpa [header?, hcode] using hheader
      have hcut := header?_of_namesSection (namesSection_takeWhile hnames) reading
      have hline : line.takeWhile (· ≠ '#') = '%' :: header.takeWhile (· ≠ '#') := by
        rw [eq_of_header? hheader]
        rfl
      rw [hline, keepsLine, hcut, Option.isNone_some, Bool.and_false]

/-- In a line that is no header a comment plays no part. -/
theorem step_takeWhile (hheader : reading.header? line = none)
    (hkeeps : reading.keepsLine line = false) :
    reading.step (line.takeWhile (· ≠ '#')) = reading.step line := by
  have hcode : reading.openSection.isCode = false := by simpa [keepsLine, hheader] using hkeeps
  have hcontent : content (line.takeWhile (· ≠ '#')) = content line := by
    rw [content, takeWhile_of_not_mem (not_mem_takeWhile line), content]
  have hnone : reading.header? (line.takeWhile (· ≠ '#')) = none := by
    refine header?_eq_none fun hhead => ?_
    rw [List.head?_takeWhile, Option.filter_eq_some_iff] at hhead
    obtain ⟨rest, rfl⟩ := List.head?_eq_some_iff.mp hhead.1
    simp [header?, hcode] at hheader
  exact step_congr hcode hheader hnone hcontent

/-! ## Headers with comments -/

/-- Whether the comment behind a header is taken for a part of it.  Only the name of a stream may
end before a comment; any other header has no place for one. -/
def TakesComment (header : List Char) : Prop :=
  '#' ∈ header ∧
    (Section.ofHeader header = .interface .stream →
      ∀ name ∈ (Text.words header)[1]?, '#' ∈ name)

instance (header : List Char) : Decidable (TakesComment header) :=
  inferInstanceAs (Decidable (_ ∧ _))

/-- All that a header can do that is read: only a stream has an argument, and it needs one. -/
theorem openNext_eq_ok (h : reading.openNext header = .ok next) :
    namesSection header = true ∧
      (Section.ofHeader header ≠ .interface .stream ∧ (Text.words header)[1]? = none ∨
        Section.ofHeader header = .interface .stream ∧ ∃ name,
          (Text.words header)[1]? = some name ∧ next.description.streams =
            reading.description.streams ++ [⟨String.ofList name, []⟩]) := by
  rw [namesSection_eq]
  unfold openNext at h
  cases hpart : Section.ofName? ((Text.words header).head?.getD []) with
  | none =>
    simp only [hpart] at h
    cases h
  | some part =>
    have hopened : Section.ofHeader header = part := by simp [Section.ofHeader, hpart]
    refine ⟨rfl, ?_⟩
    rw [hopened]
    by_cases hstream : part = .interface .stream
    · subst hstream
      cases hargument : (Text.words header)[1]? with
      | none => simp [hpart, hargument] at h
      | some name =>
        simp only [hpart, hargument, Except.ok.injEq] at h
        exact .inr ⟨rfl, name, rfl, h ▸ rfl⟩
    · cases hargument : (Text.words header)[1]? with
      | none => exact .inl ⟨hstream, rfl⟩
      | some argument => simp [hpart, hargument] at h

/-- A comment that is not taken for a part of a header plays no part. -/
theorem openNext_takeWhile (hnames : namesSection header = true) (htakes : ¬TakesComment header) :
    reading.openNext (header.takeWhile (· ≠ '#')) = reading.openNext header := by
  by_cases hsign : '#' ∈ header
  · obtain ⟨name, others, part, rest, more, hwords, hcut⟩ := words_of_namesSection hnames hsign
    cases others with
    | nil =>
      refine absurd ⟨hsign, fun _ argument hargument => ?_⟩ htakes
      rw [hwords] at hargument
      obtain rfl : part ++ '#' :: rest = argument := Option.some.inj hargument
      exact List.mem_append_right part List.mem_cons_self
    | cons argument others =>
      refine openNext_congr ?_ ?_
      · rw [hwords, hcut]
        rfl
      · rw [hwords, hcut]
        rfl
  · rw [takeWhile_of_not_mem hsign]

/-- A header that has a comment and does not take it is that of a stream. -/
theorem namesSection_of_not_takesComment (hsign : '#' ∈ header) (htakes : ¬TakesComment header) :
    namesSection header = true := by
  rw [namesSection_eq]
  cases hpart : Section.ofName? ((Text.words header).head?.getD []) with
  | none =>
    refine absurd ⟨hsign, fun hstream => ?_⟩ htakes
    simp [Section.ofHeader, hpart] at hstream
  | some part => rfl

/-- A comment that no header takes plays no part. -/
theorem step_takeWhile_of_not_takesComment (hkeeps : reading.keepsLine line = false)
    (htakes : ∀ header ∈ reading.header? line, ¬TakesComment header) :
    reading.step (line.takeWhile (· ≠ '#')) = reading.step line := by
  by_cases hsign : '#' ∈ line
  · cases hheader : reading.header? line with
    | none => exact step_takeWhile hheader hkeeps
    | some header =>
      obtain rfl := eq_of_header? hheader
      have hheaderSign : '#' ∈ header := (List.mem_cons.mp hsign).resolve_left (by decide)
      have hown := htakes header hheader
      have hnames := namesSection_of_not_takesComment hheaderSign hown
      show reading.step ('%' :: header.takeWhile (· ≠ '#')) = reading.step ('%' :: header)
      unfold step
      rw [header?_of_namesSection hnames, header?_of_namesSection (namesSection_takeWhile hnames)]
      exact openNext_takeWhile hnames hown
  · rw [takeWhile_of_not_mem hsign]

/-- A header that takes its comment is read both with and without it only if it begins a stream,
and then not one of the same name. -/
theorem streams_ne_of_takesComment {other : Reading} (hheader : reading.header? line = some header)
    (htakes : TakesComment header) (h : reading.step line = .ok next)
    (hcut : reading.step (line.takeWhile (· ≠ '#')) = .ok other) :
    ∃ name otherName, name ≠ otherName ∧
      next.description.streams = reading.description.streams ++ [⟨name, []⟩] ∧
      other.description.streams = reading.description.streams ++ [⟨otherName, []⟩] := by
  obtain ⟨hsign, hstream⟩ := htakes
  rw [step, hheader] at h
  obtain ⟨hnames, hread⟩ := openNext_eq_ok h
  obtain rfl := eq_of_header? hheader
  change reading.step ('%' :: header.takeWhile (· ≠ '#')) = .ok other at hcut
  rw [step, header?_of_namesSection (namesSection_takeWhile hnames)] at hcut
  obtain ⟨_, others, part, rest, more, hwords, hwordsCut⟩ := words_of_namesSection hnames hsign
  -- With its comment the header has an argument, so it begins a stream.
  obtain ⟨-, hnone⟩ | ⟨hopened, name, hname, hstreams⟩ := hread
  · rw [hwords] at hnone
    cases others <;> cases hnone
  have hsame : Section.ofHeader (header.takeWhile (· ≠ '#')) = Section.ofHeader header := by
    rw [Section.ofHeader, hwordsCut, Section.ofHeader, hwords]
    rfl
  obtain ⟨-, ⟨hopenedCut, -⟩ | ⟨-, otherName, hotherName, hstreamsCut⟩⟩ := openNext_eq_ok hcut
  · exact absurd (hsame.trans hopened) hopenedCut
  refine ⟨String.ofList name, String.ofList otherName, ?_, hstreams, hstreamsCut⟩
  -- Only the argument with the comment has a number sign.
  intro hequal
  obtain rfl := String.ofList_inj.mp hequal
  refine not_mem_takeWhile header (Text.subset_of_mem_words ?_ (hstream hopened name hname))
  exact List.mem_of_getElem? hotherName

/-! ## Streams stay -/

theorem streamNames_addVariable (description : Description) (group : VariableGroup) (v : Variable) :
    (description.addVariable group v).streams.map (·.name) =
      description.streams.map (·.name) := by
  cases group with
  | stream =>
    rcases List.eq_nil_or_concat description.streams with hnone | ⟨earlier, last, hsplit⟩
    · simp [Description.addVariable, hnone, changeLast?]
    · rw [List.concat_eq_append] at hsplit
      simp [Description.addVariable, hsplit, changeLast?_append]
  | _ => rfl

/-- A line that is no header leaves the names of the streams as they are. -/
theorem streamNames_addBody {part : Section} {description added : Description}
    (h : Description.addBody part description line = .ok added) :
    added.streams.map (·.name) = description.streams.map (·.name) := by
  by_cases hpart : part = .interface .stream
  · subst hpart
    simp only [Description.addBody, Description.addLine] at h
    split at h
    · cases h
      rfl
    · obtain ⟨v, -, h⟩ := bind_eq_ok.mp h
      cases h
      exact streamNames_addVariable description .stream v
  · rw [(Description.actsOn_addBody part line).eq_withPart h]
    unfold Description.withPart
    split <;> first | rfl | exact absurd rfl hpart

/-- Streams are only added. -/
theorem streamNames_step (h : reading.step line = .ok next) :
    reading.description.streams.map (·.name) <+: next.description.streams.map (·.name) := by
  rcases step_cases h with hsame | ⟨name, hstream⟩ | hadded
  · exact hsame ▸ List.prefix_refl _
  · simp [hstream]
  · exact streamNames_addBody hadded ▸ List.prefix_refl _

theorem streamNames_foldlM {lines : List (List Char)} (h : lines.foldlM step reading = .ok next) :
    reading.description.streams.map (·.name) <+: next.description.streams.map (·.name) := by
  refine foldlM_keeps (P := fun later : Reading => reading.description.streams.map (·.name) <+:
    later.description.streams.map (·.name)) ?_ h (List.prefix_refl _)
  intro later line next hstep hbefore
  exact hbefore.trans (streamNames_step hstep)

end Reading

namespace Description

variable {text : String} {k : Nat} {reading : Reading} {line : List Char}

/-! ## Texts with comments -/

/-- Whether a line is kept as code. -/
def isCodeAt (text : String) (k : Nat) : Bool :=
  (lineAt? text k).any fun (reading, line) => reading.keepsLine line

/-- The header that a line is. -/
def headerAt? (text : String) (k : Nat) : Option (List Char) :=
  (lineAt? text k).bind fun (reading, line) => reading.header? line

/-- A comment that is cut off leaves what stands before it, and blanks. -/
theorem exists_cutComment {blanks : List Char} (hblanks : ∀ c ∈ blanks, Text.isBlank c = true)
    (line : List Char) :
    ∃ others, cutComment (line ++ blanks) = line.takeWhile (· ≠ '#') ++ others ∧
      ∀ c ∈ others, Text.isBlank c = true := by
  have hplain : '#' ∉ blanks := Text.not_mem_blanks hblanks (by decide)
  by_cases hsign : '#' ∈ line
  · have hcut : (line ++ blanks).takeWhile (· ≠ '#') = line.takeWhile (· ≠ '#') := by
      rw [List.takeWhile_append, if_neg]
      intro hlength
      have hwhole := (List.takeWhile_prefix (· ≠ '#')).eq_of_length hlength
      rw [← hwhole] at hsign
      exact Text.not_mem_takeWhile line hsign
    rw [cutComment, hcut]
    refine ⟨_, rfl, ?_⟩
    split
    · rw [List.forall_mem_singleton]
      decide
    · exact nofun
  · have hnone : '#' ∉ line ++ blanks := by simp [hsign, hplain]
    exact ⟨blanks, by rw [cutComment_of_not_mem hnone, Text.takeWhile_of_not_mem hsign], hblanks⟩

theorem noFeed_cutComment {raw : List Char} (hraw : '\n' ∉ raw) : '\n' ∉ cutComment raw := by
  intro hfeed
  rcases List.mem_append.mp hfeed with hkept | hreturn
  · exact hraw ((List.takeWhile_prefix _).subset hkept)
  · split at hreturn
    · simp at hreturn
    · cases hreturn

/-- A text and the text with a comment cut off are read alike before its line and behind it. -/
theorem foldlM_withoutComment (h : lineAt? text k = some (reading, line))
    (hkeeps : reading.keepsLine line = false) :
    ∃ behind : List (List Char),
      (linesOf text).foldlM Reading.step {} = reading.step line >>= behind.foldlM Reading.step ∧
      (linesOf (withoutComment k text)).foldlM Reading.step {} =
        reading.step (line.takeWhile (· ≠ '#')) >>= behind.foldlM Reading.step :=
  foldlM_changeLine h hkeeps (Reading.keepsLine_takeWhile hkeeps) (fun _ => noFeed_cutComment)
    fun _ hblanks => exists_cutComment hblanks line

/-- The streams that were begun before some lines are the first ones of the shader. -/
theorem streamNames_of_makes {last : Reading} {behind : List (List Char)} {shader : Shader}
    (hread : behind.foldlM Reading.step reading = .ok last) (h : last.description.Makes shader) :
    reading.description.streams.map (·.name) <+: shader.streams.map (·.name) := by
  rw [(parts_of_makes h).1]
  exact Reading.streamNames_foldlM hread

end Description

namespace Shader

open Description (linesOf lineAt? isCodeAt headerAt? withoutComment)

variable {text : String} {shader : Shader} {k : Nat}

/-- Cutting off the comment of a line that is not kept as code does not change what a description
is read to, if the line is no header that takes the comment.  If it is, no shader is read from the
description both with and without the comment. -/
theorem read_withoutComment (hk : k < (linesOf text).length) (hcode : isCodeAt text k = false) :
    ((∀ header ∈ headerAt? text k, ¬Reading.TakesComment header) → ∀ shader,
      Shader.read text = .ok shader ↔ Shader.read (withoutComment k text) = .ok shader) ∧
    ∀ header ∈ headerAt? text k, Reading.TakesComment header → ∀ shader,
      Shader.read text = .ok shader → Shader.read (withoutComment k text) ≠ .ok shader := by
  cases hline : lineAt? text k with
  | none =>
    -- The line is not reached, so neither description is read.
    obtain ⟨fault, hfault, hfaultCut⟩ :=
      Description.not_read_of_lineAt?_eq_none hk hline Description.cutComment
    constructor
    · intro _ shader
      simp only [read_iff_foldlM, withoutComment, hfault, hfaultCut]
    · intro header hheader
      simp [headerAt?, hline] at hheader
  | some place =>
    obtain ⟨reading, line⟩ := place
    simp only [isCodeAt, headerAt?, hline, Option.any_some, Option.bind_some] at hcode ⊢
    obtain ⟨behind, htext, hcut⟩ := Description.foldlM_withoutComment hline hcode
    constructor
    · intro htakes shader
      rw [read_iff_foldlM, read_iff_foldlM, htext, hcut,
        Reading.step_takeWhile_of_not_takesComment hcode htakes]
    · intro header hheader htakes shader hread hreadCut
      rw [read_iff_foldlM, htext] at hread
      rw [read_iff_foldlM, hcut] at hreadCut
      obtain ⟨last, hlast, hmakes⟩ := hread
      obtain ⟨lastCut, hlastCut, hmakesCut⟩ := hreadCut
      obtain ⟨next, hnext, hbehind⟩ := bind_eq_ok.mp hlast
      obtain ⟨nextCut, hnextCut, hbehindCut⟩ := bind_eq_ok.mp hlastCut
      obtain ⟨name, nameCut, hne, hstreams, hstreamsCut⟩ :=
        Reading.streams_ne_of_takesComment hheader htakes hnext hnextCut
      have hbegin := Description.streamNames_of_makes hbehind hmakes
      have hbeginCut := Description.streamNames_of_makes hbehindCut hmakesCut
      rw [hstreams, List.map_append] at hbegin
      rw [hstreamsCut, List.map_append] at hbeginCut
      -- Both begin the same list, and they are of the same length.
      have hsame := (List.prefix_of_prefix_length_le hbegin hbeginCut (by simp)).eq_of_length
        (by simp)
      exact hne (by simpa using List.append_cancel_left hsame)

/-- A description with a comment behind a property, and code that looks like one. -/
def candleText : String :=
  "\n".intercalate ["%meta", "Name = Candle # lit", "Profile = vs_5_0", "%code_main", "# kept"]

def candle : Shader where
  name := "Candle"
  stage := .vertex
  profile := "vs_5_0"
  mainCode := ["# kept"]

/-- A description with a comment behind the name of a stream. -/
def fanText : String :=
  "\n".intercalate ["%meta", "Name = Fan", "Profile = gs_5_0", "%output_stream Rays# of light",
    "float4 place : SV_Position"]

def fan : Shader where
  name := "Fan"
  stage := .geometry
  profile := "gs_5_0"
  streams := [⟨"Rays#", [⟨.vector .float 4, "place", some "SV_Position", .unspecified, true⟩]⟩]

theorem read_withoutComment_candle :
    Shader.read (withoutComment 1 candleText) = .ok candle ∧
      Shader.read fanText = .ok fan ∧ Shader.read (withoutComment 3 fanText) ≠ .ok fan := by
  have hcandle : Shader.read candleText = .ok candle := by decide +kernel
  have hfan : Shader.read fanText = .ok fan := by decide +kernel
  have hlit : isCodeAt candleText 1 = false := by decide +kernel
  have hrays : isCodeAt fanText 3 = false := by decide +kernel
  have htakes : ∃ header ∈ headerAt? fanText 3, Reading.TakesComment header :=
    ⟨"output_stream Rays# of light".toList, by decide +kernel, by decide +kernel⟩
  obtain ⟨header, hheader, htaken⟩ := htakes
  refine ⟨?_, hfan, ?_⟩
  · have huntaken : ∀ header ∈ headerAt? candleText 1, ¬Reading.TakesComment header := by
      decide +kernel
    exact ((read_withoutComment (by decide +kernel) hlit).1 huntaken candle).mp hcandle
  · exact (read_withoutComment (by decide +kernel) hrays).2 header hheader htaken fan hfan

/-- A description with a comment behind a header that has no argument. -/
def titleText : String :=
  "\n".intercalate ["%meta # a title", "Name = Title", "Stage = Vertex"]

/-- Its comment is taken for an argument, and the description is refused. -/
theorem read_titleText :
    0 < (linesOf titleText).length ∧ isCodeAt titleText 0 = false ∧
      Shader.read titleText = .error (.description 1 (.sectionArgument "meta")) ∧
      Shader.read (withoutComment 0 titleText) =
        .ok { name := "Title", stage := .vertex } := by
  decide +kernel

end Shader

end CrossShade
