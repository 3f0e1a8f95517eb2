import CrossShade.Proofs.Shader.Parts

/-!
# Blocks of a description

The lines of a description, cut at the headers of its sections.

* `SectionBlock.cut` cuts lines into those before the first header and the blocks that headers
  begin.  `lines_cut` puts them together again, and `cut_lines` says that blocks are found in the
  lines that they are put together to.
* `openNext_eq` and `step_eq_addBody` say what one line adds to what was read, with the open section
  and the description kept apart.
* `foldlM_step_eq` reads lines block by block.
-/

namespace CrossShade

/-- The section that a header names, given what follows its percent sign.  A header that names none
is refused. -/
def Section.ofHeader (header : List Char) : Section :=
  (Section.ofName? ((Text.words header).head?.getD [])).getD .preamble

/-- A header, without its percent sign, and the lines up to the next header. -/
structure SectionBlock where
  header : List Char
  body : List (List Char)
  deriving Repr, DecidableEq

namespace SectionBlock

/-- The section that a block belongs to. -/
def kind (block : SectionBlock) : Section :=
  .ofHeader block.header

/-- The lines of a block. -/
def lines (block : SectionBlock) : List (List Char) :=
  ('%' :: block.header) :: block.body

/-- Lines cut at their headers: those before the first header, and the blocks.  Which lines are
headers depends on the section that is open. -/
def cut (openSection : Section) : List (List Char) → List (List Char) × List SectionBlock
  | [] => ([], [])
  | line :: rest =>
    match Reading.header? { openSection } line with
    | some header =>
      let parts := cut (.ofHeader header) rest
      ([], ⟨header, parts.1⟩ :: parts.2)
    | none =>
      let parts := cut openSection rest
      (line :: parts.1, parts.2)

end SectionBlock

namespace Description

/-- What a header adds to a description: streams begin with theirs. -/
def addHeader (description : Description) (header : List Char) : Except LineFault Description :=
  (·.description) <$> Reading.openNext { description } header

/-- What a line of a section adds that is no header. -/
def addBody (part : Section) (description : Description) (line : List Char) :
    Except LineFault Description :=
  match part with
  | .code block => .ok (description.addCode block line)
  | part =>
    if (Reading.content line).isEmpty then .ok description
    else description.addLine part (Reading.content line)

/-- What a block adds. -/
def addBlock (description : Description) (block : SectionBlock) : Except LineFault Description := do
  block.body.foldlM (addBody block.kind) (← description.addHeader block.header)

end Description

open Description (ActsOn addHeader addBody addBlock)

namespace Reading

variable {reading final : Reading} {openSection : Section} {description after : Description}
  {header line : List Char} {lines : List (List Char)} {number : Nat}

/-! ## Single lines -/

theorem namesSection_eq (header : List Char) :
    namesSection header = (Section.ofName? ((Text.words header).head?.getD [])).isSome := by
  unfold namesSection
  cases (Text.words header).head? <;> rfl

/-- All that a header can do: it is refused, it opens a section without an argument, or it begins a
stream.  What was read before and which section was open play no part in that. -/
theorem openNext_cases (header : List Char) :
    (∃ fault, ∀ reading : Reading, reading.openNext header = .error fault) ∨
    (namesSection header = true ∧ ∀ reading : Reading,
      reading.openNext header = .ok { reading with openSection := .ofHeader header }) ∨
    (namesSection header = true ∧ Section.ofHeader header = .interface .stream ∧
      ∃ name, ∀ reading : Reading, reading.openNext header = .ok ⟨.interface .stream,
        { reading.description with streams := reading.description.streams ++ [⟨name, []⟩] }⟩) := by
  have hnames := namesSection_eq header
  cases hpart : Section.ofName? ((Text.words header).head?.getD []) with
  | none =>
    refine .inl ⟨.unknownSection (String.ofList ((Text.words header).head?.getD [])), fun _ => ?_⟩
    simp only [openNext, hpart]
  | some part =>
    have hopened : Section.ofHeader header = part := by simp [Section.ofHeader, hpart]
    rw [hpart] at hnames
    rw [hopened]
    by_cases hstream : part = .interface .stream
    · subst hstream
      cases hargument : (Text.words header)[1]? with
      | none => exact .inl ⟨.streamWithoutName, fun _ => by simp only [openNext, hpart, hargument]⟩
      | some name =>
        refine .inr (.inr ⟨hnames, rfl, String.ofList name, fun _ => ?_⟩)
        simp only [openNext, hpart, hargument]
    · cases hargument : (Text.words header)[1]? with
      | none => exact .inr (.inl ⟨hnames, fun _ => by simp [openNext, hpart, hargument]⟩)
      | some argument =>
        exact .inl ⟨.sectionArgument _, fun _ => by simp [openNext, hpart, hargument]; rfl⟩

/-- A header opens its section and adds to what was read. -/
theorem openNext_eq (reading : Reading) (header : List Char) :
    reading.openNext header =
      Reading.mk (.ofHeader header) <$> reading.description.addHeader header := by
  unfold addHeader
  rcases openNext_cases header with ⟨fault, h⟩ | ⟨-, h⟩ | ⟨-, hstream, name, h⟩
  · rw [h, h]
    rfl
  · rw [h, h]
    rfl
  · rw [h, h, hstream]
    rfl

/-- Only a header that names a section is read. -/
theorem namesSection_of_addHeader (h : description.addHeader header = .ok after) :
    namesSection header = true := by
  unfold addHeader at h
  rcases openNext_cases header with ⟨fault, hall⟩ | ⟨hnames, -⟩ | ⟨hnames, -⟩
  · rw [hall] at h
    cases h
  · exact hnames
  · exact hnames

/-- So it is a header whatever section is open before it. -/
theorem header?_of_namesSection (h : namesSection header = true) (reading : Reading) :
    reading.header? ('%' :: header) = some header := by
  simp [header?, h]

/-- A header is the text behind the percent sign. -/
theorem eq_of_header? (h : reading.header? line = some header) : line = '%' :: header := by
  unfold header? at h
  split at h
  · split at h
    · rw [Option.some.inj h]
    · cases h
  · cases h

/-- A line that is no header adds to what was read, and the section stays open. -/
theorem step_eq_addBody (h : header? { openSection } line = none) (description : Description) :
    step ⟨openSection, description⟩ line =
      Reading.mk openSection <$> addBody openSection description line := by
  have hnone : header? ⟨openSection, description⟩ line = none := h
  rw [step, hnone]
  cases openSection with
  | code block => rfl
  | _ =>
    show (if (content line).isEmpty then _ else _) = _
    simp only [addBody]
    split
    · rfl
    · cases description.addLine _ (content line) <;> rfl

/-- All that a line can do to what was read: leave it as it is, begin a stream, or add to the
section that it stands in. -/
theorem step_cases {next : Reading} (h : reading.step line = .ok next) :
    next.description = reading.description ∨
    (∃ name, next.description =
      { reading.description with streams := reading.description.streams ++ [⟨name, []⟩] }) ∨
    addBody reading.openSection reading.description line = .ok next.description := by
  cases hheader : reading.header? line with
  | some header =>
    simp only [step, hheader] at h
    rcases openNext_cases header with ⟨fault, hall⟩ | ⟨-, hall⟩ | ⟨-, -, name, hall⟩
    · rw [hall] at h
      cases h
    · rw [hall] at h
      cases h
      exact .inl rfl
    · rw [hall] at h
      cases h
      exact .inr (.inl ⟨name, rfl⟩)
  | none =>
    rw [step_eq_addBody hheader, map_eq_ok] at h
    obtain ⟨added, hadded, rfl⟩ := h
    exact .inr (.inr hadded)

/-- A description is read if every line is; the numbers of lines play no part in that. -/
theorem steps_eq_ok_iff :
    reading.steps number lines = .ok final ↔ lines.foldlM step reading = .ok final := by
  induction lines generalizing reading number with
  | nil => simp [steps, pure, Except.pure]
  | cons line rest ih =>
    rw [steps, List.foldlM_cons]
    cases reading.step line with
    | error fault => simp
    | ok next => exact ih

end Reading

namespace SectionBlock

open Reading (header? namesSection)

variable {block : SectionBlock} {blocks : List SectionBlock} {openSection part : Section}
  {description after : Description} {lines leading rest : List (List Char)}

/-! ## Cutting -/

/-- A block whose header names a section and whose other lines are no headers inside it. -/
structure IsBlock (block : SectionBlock) : Prop where
  named : namesSection block.header = true
  body : ∀ line ∈ block.body, header? { openSection := block.kind } line = none

/-- Nothing is lost. -/
theorem lines_cut (openSection : Section) (lines : List (List Char)) :
    (cut openSection lines).1 ++ (cut openSection lines).2.flatMap SectionBlock.lines = lines := by
  fun_induction cut openSection lines with
  | case1 => rfl
  | case2 openSection line rest header hheader parts ih =>
    rw [Reading.eq_of_header? hheader]
    simp [SectionBlock.lines, parts, ih]
  | case3 openSection line rest hheader parts ih => simp [parts, ih]

/-- The lines before the first header are no headers. -/
theorem header?_of_mem_cut {line : List Char} (h : line ∈ (cut openSection lines).1) :
    header? { openSection } line = none := by
  fun_induction cut openSection lines with
  | case1 => cases h
  | case2 => cases h
  | case3 openSection first rest hheader parts ih =>
    rcases List.mem_cons.mp h with rfl | hrest
    · exact hheader
    · exact ih hrest

/-- Nor are the lines of a block, except for the first. -/
theorem header?_of_mem_body {line : List Char} (hblock : block ∈ (cut openSection lines).2)
    (hline : line ∈ block.body) : header? { openSection := block.kind } line = none := by
  fun_induction cut openSection lines with
  | case1 => cases hblock
  | case2 openSection first rest header hheader parts ih =>
    rcases List.mem_cons.mp hblock with rfl | hrest
    · exact header?_of_mem_cut hline
    · exact ih hrest
  | case3 openSection first rest hheader parts ih => exact ih hblock

theorem cut_append (h : ∀ line ∈ leading, header? { openSection } line = none)
    (rest : List (List Char)) :
    cut openSection (leading ++ rest) =
      (leading ++ (cut openSection rest).1, (cut openSection rest).2) := by
  induction leading with
  | nil => rfl
  | cons line more ih =>
    have hmore := ih fun other hother => h other (List.mem_cons_of_mem line hother)
    rw [List.cons_append, cut, h line List.mem_cons_self]
    simp only [hmore, List.cons_append]

/-- Blocks are found again in their lines, whatever section is open before them. -/
theorem cut_flatMap (h : ∀ block ∈ blocks, block.IsBlock) (openSection : Section) :
    cut openSection (blocks.flatMap SectionBlock.lines) = ([], blocks) := by
  induction blocks generalizing openSection with
  | nil => rfl
  | cons block rest ih =>
    obtain ⟨hnamed, hbody⟩ := h block List.mem_cons_self
    have hrest := ih (fun other hother => h other (List.mem_cons_of_mem block hother)) block.kind
    have hcut := cut_append hbody (rest.flatMap SectionBlock.lines)
    rw [hrest, List.append_nil] at hcut
    rw [List.flatMap_cons, SectionBlock.lines, List.cons_append, cut,
      Reading.header?_of_namesSection hnamed]
    show ([], ⟨block.header, (cut block.kind _).1⟩ :: (cut block.kind _).2) = _
    rw [hcut]

theorem cut_lines (hleading : ∀ line ∈ leading, header? { openSection } line = none)
    (hblocks : ∀ block ∈ blocks, block.IsBlock) :
    cut openSection (leading ++ blocks.flatMap SectionBlock.lines) = (leading, blocks) := by
  rw [cut_append hleading, cut_flatMap hblocks, List.append_nil]

/-! ## Reading -/

/-- Lines are read block by block. -/
theorem foldlM_step_eq (openSection : Section) (description : Description)
    (lines : List (List Char)) :
    (·.description) <$> lines.foldlM Reading.step ⟨openSection, description⟩ =
      (cut openSection lines).1.foldlM (addBody openSection) description >>=
        (cut openSection lines).2.foldlM addBlock := by
  fun_induction cut openSection lines generalizing description with
  | case1 => rfl
  | case2 openSection line rest header hheader parts ih =>
    have hstep : Reading.step ⟨openSection, description⟩ line =
        Reading.mk (.ofHeader header) <$> description.addHeader header := by
      have hsome : header? ⟨openSection, description⟩ line = some header := hheader
      rw [Reading.step, hsome]
      exact Reading.openNext_eq _ header
    rw [List.foldlM_cons, List.foldlM_nil, hstep]
    show _ = List.foldlM addBlock description (⟨header, parts.1⟩ :: parts.2)
    rw [List.foldlM_cons]
    show _ = (addHeader description header >>= fun opened =>
      parts.1.foldlM (addBody (.ofHeader header)) opened) >>= _
    cases description.addHeader header with
    | error fault => rfl
    | ok opened => exact ih opened
  | case3 openSection line rest hheader parts ih =>
    rw [List.foldlM_cons, List.foldlM_cons, Reading.step_eq_addBody hheader]
    cases addBody openSection description line with
    | error fault => rfl
    | ok added => exact ih added

/-- The blocks of lines that are read are blocks in every order. -/
theorem isBlock_of_foldlM (h : (cut openSection lines).2.foldlM addBlock description = .ok after)
    (hblock : block ∈ (cut openSection lines).2) : block.IsBlock := by
  refine ⟨?_, fun line hline => header?_of_mem_body hblock hline⟩
  generalize (cut openSection lines).2 = blocks at h hblock
  induction blocks generalizing description with
  | nil => cases hblock
  | cons first rest ih =>
    rw [List.foldlM_cons, bind_eq_ok] at h
    obtain ⟨next, hfirst, hrest⟩ := h
    rcases List.mem_cons.mp hblock with rfl | hmem
    · unfold addBlock at hfirst
      obtain ⟨opened, hopened, -⟩ := bind_eq_ok.mp hfirst
      exact Reading.namesSection_of_addHeader hopened
    · exact ih hrest hmem

end SectionBlock

end CrossShade
