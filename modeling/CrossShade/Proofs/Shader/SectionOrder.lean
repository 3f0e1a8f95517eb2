import CrossShade.Proofs.Shader.SectionBlocks
import CrossShade.Proofs.Text.Cutting

/-!
# The order of sections

Blocks of different kinds of sections may stand in any order.

* `foldlM_addBlock_iff` is the main lemma: blocks are read if those of each kind are read on their
  own, and each kind gives its own part of what is read.
* `Description.exists_linesOf_eq` writes lines as a text.
* `Shader.read_of_reordered` is the statement on texts: neighbours of different kinds can be
  exchanged, and blocks can be reordered in any way that keeps the order within each kind.
-/

namespace CrossShade

namespace Description

variable {description after : Description} {part : Section} {block : SectionBlock}
  {blocks : List SectionBlock} {header : List Char}

/-! ## Blocks of one kind -/

theorem actsOn_addHeader (header : List Char) :
    ActsOn (.ofHeader header) fun description => description.addHeader header := by
  intro frame source
  rcases Reading.openNext_cases header with ⟨fault, h⟩ | ⟨-, h⟩ | ⟨-, hstream, name, h⟩
  · simp only [addHeader, h]
    rfl
  · simp only [addHeader, h]
    rfl
  · simp only [addHeader, h, hstream]
    rfl

theorem actsOn_addBody (part : Section) (line : List Char) :
    ActsOn part fun description => addBody part description line := by
  cases part with
  | code block => exact actsOn_addCode block line
  | _ =>
    simp only [addBody]
    split
    · exact actsOn_pure _
    · exact actsOn_addLine _ _

/-- A block concerns the part of its section. -/
theorem actsOn_addBlock (block : SectionBlock) :
    ActsOn block.kind fun description => description.addBlock block :=
  (actsOn_addHeader block.header).bind
    (actsOn_foldlM fun line _ => actsOn_addBody block.kind line)

theorem actsOn_foldlM_filter (part : Section) (blocks : List SectionBlock) :
    ActsOn part fun description =>
      (blocks.filter (·.kind = part)).foldlM addBlock description := by
  refine actsOn_foldlM ?_
  intro block hblock
  have hkind : block.kind = part := by simpa using (List.mem_filter.mp hblock).2
  exact hkind ▸ actsOn_addBlock block

/-- Blocks are read if the blocks of each kind are, each kind for its own part of what is read. -/
theorem foldlM_addBlock_iff :
    blocks.foldlM addBlock description = .ok after ↔
      ∀ part, (blocks.filter (·.kind = part)).foldlM addBlock description =
        .ok (description.withPart part after) := by
  induction blocks generalizing description with
  | nil =>
    simp only [List.filter_nil, List.foldlM_nil, pure_eq_ok]
    constructor
    · rintro rfl part
      exact (withPart_self description part).symm
    · intro h
      exact (eq_of_forall_withPart fun part => (h part).symm).symm
  | cons block rest ih =>
    -- The other kinds do not see what the first block adds.
    have hothers : ∀ {next}, description.addBlock block = .ok next → ∀ part, part ≠ block.kind →
        ((rest.filter (·.kind = part)).foldlM addBlock next = .ok (next.withPart part after) ↔
          (rest.filter (·.kind = part)).foldlM addBlock description =
            .ok (description.withPart part after)) := by
      intro next hblock part hne
      have hnext := (actsOn_addBlock block).eq_withPart hblock
      rw [hnext]
      exact (actsOn_foldlM_filter part rest).ok_withPart_iff hne next
    have hown : ∀ {next}, description.addBlock block = .ok next →
        next.withPart block.kind after = description.withPart block.kind after := by
      intro next hblock
      rw [(actsOn_addBlock block).eq_withPart hblock, withPart_withPart]
    rw [List.foldlM_cons, bind_eq_ok]
    constructor
    · rintro ⟨next, hblock, hrest⟩ part
      have hpart := ih.mp hrest part
      by_cases hkind : block.kind = part
      · subst hkind
        rw [List.filter_cons_of_pos (by simp), List.foldlM_cons, hblock, ← hown hblock]
        exact hpart
      · rw [List.filter_cons_of_neg (by simpa using hkind)]
        exact (hothers hblock part (Ne.symm hkind)).mp hpart
    · intro h
      have hfirst := h block.kind
      rw [List.filter_cons_of_pos (by simp), List.foldlM_cons, bind_eq_ok] at hfirst
      obtain ⟨next, hblock, hsame⟩ := hfirst
      refine ⟨next, hblock, ih.mpr ?_⟩
      intro part
      by_cases hkind : block.kind = part
      · subst hkind
        rw [hown hblock]
        exact hsame
      · have hpart := h part
        rw [List.filter_cons_of_neg (by simpa using hkind)] at hpart
        exact (hothers hblock part (Ne.symm hkind)).mpr hpart

end Description

namespace SectionBlock

variable {first second block : SectionBlock} {blocks others : List SectionBlock}

/-- The same blocks, in the same order within each kind. -/
def SameOrder (others blocks : List SectionBlock) : Prop :=
  ∀ part : Section, others.filter (·.kind = part) = blocks.filter (·.kind = part)

theorem SameOrder.mem (h : SameOrder others blocks) (hblock : block ∈ others) : block ∈ blocks := by
  have hkind : block ∈ others.filter (·.kind = block.kind) := by simpa using hblock
  rw [h] at hkind
  exact List.mem_of_mem_filter hkind

/-- Neighbours of different kinds can be exchanged. -/
theorem sameOrder_exchange (hne : first.kind ≠ second.kind) (before after : List SectionBlock) :
    SameOrder (before ++ second :: first :: after) (before ++ first :: second :: after) := by
  intro part
  rw [List.filter_append, List.filter_append]
  congr 1
  by_cases hfirst : first.kind = part
  · have hsecond : second.kind ≠ part := fun h => hne (hfirst.trans h.symm)
    simp [hfirst, hsecond]
  · simp [List.filter_cons, hfirst]

end SectionBlock

namespace Description

open SectionBlock (SameOrder)

variable {description : Description} {text : String}

/-! ## Texts -/

/-- The lines of a description before its first section. -/
def leadingLines (text : String) : List (List Char) :=
  (SectionBlock.cut .preamble (linesOf text)).1

/-- The blocks of a description, in their order. -/
def sectionBlocks (text : String) : List SectionBlock :=
  (SectionBlock.cut .preamble (linesOf text)).2

theorem linesOf_eq (text : String) :
    linesOf text = leadingLines text ++ (sectionBlocks text).flatMap SectionBlock.lines :=
  (SectionBlock.lines_cut .preamble (linesOf text)).symm

theorem noFeed_of_mem_linesOf {line : List Char} (h : line ∈ linesOf text) : '\n' ∉ line := by
  obtain ⟨ended, hended, rfl⟩ := List.mem_map.mp h
  intro hfeed
  exact Text.noFeed_of_mem_lines hended (Text.dropReturn_subset ended hfeed)

/-- Lines without line feeds are the lines of a text. -/
theorem exists_linesOf_eq {lines : List (List Char)} (h : ∀ line ∈ lines, '\n' ∉ line) :
    ∃ text : String, linesOf text = lines := by
  refine ⟨.ofList ((lines.map (· ++ ['\r', '\r'])).flatMap (· ++ ['\n'])), ?_⟩
  rw [linesOf, String.toList_ofList]
  exact Text.map_dropReturn_lines h

/-- The blocks of a description can be written down in another order. -/
theorem exists_linesOf_reordered {blocks : List SectionBlock}
    (h : SameOrder blocks (sectionBlocks text)) :
    ∃ other : String, linesOf other = leadingLines text ++ blocks.flatMap SectionBlock.lines := by
  refine exists_linesOf_eq fun line hline => ?_
  suffices hold : line ∈ linesOf text from noFeed_of_mem_linesOf hold
  rw [linesOf_eq text]
  rcases List.mem_append.mp hline with hleading | hblocks
  · exact List.mem_append_left _ hleading
  · obtain ⟨block, hblock, hbody⟩ := List.mem_flatMap.mp hblocks
    exact List.mem_append_right _ (List.mem_flatMap.mpr ⟨block, h.mem hblock, hbody⟩)

/-- Whether a description makes a shader does not depend on the number of its last line. -/
theorem shader_eq_ok_iff {shader : Shader} {first second : Nat} :
    description.shader first = .ok shader ↔ description.shader second = .ok shader := by
  unfold Description.shader
  cases description.properties.get? "Name" with
  | none => simp
  | some name => cases description.stage <;> simp

end Description

namespace Shader

open Description (leadingLines sectionBlocks linesOf addBody addBlock)
open SectionBlock (SameOrder)

variable {text other : String} {shader : Shader}

/-- A shader is read from a description if its blocks are read one after the other. -/
theorem read_eq_ok_iff : Shader.read text = .ok shader ↔
    ∃ opened description built, (leadingLines text).foldlM (addBody .preamble) {} = .ok opened ∧
      (sectionBlocks text).foldlM addBlock opened = .ok description ∧
      description.shader 0 = .ok built ∧ built.accept = .ok shader := by
  have hlines := SectionBlock.foldlM_step_eq .preamble {} (linesOf text)
  simp only [Shader.read, bind_eq_ok, Reading.steps_eq_ok_iff]
  constructor
  · rintro ⟨reading, hreading, built, hbuilt, haccept⟩
    rw [hreading] at hlines
    obtain ⟨opened, hopened, hblocks⟩ := bind_eq_ok.mp hlines.symm
    exact ⟨opened, _, built, hopened, hblocks, Description.shader_eq_ok_iff.mp hbuilt, haccept⟩
  · rintro ⟨opened, description, built, hopened, hblocks, hbuilt, haccept⟩
    have hread := hlines.trans (bind_eq_ok.mpr ⟨opened, hopened, hblocks⟩)
    obtain ⟨reading, hreading, rfl⟩ := map_eq_ok.mp hread
    exact ⟨reading, hreading, built, Description.shader_eq_ok_iff.mp hbuilt, haccept⟩

/-- Blocks that are reordered are read to the same shader. -/
theorem read_of_sameOrder (hread : Shader.read text = .ok shader) {blocks : List SectionBlock}
    (hblocks : SameOrder blocks (sectionBlocks text))
    (hother : linesOf other = leadingLines text ++ blocks.flatMap SectionBlock.lines) :
    Shader.read other = .ok shader := by
  obtain ⟨opened, description, built, hopened, hadded, hbuilt, haccept⟩ := read_eq_ok_iff.mp hread
  have hcut : SectionBlock.cut .preamble (linesOf other) = (leadingLines text, blocks) := by
    rw [hother]
    refine SectionBlock.cut_lines (fun line hline => SectionBlock.header?_of_mem_cut hline) ?_
    intro block hblock
    exact SectionBlock.isBlock_of_foldlM hadded (hblocks.mem hblock)
  have hleading : leadingLines other = leadingLines text := by rw [leadingLines, hcut]
  have hsections : sectionBlocks other = blocks := by rw [sectionBlocks, hcut]
  refine read_eq_ok_iff.mpr ⟨opened, description, built, ?_, ?_, hbuilt, haccept⟩
  · rwa [hleading]
  · rw [hsections]
    refine Description.foldlM_addBlock_iff.mpr fun part => ?_
    rw [hblocks part]
    exact Description.foldlM_addBlock_iff.mp hadded part

/-- The order of sections does not matter.  When a description is read, so is every description in
which two neighbouring blocks of different kinds are exchanged, and every one in which blocks are
reordered in any way that keeps the order within each kind; all are read to the same shader.  Such
descriptions exist. -/
theorem read_reordered (hread : Shader.read text = .ok shader) :
    (∀ before first second after, sectionBlocks text = before ++ first :: second :: after →
      first.kind ≠ second.kind → ∀ other, linesOf other = leadingLines text ++
        (before ++ second :: first :: after).flatMap SectionBlock.lines →
      Shader.read other = .ok shader) ∧
    (∀ blocks, SameOrder blocks (sectionBlocks text) → ∀ other,
      linesOf other = leadingLines text ++ blocks.flatMap SectionBlock.lines →
      Shader.read other = .ok shader) ∧
    ∀ blocks, SameOrder blocks (sectionBlocks text) → ∃ other,
      linesOf other = leadingLines text ++ blocks.flatMap SectionBlock.lines := by
  refine ⟨?_, fun blocks hblocks other => read_of_sameOrder hread hblocks,
    fun blocks => Description.exists_linesOf_reordered⟩
  intro before first second after hblocks hne other hother
  refine read_of_sameOrder hread ?_ hother
  rw [hblocks]
  exact SectionBlock.sameOrder_exchange hne before after

/-- A description whose code has a line that would be a header elsewhere, and whose uniform buffer
has a member of a structure that is declared behind it. -/
def lampText : String :=
  "\n".intercalate ["# a lamp", "%meta", "Name = Lamp", "Profile = vs_5_0", "%code_main",
    "%half of it", "%ubuffers", "ubuffer Scene : 0", "Light sun", "%structures", "struct Light",
    "float4 color"]

/-- The description with its code behind its uniform buffer. -/
def lampTextReordered : String :=
  "\n".intercalate ["# a lamp", "%meta", "Name = Lamp", "Profile = vs_5_0", "%ubuffers",
    "ubuffer Scene : 0", "Light sun", "%code_main", "%half of it", "%structures", "struct Light",
    "float4 color"]

def lamp : Shader where
  name := "Lamp"
  stage := .vertex
  profile := "vs_5_0"
  uniformBuffers := [⟨"Scene", 0, [⟨.struct "Light", "sun", 0⟩]⟩]
  structures := [⟨"Light", [⟨.vector .float 4, "color"⟩]⟩]
  mainCode := ["%half of it"]

theorem read_reordered_lamp :
    Shader.read lampText = .ok lamp ∧ Shader.read lampTextReordered = .ok lamp := by
  have hread : Shader.read lampText = .ok lamp := by decide +kernel
  have hblocks : sectionBlocks lampText =
      [⟨"meta".toList, ["Name = Lamp".toList, "Profile = vs_5_0".toList]⟩] ++
        ⟨"code_main".toList, ["%half of it".toList]⟩ ::
        ⟨"ubuffers".toList, ["ubuffer Scene : 0".toList, "Light sun".toList]⟩ ::
        [⟨"structures".toList, ["struct Light".toList, "float4 color".toList]⟩] := by
    decide +kernel
  refine ⟨hread, (read_reordered hread).1 _ _ _ _ hblocks ?_ lampTextReordered ?_⟩
  · decide +kernel
  · decide +kernel

end Shader

end CrossShade
