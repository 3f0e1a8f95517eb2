import CrossShade.Proofs.Shader.Building
import CrossShade.Proofs.Shader.Sections

/-!
# Reading what was printed

A description that was printed for a shader is read as this shader.

* `Shader.IsPrintable` says what a shader must be made of so that its description tells all of it.
* `adds_describedLines` follows the reader through all sections to `Shader.described`.
* `shader_described` is the way back from there, and `read_print` the round trip.
-/

namespace CrossShade

open Text (IsLine)
open Reading (Adds Leads IsCodeLine draft)

/-- The words that begin some lines of descriptions. -/
def reservedWords : List String :=
  ["unused", "struct", "ubuffer"]

namespace Shader

variable {shader : Shader} {impliedStage : Bool}

/-- A shader of which a description tells everything. -/
structure IsPrintable (shader : Shader) : Prop where
  name : IsValue shader.name
  profile : IsValue shader.profile
  properties : ∀ row ∈ shader.properties,
    IsKey row.1 ∧ IsValue row.2 ∧ row.1 ∉ ["Name", "Profile", "Stage"]
  interface : ∀ v ∈ shader.patchVariables ++ shader.stageVariables, v.IsPrintable
  streams : ∀ stream ∈ shader.streams, IsName stream.name
  uniformBuffers : ∀ buffer ∈ shader.uniformBuffers, buffer.IsPrintable
  /-- Offsets are not printed, so they have to be those that packing gives. -/
  packed : ∀ buffer ∈ shader.uniformBuffers,
    UniformBuffer.packed buffer.name buffer.slot (draft buffer).members shader.structures =
      .ok buffer
  samplers : ∀ sampler ∈ shader.samplers, IsName sampler.name
  views : ∀ view ∈ shader.readViews ++ shader.writeViews, view.IsPrintable
  structures : ∀ structure_ ∈ shader.structures,
    structure_.IsPrintable ∧ structure_.name ∉ reservedWords
  code : ∀ line ∈ shader.globalCode ++ shader.patchCode ++ shader.mainCode, IsCodeLine line

/-- What is known when the description of a shader was read. -/
def described (shader : Shader) (impliedStage : Bool) : Description :=
  { properties := Properties.setAll [] (shader.statedProperties impliedStage)
    input := shader.input
    output := shader.output
    inputExtra := shader.inputExtra
    inputPatch := shader.inputPatch
    outputPatch := shader.outputPatch
    streams := shader.streams
    uniformBuffers := shader.uniformBuffers.map draft
    samplers := shader.samplers
    readViews := shader.readViews
    writeViews := shader.writeViews
    structures := shader.structures
    fixedSampling := shader.fixedSampling
    globalCode := shader.globalCode
    patchCode := shader.patchCode
    mainCode := shader.mainCode }

/-! ## What is printed -/

/-- In a well-formed shader no type is named like a reserved word. -/
theorem IsPrintable.type_ne (h : shader.IsPrintable) (hwell : shader.WellFormed)
    {type : ValueType} (htype : type ∈ shader.declaredTypes) {word : String}
    (hword : word ∈ reservedWords) : type ≠ .struct word := by
  rintro rfl
  obtain ⟨s, hs, rfl⟩ := (hwell.types _ htype).declared word rfl
  exact (h.structures s hs).2 hword

theorem IsPrintable.fixedSampling (h : shader.IsPrintable) (hwell : shader.WellFormed) :
    ∀ pair ∈ shader.fixedSampling, IsName pair.view ∧ IsName pair.sampler := by
  intro pair hpair
  obtain ⟨⟨view, hview, hviewName⟩, sampler, hsampler, hsamplerName⟩ :=
    hwell.fixedDeclared pair hpair
  rw [← hviewName, ← hsamplerName]
  exact ⟨(h.views view (by simp [hview])).name, h.samplers sampler hsampler⟩

theorem isKey_of_isIdentifier {key : String} (h : IsName key) (hequal : '=' ∉ key.toList) :
    IsKey key where
  trimmed := h.isPlain.trim
  noFeed hmem := by
    have hblank := h.isPlain.not_isBlank hmem
    revert hblank
    decide
  noComment := h.isPlain.not_mem (by decide)
  ne_empty := by
    rintro rfl
    exact absurd h (by decide)
  noEqual := hequal

/-- A description states the stage, or the profile implies it. -/
theorem statedProperties_cases (shader : Shader) (impliedStage : Bool) :
    (Stage.ofProfile? shader.profile = some shader.stage ∧
      shader.statedProperties impliedStage =
        ("Name", shader.name) :: ("Profile", shader.profile) :: shader.properties) ∨
    shader.statedProperties impliedStage = ("Name", shader.name) :: ("Profile", shader.profile) ::
      ("Stage", shader.stage.name) :: shader.properties := by
  unfold statedProperties
  split
  · rename_i himplied
    exact .inl ⟨of_decide_eq_true (Bool.and_eq_true_iff.mp himplied).2, rfl⟩
  · exact .inr rfl

/-- The properties that are stated can be printed as well as those that stay with the shader. -/
theorem IsPrintable.statedProperties (h : shader.IsPrintable) (impliedStage : Bool) :
    ∀ row ∈ shader.statedProperties impliedStage, IsKey row.1 ∧ IsValue row.2 := by
  have hreserved : IsKey "Name" ∧ IsKey "Profile" ∧ IsKey "Stage" :=
    ⟨isKey_of_isIdentifier (by decide) (by decide), isKey_of_isIdentifier (by decide) (by decide),
      isKey_of_isIdentifier (by decide) (by decide)⟩
  have hstage : IsValue shader.stage.name := by
    cases shader.stage <;> exact (isKey_of_isIdentifier (by decide) (by decide)).toIsValue
  have hown : ∀ row ∈ shader.properties, IsKey row.1 ∧ IsValue row.2 :=
    fun row hrow => ⟨(h.properties row hrow).1, (h.properties row hrow).2.1⟩
  rcases shader.statedProperties_cases impliedStage with ⟨-, hrows⟩ | hrows
  · rw [hrows, List.forall_mem_cons, List.forall_mem_cons]
    exact ⟨⟨hreserved.1, h.name⟩, ⟨hreserved.2.1, h.profile⟩, hown⟩
  · rw [hrows, List.forall_mem_cons, List.forall_mem_cons, List.forall_mem_cons]
    exact ⟨⟨hreserved.1, h.name⟩, ⟨hreserved.2.1, h.profile⟩, ⟨hreserved.2.2, hstage⟩, hown⟩

theorem IsPrintable.nodup_statedProperties (h : shader.IsPrintable) (impliedStage : Bool)
    (hsorted : shader.properties.Sorted) :
    ((shader.statedProperties impliedStage).map (·.1)).Nodup := by
  have hfresh : ∀ key ∈ ["Name", "Profile", "Stage"], key ∉ shader.properties.map (·.1) := by
    intro key hkey hmem
    obtain ⟨row, hrow, rfl⟩ := List.mem_map.mp hmem
    exact (h.properties row hrow).2.2 hkey
  have hname := hfresh "Name" (by decide)
  have hprofile := hfresh "Profile" (by decide)
  have hstage := hfresh "Stage" (by decide)
  rcases shader.statedProperties_cases impliedStage with ⟨-, hrows⟩ | hrows
  · rw [hrows]
    simp_all [hsorted.nodup_keys]
  · rw [hrows]
    simp_all [hsorted.nodup_keys]

/-- A variable of a printable shader is read back. -/
theorem IsPrintable.variable (h : shader.IsPrintable) (hwell : shader.WellFormed) {v : Variable}
    (hv : v ∈ shader.patchVariables ++ shader.stageVariables) :
    v.IsPrintable ∧ v.type ≠ .struct "unused" := by
  refine ⟨h.interface v hv, h.type_ne hwell ?_ (by decide)⟩
  simp only [declaredTypes, List.mem_append, List.mem_map] at hv ⊢
  exact .inl (.inl (.inl ⟨v, hv, rfl⟩))

/-- The reader goes through all sections and has read all of the shader then. -/
theorem adds_describedLines (h : shader.IsPrintable) (hwell : shader.WellFormed)
    (hsorted : shader.properties.Sorted) (impliedStage : Bool) :
    Adds (shader.describedLines impliedStage) {} (shader.described impliedStage) := by
  have hvariable : ∀ v ∈ shader.patchVariables ++ shader.stageVariables,
      v.IsPrintable ∧ v.type ≠ .struct "unused" := fun v hv => h.variable hwell hv
  have hfields : ∀ s ∈ shader.structures, ∀ field ∈ s.members, field.type ≠ .struct "struct" := by
    intro s hs field hfield
    refine h.type_ne hwell ?_ (by decide)
    simp only [declaredTypes, List.mem_append, List.mem_map, List.mem_flatMap]
    exact .inl (.inl (.inr ⟨field, ⟨s, hs, hfield⟩, rfl⟩))
  have hmembers : ∀ buffer ∈ shader.uniformBuffers, ∀ member ∈ buffer.members,
      member.type ≠ .struct "ubuffer" := by
    intro buffer hbuffer member hmember
    refine h.type_ne hwell ?_ (by decide)
    simp only [declaredTypes, List.mem_append, List.mem_map, List.mem_flatMap]
    exact .inl (.inr ⟨member, ⟨buffer, hbuffer, hmember⟩, rfl⟩)
  have hlines := Reading.adds_properties (h.statedProperties impliedStage)
    (h.nodup_statedProperties impliedStage hsorted)
  -- One section follows the other, in the order in which they are printed.
  replace hlines := hlines.append (Reading.adds_variables "input" .input
    shader.input (by decide) (by decide) (by decide) fun v hv =>
      hvariable v (by simp [stageVariables, hv]))
  replace hlines := hlines.append (Reading.adds_variables "output" .output
    shader.output (by decide) (by decide) (by decide) fun v hv =>
      hvariable v (by simp [stageVariables, hv]))
  replace hlines := hlines.append (Reading.adds_variables "input_extra" .inputExtra
    shader.inputExtra (by decide) (by decide) (by decide) fun v hv =>
      hvariable v (by simp [stageVariables, hv]))
  replace hlines := hlines.append (Reading.adds_variables "input_patch" .inputPatch
    shader.inputPatch (by decide) (by decide) (by decide) fun v hv =>
      hvariable v (by simp [patchVariables, hv]))
  replace hlines := hlines.append (Reading.adds_variables "output_patch" .outputPatch
    shader.outputPatch (by decide) (by decide) (by decide) fun v hv =>
      hvariable v (by simp [patchVariables, hv]))
  replace hlines := hlines.append (Reading.adds_streams h.streams fun stream hstream v hv =>
    hvariable v (by
      simp only [stageVariables, List.mem_append, List.mem_flatMap]
      exact .inr (.inr ⟨stream, hstream, hv⟩)))
  replace hlines := hlines.append (Reading.adds_uniformBuffers h.uniformBuffers hmembers)
  replace hlines := hlines.append (Reading.adds_samplers h.samplers)
  replace hlines := hlines.append (Reading.adds_readViews shader.readViews fun view hview =>
    h.views view (by simp [hview]))
  replace hlines := hlines.append (Reading.adds_writeViews shader.writeViews fun view hview =>
    h.views view (by simp [hview]))
  replace hlines := hlines.append (Reading.adds_structures
    (fun s hs => (h.structures s hs).1) hfields)
  replace hlines := hlines.append (Reading.adds_fixedSampling (h.fixedSampling hwell))
  replace hlines := hlines.append (Reading.adds_code "code_global" .global shader.globalCode
    (by decide) (by decide) fun line hline => h.code line (by simp [hline]))
  replace hlines := hlines.append (Reading.adds_code "code_patch" .patch shader.patchCode
    (by decide) (by decide) fun line hline => h.code line (by simp [hline]))
  replace hlines := hlines.append (Reading.adds_code "code_main" .main shader.mainCode
    (by decide) (by decide) fun line hline => h.code line (by simp [hline]))
  exact hlines

/-! ## What is read -/

/-- The lines that were printed are found again. -/
theorem linesOf_print (h : ∀ line ∈ shader.describedLines impliedStage, IsLine line.toList) :
    Description.linesOf (shader.print impliedStage) =
      (shader.describedLines impliedStage).map String.toList := by
  have hlines : ∀ line ∈ (shader.describedLines impliedStage).map String.toList, IsLine line := by
    intro line hline
    obtain ⟨text, htext, rfl⟩ := List.mem_map.mp hline
    exact h text htext
  have htext : (shader.print impliedStage).toList =
      ((shader.describedLines impliedStage).map String.toList).flatMap (· ++ ['\n']) := by
    rw [print, String.toList_join, List.flatMap_map, List.flatMap_map]
    simp
  rw [Description.linesOf, htext, Text.lines_flatMap hlines]
  conv => rhs; rw [← List.map_id ((shader.describedLines impliedStage).map String.toList)]
  exact List.map_congr_left fun line hline => Text.dropReturn_eq_self (hlines line hline).noReturn

/-- The properties that are taken out of a description are not among those that stay. -/
theorem IsPrintable.get?_properties (h : shader.IsPrintable) {key : String}
    (hkey : key ∈ ["Name", "Profile", "Stage"]) : shader.properties.get? key = none := by
  refine Properties.get?_eq_none ?_
  intro hmem
  obtain ⟨row, hrow, rfl⟩ := List.mem_map.mp hmem
  exact (h.properties row hrow).2.2 hkey

section Stated

variable (h : shader.IsPrintable) (hsorted : shader.properties.Sorted)

include h hsorted

theorem get?_described (key : String) : (shader.described impliedStage).properties.get? key =
    Properties.get? (shader.statedProperties impliedStage) key := by
  rw [described, Properties.get?_setAll (h.nodup_statedProperties impliedStage hsorted)]
  simp

/-- A stage that is left out is implied by the profile. -/
theorem stage_described : (shader.described impliedStage).stage = .ok shader.stage := by
  have hnone := h.get?_properties (by decide : "Stage" ∈ ["Name", "Profile", "Stage"])
  rw [Description.stage, get?_described h hsorted, get?_described h hsorted]
  rcases shader.statedProperties_cases impliedStage with ⟨hprofile, hrows⟩ | hrows
  · simp [hrows, hnone, hprofile]
  · have hread : (Stage.read shader.stage.name).mapError LineFault.keyword = .ok shader.stage := by
      cases shader.stage <;> rfl
    simp [hrows, hread]

theorem ownProperties_described :
    (shader.described impliedStage).ownProperties = shader.properties := by
  have hall : (shader.described impliedStage).properties.Sorted :=
    Properties.sorted_nil.setAll (shader.statedProperties impliedStage)
  refine Properties.Sorted.ext (((hall.erase "Name").erase "Profile").erase "Stage") hsorted ?_
  intro key
  rw [Description.ownProperties, Properties.get?_erase, Properties.get?_erase,
    Properties.get?_erase, get?_described h hsorted]
  by_cases hkey : key ∈ ["Name", "Profile", "Stage"]
  · rw [h.get?_properties hkey]
    simp only [List.mem_cons, List.not_mem_nil, or_false] at hkey
    rcases hkey with rfl | rfl | rfl <;> simp
  · simp only [List.mem_cons, List.not_mem_nil, or_false, not_or] at hkey
    obtain ⟨hname, hprofile, hstage⟩ := hkey
    rcases shader.statedProperties_cases impliedStage with ⟨-, hrows⟩ | hrows
    · rw [hrows]
      simp [hname, hprofile, hstage]
    · rw [hrows]
      simp [hname, hprofile, hstage]

end Stated

theorem packBuffers_draft {buffers : List UniformBuffer} {structures : List Structure}
    (h : ∀ buffer ∈ buffers, UniformBuffer.packed buffer.name buffer.slot (draft buffer).members
      structures = .ok buffer) (name : String) :
    Description.packBuffers name structures (buffers.map draft) = .ok buffers := by
  induction buffers with
  | nil => rfl
  | cons buffer rest ih =>
    have hbuffer := h buffer (by simp)
    have hrest := ih fun other hother => h other (by simp [hother])
    rw [List.map_cons, Description.packBuffers]
    have hpacked : UniformBuffer.packed (draft buffer).name (draft buffer).slot
        (draft buffer).members structures = .ok buffer := hbuffer
    rw [hpacked, hrest]
    rfl

/-- What was read is the shader again. -/
theorem shader_described (h : shader.IsPrintable) (hsorted : shader.properties.Sorted)
    (lastLine : Nat) : (shader.described impliedStage).shader lastLine = .ok shader := by
  have hname : (shader.described impliedStage).properties.get? "Name" = some shader.name := by
    rw [get?_described h hsorted]
    simp [statedProperties]
  have hprofile : (shader.described impliedStage).properties.get? "Profile" =
      some shader.profile := by
    rw [get?_described h hsorted]
    simp [statedProperties]
  have hbuffers : Description.packBuffers shader.name (shader.described impliedStage).structures
      (shader.described impliedStage).uniformBuffers = .ok shader.uniformBuffers :=
    packBuffers_draft h.packed shader.name
  rw [Description.shader, hname, stage_described h hsorted, hprofile,
    ownProperties_described h hsorted]
  simp only [pure_bind, mapError_ok, ok_bind, hbuffers, pure_eq_ok]
  rfl

/-- Reading undoes printing: a printable shader that was built is read from its description as it
is, whether or not the description leaves out a stage that the profile implies. -/
theorem read_print {name : String} {stage : Stage} {additions : List Addition}
    (hbuild : build name stage additions = .ok shader) (hprintable : shader.IsPrintable)
    (impliedStage : Bool) : Shader.read (shader.print impliedStage) = .ok shader := by
  obtain ⟨hwell, rfl⟩ := accept_eq_ok_iff.mp hbuild
  have hsorted : (collect name stage additions).properties.Sorted := sorted_collect
  obtain ⟨last, hlines⟩ := adds_describedLines hprintable hwell hsorted impliedStage .preamble
  rw [Shader.read, linesOf_print hlines.isLine]
  simp only [hlines.steps, ok_bind, shader_described hprintable hsorted]
  exact accept_eq_ok_iff.mpr ⟨hwell, rfl⟩

/-- A hull shader of which almost every section says something, and whose profile implies its
stage. -/
def crown : Shader where
  name := "Crown"
  stage := .hull
  profile := "hs_5_0"
  properties := [("Domain", "tri"), ("Note", "")]
  input := [⟨.float4, "position", some "SV_Position", .unspecified, true⟩,
    ⟨.struct "Light", "unlit", none, .unspecified, false⟩]
  output := [⟨.array (.vector .float 2) (.fixed 3), "uv", some "TEXCOORD0", .centroid, true⟩]
  outputPatch := [⟨.array (.scalar .float) .outerFactors, "edges", some "SV_TessFactor",
    .unspecified, true⟩]
  uniformBuffers := [⟨"Scene", 1, [⟨.matrix .float 4 4, "view", 0⟩, ⟨.struct "Light", "sun", 64⟩]⟩]
  samplers := [⟨"shadow", 0, true⟩, ⟨"smooth", 4, false⟩]
  readViews := [⟨"colors", 2, .texture2D, .float4⟩,
    ⟨"lights", 0, .structuredBuffer, .struct "Light"⟩]
  structures := [⟨"Light", [⟨.vector .float 3, "color"⟩, ⟨.scalar .float, "power"⟩]⟩]
  fixedSampling := [⟨"colors", "smooth"⟩]
  patchCode := ["edges[0] = 4; # kept", ""]
  mainCode := ["  %half of it", "output = input;"]

theorem read_print_crown : build "Crown" .hull crown.additions = .ok crown ∧ crown.IsPrintable ∧
    Shader.read (crown.print true) = .ok crown := by
  have hbuild : build "Crown" .hull crown.additions = .ok crown := by decide +kernel
  have hprintable : crown.IsPrintable := by
    constructor <;> decide +kernel
  exact ⟨hbuild, hprintable, read_print hbuild hprintable true⟩

end Shader

end CrossShade
