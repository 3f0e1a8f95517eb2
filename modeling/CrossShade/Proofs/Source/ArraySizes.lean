import CrossShade.Proofs.Shader.WellTyped
import CrossShade.Proofs.Source.Interfaces
import Mathlib.Data.List.Flatten

/-!
# Array sizes in source texts

An array is declared with its length.  The length of a variable that is sized by tessellation
factors follows from the domain of its shader, but for members of structures and uniform buffers no
target asks for a domain: there such a size is not written at all.

* `Source.declarations` are all declarations of a text, and `Declaration.LosesSize` is said of one
  that shows no length where there is one.
* `Source.LosesOnly` says which sizes of a shader its text loses, and `losesOnly_of_source` that
  these are the counts of tessellation factors in structures and uniform buffers.
* `types_of_build` puts this together with what is known of the types of shaders.
-/

namespace CrossShade

open Source

namespace Source

/-- The declarations that an item makes. -/
def Item.declarations : Item → List Declaration
  | .struct _ members | .block _ _ members => members
  | .global d => [d]
  | _ => []

/-- All declarations of a source text, in order. -/
def declarations (source : Source) : List Declaration :=
  source.items.flatMap (·.declarations)

/-- The declaration shows no length of something that is an array. -/
def Declaration.LosesSize (d : Declaration) (type : ValueType) : Prop :=
  type.arraySize?.isSome = true ∧ d.length = none

/-- Empty lines and comments declare nothing. -/
theorem declarations_eq (source : Source) :
    source.declarations = source.content.flatMap (·.declarations) := by
  rw [declarations, content]
  induction source.items with
  | nil => rfl
  | cons item rest ih =>
    rw [List.flatMap_cons, ih, List.filter_cons]
    cases item <;> rfl

theorem sublist_declarations {source : Source} {items : List Item}
    (h : items.Sublist source.content) :
    (items.flatMap (·.declarations)).Sublist source.declarations := by
  rw [declarations_eq]
  exact h.flatMap _

end Source

/-- The declaration of a member of a structure or uniform buffer, with a length that is a number,
and whether that loses the size of an array. -/
structure Target.DeclaresMember (target : Target) (lost : ValueType → Prop) (name : String)
    (type : ValueType) (d : Declaration) : Prop where
  declares : target.Declares name type type.fixedLength? d
  loses : d.LosesSize type ↔ lost type

/-- A text declares the members of structures and uniform buffers and the variables that are shown,
those of each in their order.  It loses the sizes of members of some types and no other size. -/
structure Source.LosesOnly (text : Source) (target : Target) (shader : Shader)
    (lost : ValueType → Prop) : Prop where
  structures : ∀ s ∈ shader.structures, List.SublistForall₂
    (fun field => target.DeclaresMember lost field.name field.type) s.members text.declarations
  uniformBuffers : ∀ buffer ∈ shader.uniformBuffers, List.SublistForall₂
    (fun m => target.DeclaresMember lost m.name m.type) buffer.members text.declarations
  interfaces : ∀ group ∈ target.interfaceGroups shader, List.SublistForall₂
    (fun v d => target.Declares v.name v.type (shader.lengthOf v) d ∧ ¬d.LosesSize v.type)
    (shader.shown group.vars) text.declarations

section Sizes

variable {shader : Shader} {target : Target} {text : Source} {version : OpenGL.Version}
  {lost : ValueType → Prop}

theorem forall₂_imp_of_mem {α β : Type} {R S : α → β → Prop} {list : List α} {results : List β}
    (h : List.Forall₂ R list results) (himp : ∀ a ∈ list, ∀ b, R a b → S a b) :
    List.Forall₂ S list results := by
  induction h with
  | nil => exact .nil
  | cons hfirst _ ih =>
    obtain ⟨hhead, hrest⟩ := List.forall_mem_cons.mp himp
    exact .cons (hhead _ hfirst) (ih hrest)

/-- What is related to some of a list in order, some of its partners in order are related to. -/
theorem sublistForall₂_of_sublist {α β : Type} {R : α → β → Prop} {list part : List α}
    {results : List β} (h : List.Forall₂ R list results) (hpart : part.Sublist list) :
    List.SublistForall₂ R part results := by
  induction hpart generalizing results with
  | slnil => exact .nil
  | cons x _ ih =>
    cases h with
    | cons _ hrest => exact .cons_right (ih hrest)
  | cons_cons x _ ih =>
    cases h with
    | cons hfirst hrest => exact .cons hfirst (ih hrest)

/-- Only lengths that are counts of tessellation factors are no numbers. -/
theorem losesSize_iff {type : ValueType} {name : String} {d : Declaration}
    (h : target.Declares name type type.fixedLength? d) :
    d.LosesSize type ↔ type.IsFactorArray := by
  rw [Declaration.LosesSize, h.length]
  cases type with
  | array element size =>
    cases size <;> simp [ValueType.arraySize?, ValueType.fixedLength?, ValueType.IsFactorArray,
      ArraySize.needsDomain]
  | _ => simp [ValueType.arraySize?, ValueType.IsFactorArray]

/-! ## Variables -/

/-- Only shaders that know their domain have texts, if they are of a stage that passes patches. -/
theorem exists_tessellationDomain (h : target.source version shader = .ok text)
    (hstage : shader.stage = .hull ∨ shader.stage = .domain) :
    ∃ domain, shader.tessellationDomain = .ok domain := by
  cases target with
  | direct3D9 =>
    rcases hstage with hstage | hstage <;>
      simp [Target.source, Direct3D9.source, Direct3D9.supports, hstage] at h
  | direct3D11 =>
    obtain ⟨resources, items, -, hbody, -⟩ := Direct3D11.exists_body h
    unfold Direct3D11.body at hbody
    rcases hstage with hstage | hstage
    · rw [hstage] at hbody
      obtain ⟨domain, _, _, _, _, _, hdomain, -⟩ := Direct3D11.hull_eq_ok hbody
      exact ⟨domain, hdomain⟩
    · rw [hstage] at hbody
      obtain ⟨domain, _, _, _, _, _, _, hdomain, -⟩ := Direct3D11.domain_eq_ok hbody
      exact ⟨domain, hdomain⟩
  | openGL =>
    rcases hstage with hstage | hstage <;>
      simp [Target.source, OpenGL.source, OpenGL.supports, hstage] at h

/-- Other stages show variables of stages alone. -/
theorem mem_stageVariables {group : InterfaceGroup} (hgroup : group ∈ target.interfaceGroups shader)
    (hstage : ¬(shader.stage = .hull ∨ shader.stage = .domain)) {v : Variable}
    (hv : v ∈ group.vars) : v ∈ shader.stageVariables := by
  have hplain : group ∈ ([⟨"Input", shader.input⟩, ⟨"Output", shader.output⟩] :
      List InterfaceGroup) → v ∈ shader.stageVariables := by
    intro hmem
    simp only [List.mem_cons, List.not_mem_nil, or_false] at hmem
    rcases hmem with rfl | rfl
    · exact shader.input_subset hv
    · exact shader.output_subset hv
  unfold Target.interfaceGroups at hgroup
  cases hcase : shader.stage with
  | vertex => exact hplain (by simpa [hcase] using hgroup)
  | pixel => exact hplain (by simpa [hcase] using hgroup)
  | compute =>
    refine hplain ?_
    simp only [hcase] at hgroup
    split at hgroup
    · exact hgroup
    · exact List.mem_cons.mpr (.inl (List.mem_singleton.mp hgroup))
  | hull => exact absurd (.inl hcase) hstage
  | domain => exact absurd (.inr hcase) hstage
  | geometry =>
    simp only [hcase, Shader.streamGroups] at hgroup
    split at hgroup
    · exact hplain hgroup
    · rcases List.mem_cons.mp hgroup with rfl | hstream
      · exact shader.input_subset hv
      · obtain ⟨⟨stream, number⟩, hnumbered, rfl⟩ := List.mem_map.mp hstream
        have hmem := List.fst_mem_of_mem_zipIdx hnumbered
        simp only [Shader.stageVariables, List.mem_append, List.mem_flatMap]
        exact .inr ⟨stream, hmem, hv⟩

/-- So every array among the variables that a text passes has a length. -/
theorem isSome_lengthOf (hformed : shader.WellFormed) (h : target.source version shader = .ok text)
    {group : InterfaceGroup} (hgroup : group ∈ target.interfaceGroups shader) {v : Variable}
    (hv : v ∈ group.vars) (harray : v.type.arraySize?.isSome = true) :
    (shader.lengthOf v).isSome = true := by
  obtain ⟨size, hsize⟩ := Option.isSome_iff_exists.mp harray
  rw [Shader.lengthOf, hsize, Option.bind_some]
  by_cases hstage : shader.stage = .hull ∨ shader.stage = .domain
  · obtain ⟨domain, hdomain⟩ := exists_tessellationDomain h hstage
    rw [hdomain]
    cases size <;> rfl
  · obtain ⟨element, htype⟩ := ValueType.arraySize?_eq_some_iff.mp hsize
    have hfactors := hformed.factors v (mem_stageVariables hgroup hstage hv)
    cases size with
    | fixed length => rfl
    | outerFactors => exact absurd ⟨element, _, htype, rfl⟩ hfactors
    | innerFactors => exact absurd ⟨element, _, htype, rfl⟩ hfactors

theorem sublistForall₂_shown (hformed : shader.WellFormed)
    (h : target.source version shader = .ok text) {parts : SourceParts}
    (hcontent : text.content = parts.items) (hof : parts.Of target version shader)
    {group : InterfaceGroup} (hgroup : group ∈ target.interfaceGroups shader) :
    List.SublistForall₂
      (fun v d => target.Declares v.name v.type (shader.lengthOf v) d ∧ ¬d.LosesSize v.type)
      (shader.shown group.vars) text.declarations := by
  by_cases hshown : shader.shown group.vars = []
  · rw [hshown]
    exact .nil
  · obtain ⟨s, hs, hshows⟩ := exists_mem_reduceOption hof.program.interfaces hgroup hshown
    have hmem : s.item ∈ text.content := by
      rw [hcontent, SourceParts.items, ProgramParts.items]
      simp only [List.mem_append]
      exact .inr (.inl (.inl (.inl (.inl (List.mem_map_of_mem hs)))))
    have hsub := sublist_declarations (List.singleton_sublist.mpr hmem)
    rw [List.flatMap_singleton] at hsub
    refine List.sublistForall₂_iff.mpr ⟨s.members, ?_, hsub⟩
    refine forall₂_imp_of_mem hshows.members fun v hv d hd => ⟨hd, ?_⟩
    rintro ⟨harray, hnone⟩
    have hlength := isSome_lengthOf hformed h hgroup (List.mem_of_mem_filter hv) harray
    rw [← hd.length, hnone] at hlength
    cases hlength

/-! ## Members -/

theorem Padded.sublist {members own : List Declaration} (h : Padded members own) :
    own.Sublist members := by
  induction h with
  | nil => exact .slnil
  | own d _ ih => exact ih.cons_cons d
  | pad index number _ ih => exact ih.cons _

/-- The declarations of some members, with the sizes that they lose. -/
theorem declaresMember_of_declares {α : Type} {nameOf : α → String} {typeOf : α → ValueType}
    {members : List α} {declared : List Declaration}
    (hlost : ∀ m ∈ members, lost (typeOf m) ↔ (typeOf m).IsFactorArray)
    (h : List.SublistForall₂
      (fun m => target.Declares (nameOf m) (typeOf m) (typeOf m).fixedLength?) members declared) :
    List.SublistForall₂ (fun m => target.DeclaresMember lost (nameOf m) (typeOf m)) members
      declared := by
  obtain ⟨own, hown, hsub⟩ := List.sublistForall₂_iff.mp h
  refine List.sublistForall₂_iff.mpr ⟨own, forall₂_imp_of_mem hown fun m hm d hd => ?_, hsub⟩
  exact ⟨hd, (losesSize_iff hd).trans (hlost m hm).symm⟩

theorem sublistForall₂_fields {items : List Item} (hitems : items.Sublist text.content)
    (h : List.Forall₂ target.IsStructure shader.structures items) {s : Structure}
    (hs : s ∈ shader.structures) :
    List.SublistForall₂ (fun field => target.Declares field.name field.type
      field.type.fixedLength?) s.members text.declarations := by
  obtain ⟨item, hitem, members, rfl, hmembers⟩ :=
    exists_mem_of_forall₂ (R := fun item s => target.IsStructure s item) h.flip hs
  have hsub := sublist_declarations ((List.singleton_sublist.mpr hitem).trans hitems)
  rw [List.flatMap_singleton] at hsub
  exact List.sublistForall₂_iff.mpr ⟨members, hmembers, hsub⟩

theorem sublistForall₂_blockMembers {items : List Item} (hitems : items.Sublist text.content)
    (h : List.Forall₂ target.IsBlock shader.uniformBuffers items) {buffer : UniformBuffer}
    (hbuffer : buffer ∈ shader.uniformBuffers) :
    List.SublistForall₂ (fun m => target.Declares m.name m.type m.type.fixedLength?)
      buffer.members text.declarations := by
  obtain ⟨item, hitem, header, members, own, rfl, hpadded, -, hown⟩ :=
    exists_mem_of_forall₂ (R := fun item buffer => target.IsBlock buffer item) h.flip hbuffer
  have hsub := sublist_declarations ((List.singleton_sublist.mpr hitem).trans hitems)
  rw [List.flatMap_singleton] at hsub
  exact List.sublistForall₂_iff.mpr ⟨own, hown, hpadded.sublist.trans hsub⟩

/-- Direct3D 9 has no blocks; there the members of all uniform buffers stand in one row. -/
theorem sublistForall₂_members {items : List Item} (hitems : items.Sublist text.content)
    (h : target.DeclareBuffers shader.uniformBuffers items) {buffer : UniformBuffer}
    (hbuffer : buffer ∈ shader.uniformBuffers) :
    List.SublistForall₂ (fun m => target.Declares m.name m.type m.type.fixedLength?)
      buffer.members text.declarations := by
  cases target with
  | direct3D9 =>
    obtain ⟨row, declared, hperm, -, rfl, hdeclared⟩ := h
    have hsub := sublist_declarations hitems
    rw [List.flatMap_map] at hsub
    have hself : declared.flatMap (fun d => (Item.global d).declarations) = declared :=
      List.flatMap_singleton' declared
    rw [hself] at hsub
    have hpart : buffer.members.Sublist (row.flatMap (·.members)) := by
      rw [List.flatMap]
      exact List.sublist_flatten_of_mem (List.mem_map_of_mem (hperm.mem_iff.mpr hbuffer))
    obtain ⟨own, hown, hownSub⟩ :=
      List.sublistForall₂_iff.mp (sublistForall₂_of_sublist hdeclared hpart)
    exact List.sublistForall₂_iff.mpr ⟨own, hown, hownSub.trans hsub⟩
  | direct3D11 => exact sublistForall₂_blockMembers hitems h hbuffer
  | openGL => exact sublistForall₂_blockMembers hitems h hbuffer

/-- A text loses the sizes that are counts of tessellation factors, and only for members. -/
theorem losesOnly_of_source (hformed : shader.WellFormed)
    (h : target.source version shader = .ok text)
    (hlost : ∀ type ∈ shader.resourceTypes, lost type ↔ type.IsFactorArray) :
    text.LosesOnly target shader lost := by
  obtain ⟨parts, hcontent, hof⟩ := Target.exists_sourceParts hformed h
  have hresources : parts.resources.items.Sublist text.content := by
    rw [hcontent, SourceParts.items]
    exact ((List.sublist_append_right _ _).trans (List.sublist_append_left _ _))
  have hfields : ∀ s ∈ shader.structures, ∀ field ∈ s.members,
      lost field.type ↔ field.type.IsFactorArray := by
    intro s hs field hfield
    refine hlost _ ?_
    simp only [Shader.resourceTypes, List.mem_append, List.mem_map, List.mem_flatMap]
    exact .inl (.inl ⟨field, ⟨s, hs, hfield⟩, rfl⟩)
  have hmembers : ∀ buffer ∈ shader.uniformBuffers, ∀ m ∈ buffer.members,
      lost m.type ↔ m.type.IsFactorArray := by
    intro buffer hbuffer m hm
    refine hlost _ ?_
    simp only [Shader.resourceTypes, List.mem_append, List.mem_map, List.mem_flatMap]
    exact .inl (.inr ⟨m, ⟨buffer, hbuffer, hm⟩, rfl⟩)
  refine ⟨fun s hs => ?_, fun buffer hbuffer => ?_, fun group hgroup =>
    sublistForall₂_shown hformed h hcontent hof hgroup⟩
  · refine declaresMember_of_declares (hfields s hs)
      (sublistForall₂_fields (.trans ?_ hresources) hof.resources.structures hs)
    simp [ResourceParts.items]
  · refine declaresMember_of_declares (hmembers buffer hbuffer)
      (sublistForall₂_members (.trans ?_ hresources) hof.resources.uniformBuffers hbuffer)
    simp only [ResourceParts.items, List.append_assoc]
    exact ((List.sublist_append_left ..).trans (List.sublist_append_right ..)).trans
      (List.sublist_append_right ..)

end Sizes

/-! ## Types and sizes of shaders that are built -/

/-- A shader that was built is well typed if and only if all types that it was given are, and every
shader that is read from a description is.  A text for it loses the sizes of members that are counts
of tessellation factors and no others; if the shader is well typed, it loses none. -/
theorem types_of_build {name : String} {stage : Stage} {additions : List Addition} {shader : Shader}
    (hbuild : Shader.build name stage additions = .ok shader) :
    (shader.WellTyped ↔ ∀ addition ∈ additions, addition.IsWellTyped) ∧
    (∀ description other, Shader.read description = .ok other → other.WellTyped) ∧
    ∀ (target : Target) (version : OpenGL.Version) (text : Source),
      target.source version shader = .ok text →
      text.LosesOnly target shader ValueType.IsFactorArray ∧
      (shader.WellTyped → text.LosesOnly target shader fun _ => False) := by
  have hformed := Shader.wellFormed_of_build hbuild
  refine ⟨Shader.wellTyped_iff_of_build hbuild, fun _ _ => Shader.wellTyped_of_read, ?_⟩
  intro target version text htext
  refine ⟨losesOnly_of_source hformed htext fun _ _ => Iff.rfl, fun hwell => ?_⟩
  refine losesOnly_of_source hformed htext fun type htype => ?_
  exact ⟨False.elim, hwell.resources type htype⟩

/-- A domain shader with arrays in all places, one of them sized by tessellation factors. -/
def loom : Shader where
  name := "Loom"
  stage := .domain
  properties := [("Domain", "Quad"), ("InputControlPoints", "4")]
  output := [{ type := .array (.vector .float 2) (.fixed 2), name := "knots", semantic := "KNOT" }]
  inputPatch := [⟨.array (.scalar .float) .outerFactors, "edges", some "SV_TessFactor",
    .unspecified, true⟩]
  uniformBuffers := [⟨"Weave", 0, [⟨.array (.struct "Thread") (.fixed 3), "threads", 0⟩]⟩]
  structures := [⟨"Thread", [⟨.array .float4 (.fixed 2), "colors"⟩]⟩]

/-- Its description. -/
def loomText : String :=
  "\n".intercalate ["%meta", "Name = Loom", "Stage = Domain", "Domain = Quad",
    "InputControlPoints = 4", "%output", "float2[2] knots : KNOT", "%input_patch",
    "float edges : SV_TessFactor", "%ubuffers", "ubuffer Weave : 0", "Thread[3] threads",
    "%structures", "struct Thread", "float4[2] colors"]

theorem types_of_build_loom : Shader.build "Loom" .domain loom.additions = .ok loom ∧
    loom.WellTyped ∧ (∀ addition ∈ loom.additions, addition.IsWellTyped) ∧
    ∃ text, Direct3D11.source loom = .ok text ∧
      text.LosesOnly .direct3D11 loom fun _ => False := by
  have hbuild : Shader.build "Loom" .domain loom.additions = .ok loom := by decide +kernel
  have hread : Shader.read loomText = .ok loom := by decide +kernel
  obtain ⟨text, htext⟩ : ∃ text, Direct3D11.source loom = .ok text :=
    exists_of_isOk (by decide +kernel)
  obtain ⟨hadditions, hall, hsizes⟩ := types_of_build hbuild
  have hwell := hall loomText loom hread
  exact ⟨hbuild, hwell, hadditions.mp hwell, text, htext,
    (hsizes .direct3D11 .v450 text htext).2 hwell⟩

/-- A pixel shader with a uniform array that is sized by tessellation factors. -/
def blur : Shader where
  name := "Blur"
  stage := .pixel
  uniformBuffers := [⟨"Kernel", 0, [⟨.array (.scalar .float) .outerFactors, "weights", 0⟩]⟩]

/-- A vertex shader with a vector that is seven wide. -/
def sprawl : Shader where
  name := "Sprawl"
  stage := .vertex
  input := [{ type := .vector .float 7, name := "limbs" }]

/-- Both are built, although neither is well typed, and the text of the first declares a single
float in place of the array. -/
theorem built_not_wellTyped :
    (Shader.build "Blur" .pixel blur.additions = .ok blur ∧ ¬blur.WellTyped ∧
      ∃ text, Direct3D11.source blur = .ok text ∧ text.declarations =
        [{ type := "float", name := "weights", boundTo := "packoffset(c0)" }]) ∧
    Shader.build "Sprawl" .vertex sprawl.additions = .ok sprawl ∧ ¬sprawl.WellTyped := by
  refine ⟨⟨by decide +kernel, fun h => ?_, ?_⟩, by decide +kernel, fun h => ?_⟩
  · exact h.resources (.array (.scalar .float) .outerFactors) (by decide) ⟨_, _, rfl, rfl⟩
  · obtain ⟨text, htext⟩ : ∃ text, Direct3D11.source blur = .ok text :=
      exists_of_isOk (by decide +kernel)
    have hdeclarations : (Direct3D11.source blur).map (·.declarations) =
        .ok [{ type := "float", name := "weights", boundTo := "packoffset(c0)" }] := by
      decide +kernel
    rw [htext] at hdeclarations
    exact ⟨text, htext, Except.ok.inj hdeclarations⟩
  · have hwidth : ValueType.HasDimensions (.vector .float 7) := h.dimensions _ (by decide)
    exact absurd hwidth.2 (by decide)

end CrossShade
