import CrossShade.Proofs.Shader.Building
import CrossShade.Proofs.Shader.SectionBlocks
import CrossShade.Proofs.Shader.Sections
import CrossShade.Proofs.UniformBuffer.Layout

/-!
# Well-typed shaders

Validation looks at the lengths and the structures of types, but not at the dimensions of vectors
and matrices, and it looks for lengths that are counts of tessellation factors only in variables.
Types that a description spells are right in all of this; a builder takes others too.

* `ValueType.HasDimensions` says which dimensions vectors and matrices have, and `Shader.WellTyped`
  what is expected of all types of a shader.
* `wellTyped_iff_of_build` says that a shader that was built is well typed if the types of its
  additions are.
* `Description.TypesAdded` says which types a line can add (`Reading.typesAdded_step`), so all types
  of members can be read (`isReadable_foldlM`), and shaders that are read are well typed
  (`wellTyped_of_read`).
-/

namespace CrossShade

/-- Vectors are two to four wide, matrices have one to four rows and columns, and so it is with the
elements of arrays. -/
def ValueType.HasDimensions : ValueType → Prop
  | scalar _ | struct _ => True
  | vector _ width => 2 ≤ width ∧ width ≤ 4
  | matrix _ rows columns => (1 ≤ rows ∧ rows ≤ 4) ∧ 1 ≤ columns ∧ columns ≤ 4
  | array element _ => element.HasDimensions

/-- Types of variables and of resources that are as expected: all have possible dimensions, and no
resource is sized by tessellation factors. -/
structure TypesFit (list : List Variable) (types : List ValueType) : Prop where
  vars : ∀ v ∈ list, v.type.HasDimensions
  resources : ∀ type ∈ types, type.HasDimensions ∧ ¬type.IsFactorArray

/-- The variables that an addition brings. -/
def Addition.vars : Addition → List Variable
  | .input v | .output v | .inputExtra v | .inputPatch v | .outputPatch v => [v]
  | .stream s => s.outputs
  | _ => []

/-- The types of members and of elements that an addition brings. -/
def Addition.resourceTypes : Addition → List ValueType
  | .uniformBuffer b => b.members.map (·.type)
  | .readView view | .writeView view => [view.element]
  | .structure s => s.members.map (·.type)
  | _ => []

/-- The types that are added are as expected.  Variables that are sized by tessellation factors are
none of its business, since they are checked when the shader is built. -/
def Addition.IsWellTyped (addition : Addition) : Prop :=
  TypesFit addition.vars addition.resourceTypes

namespace Shader

/-- The types of the members of structures and uniform buffers and of the elements of views. -/
def resourceTypes (shader : Shader) : List ValueType :=
  (shader.structures.flatMap (·.members)).map (·.type) ++
    (shader.uniformBuffers.flatMap (·.members)).map (·.type) ++
    (shader.readViews ++ shader.writeViews).map (·.element)

/-- All types have possible dimensions, and only variables of patches are sized by tessellation
factors. -/
structure WellTyped (shader : Shader) : Prop where
  dimensions : ∀ type ∈ shader.declaredTypes, type.HasDimensions
  vars : ∀ v ∈ shader.stageVariables, ¬v.type.IsFactorArray
  resources : ∀ type ∈ shader.resourceTypes, ¬type.IsFactorArray

variable {shader : Shader} {name : String} {stage : Stage} {additions : List Addition}
  {type : ValueType} {v : Variable}

/-- For shaders that keep all rules, variables are not looked at twice. -/
theorem WellFormed.wellTyped_iff (h : shader.WellFormed) : shader.WellTyped ↔
    TypesFit (shader.patchVariables ++ shader.stageVariables) shader.resourceTypes := by
  have htypes : shader.declaredTypes =
      (shader.patchVariables ++ shader.stageVariables).map (·.type) ++ shader.resourceTypes := by
    simp only [declaredTypes, resourceTypes, List.append_assoc]
  constructor
  · rintro ⟨hdimensions, -, hresources⟩
    rw [htypes, List.forall_mem_append, List.forall_mem_map] at hdimensions
    exact ⟨hdimensions.1, fun type htype => ⟨hdimensions.2 type htype, hresources type htype⟩⟩
  · rintro ⟨hvars, hresources⟩
    refine ⟨?_, h.factors, fun type htype => (hresources type htype).2⟩
    rw [htypes, List.forall_mem_append, List.forall_mem_map]
    exact ⟨hvars, fun type htype => (hresources type htype).1⟩

/-! ## Building -/

/-- What each addition brings to a part of a shader is all that the part holds in the end. -/
theorem mem_collect {α : Type} (part : Shader → List α) {brought : Addition → List α} {x : α}
    (hnew : part { name, stage } = [])
    (hadd : ∀ shader addition,
      x ∈ part (shader.add addition) ↔ x ∈ part shader ∨ x ∈ brought addition) :
    x ∈ part (collect name stage additions) ↔ ∃ addition ∈ additions, x ∈ brought addition := by
  induction additions using List.reverseRecOn with
  | nil => simp [collect, hnew]
  | append_singleton earlier addition ih =>
    rw [collect_append, List.foldl_cons, List.foldl_nil, hadd, ih]
    simp [or_and_right, exists_or]

theorem mem_vars_collect :
    v ∈ (collect name stage additions).patchVariables ++
        (collect name stage additions).stageVariables ↔
      ∃ addition ∈ additions, v ∈ addition.vars := by
  refine mem_collect (fun shader => shader.patchVariables ++ shader.stageVariables) rfl ?_
  intro shader addition
  cases addition <;>
    simp only [add, patchVariables, stageVariables, Addition.vars, List.flatMap_append,
      List.flatMap_singleton, List.mem_append, List.not_mem_nil, or_false] <;> tauto

theorem mem_resourceTypes_collect : type ∈ (collect name stage additions).resourceTypes ↔
    ∃ addition ∈ additions, type ∈ addition.resourceTypes := by
  refine mem_collect resourceTypes rfl ?_
  intro shader addition
  cases addition <;>
    simp only [add, resourceTypes, Addition.resourceTypes, List.flatMap_append,
      List.flatMap_singleton, List.map_append, List.map_cons, List.map_nil, List.mem_append,
      List.not_mem_nil, or_false] <;> tauto

/-- Building adds nothing to the types and takes nothing away. -/
theorem wellTyped_iff_of_build (hbuild : build name stage additions = .ok shader) :
    shader.WellTyped ↔ ∀ addition ∈ additions, addition.IsWellTyped := by
  obtain ⟨hformed, rfl⟩ := accept_eq_ok_iff.mp hbuild
  rw [hformed.wellTyped_iff]
  constructor
  · intro h addition haddition
    exact ⟨fun v hv => h.vars v (mem_vars_collect.mpr ⟨addition, haddition, hv⟩),
      fun type htype =>
        h.resources type (mem_resourceTypes_collect.mpr ⟨addition, haddition, htype⟩)⟩
  · intro h
    refine ⟨fun v hv => ?_, fun type htype => ?_⟩
    · obtain ⟨addition, haddition, hmem⟩ := mem_vars_collect.mp hv
      exact (h addition haddition).vars v hmem
    · obtain ⟨addition, haddition, hmem⟩ := mem_resourceTypes_collect.mp htype
      exact (h addition haddition).resources type hmem

end Shader

/-! ## Reading types -/

namespace ValueType

variable {type : ValueType}

theorem IsElement.hasDimensions (h : type.IsElement) : type.HasDimensions := by
  rcases h with hnumeric | ⟨name, rfl, -, -⟩
  · cases type with
    | scalar base => trivial
    | vector base width =>
      simp only [IsNumeric, List.mem_cons, List.not_mem_nil, or_false] at hnumeric
      rcases hnumeric with rfl | rfl | rfl <;> exact ⟨by decide, by decide⟩
    | matrix base rows columns =>
      simp only [IsNumeric, List.mem_cons, List.not_mem_nil, or_false] at hnumeric
      obtain ⟨hrows, hcolumns⟩ := hnumeric
      refine ⟨?_, ?_⟩
      · rcases hrows with rfl | rfl | rfl | rfl <;> decide
      · rcases hcolumns with rfl | rfl | rfl | rfl <;> decide
    | array element size => exact hnumeric.elim
    | struct name => exact hnumeric.elim
  · trivial

/-- The types that descriptions spell have possible dimensions. -/
theorem IsReadable.hasDimensions (h : type.IsReadable) : type.HasDimensions := by
  rcases read_cases h with helement | ⟨element, length, rfl, -, helement⟩
  · exact helement.hasDimensions
  · exact helement.hasDimensions

/-- Descriptions have no spelling for counts of tessellation factors. -/
theorem IsReadable.not_isFactorArray (h : type.IsReadable) : ¬type.IsFactorArray := by
  rintro ⟨inner, size, rfl, hsize⟩
  rcases read_cases h with (hnumeric | ⟨name, heq, -⟩) | ⟨element, length, heq, -⟩
  · exact hnumeric
  · cases heq
  · cases heq
    cases hsize

end ValueType

namespace Description

variable {line : List Char} {type : ValueType} {v : Variable}

theorem isReadable_of_readType {text : List Char} (h : readType text = .ok type) :
    type.IsReadable := by
  unfold readType at h
  cases hread : ValueType.read text with
  | error fault => simp [hread] at h
  | ok found =>
    obtain rfl : found = type := by simpa [hread] using h
    exact ⟨text, hread⟩

theorem isReadable_of_readField {field : Field} (h : readField line = .ok field) :
    field.type.IsReadable := by
  unfold readField at h
  split at h
  · simp only [bind_eq_ok, pure_eq_ok] at h
    obtain ⟨found, hfound, _, -, rfl⟩ := h
    exact isReadable_of_readType hfound
  · cases h

theorem isReadable_of_readView {view : ViewBinding} (h : readView line = .ok view) :
    view.element.IsReadable := by
  unfold readView at h
  split at h
  · cases h
  · simp only [bind_eq_ok, pure_eq_ok] at h
    obtain ⟨⟨kind, element, name⟩, hhead, _, -, _, -, _, -, rfl⟩ := h
    unfold readViewHead at hhead
    split at hhead
    · split at hhead
      · cases hhead
      · simp only [bind_eq_ok, pure_eq_ok, Prod.mk.injEq] at hhead
        obtain ⟨found, hfound, -, rfl, -⟩ := hhead
        exact isReadable_of_readType hfound
    · split at hhead
      · cases hhead
      · simp only [Except.ok.injEq, Prod.mk.injEq] at hhead
        obtain ⟨-, rfl, -⟩ := hhead
        exact (by decide : ValueType.float4.IsReadable)

/-- Counts of tessellation factors come from semantics, in place of a single float. -/
theorem hasDimensions_withFactors (h : type.HasDimensions) (semantic : List Char) :
    (withFactors type semantic).HasDimensions := by
  unfold withFactors
  split
  · split
    · exact h
    · exact h
  · exact h

theorem hasDimensions_of_readVariable (h : readVariable line = .ok v) : v.type.HasDimensions := by
  simp only [readVariable] at h
  split at h
  · simp only [bind_eq_ok] at h
    obtain ⟨found, hfound, h⟩ := h
    have hdimensions := (isReadable_of_readType hfound).hasDimensions
    split at h
    · simp only [bind_eq_ok, pure_eq_ok] at h
      obtain ⟨_, -, rfl⟩ := h
      exact hdimensions
    · rename_i semantic _
      simp only [bind_eq_ok, pure_eq_ok] at h
      obtain ⟨_, -, _, -, rfl⟩ := h
      exact hasDimensions_withFactors hdimensions semantic
  · cases h

end Description

/-! ## Reading descriptions -/

/-- What the last of some things gets is behind all that they had. -/
theorem flatMap_changeLast? {α β : Type} {change : α → α} (held : α → List β) {added : List β}
    {list changed : List α} (hchange : ∀ x, held (change x) = held x ++ added)
    (h : changeLast? change list = some changed) :
    changed.flatMap held = list.flatMap held ++ added := by
  rcases List.eq_nil_or_concat list with rfl | ⟨earlier, last, rfl⟩
  · cases h
  · rw [List.concat_eq_append] at h ⊢
    rw [Reading.changeLast?_append] at h
    cases h
    simp [hchange]

namespace Description

/-- The variables that have been read. -/
def vars (description : Description) : List Variable :=
  description.input ++ description.output ++ description.inputExtra ++ description.inputPatch ++
    description.outputPatch ++ description.streams.flatMap (·.outputs)

/-- The types of members and of elements that have been read. -/
def resourceTypes (description : Description) : List ValueType :=
  (description.structures.flatMap (·.members)).map (·.type) ++
    (description.uniformBuffers.flatMap (·.members)).map (·.type) ++
    (description.readViews ++ description.writeViews).map (·.element)

/-- The types that have been read are as expected. -/
def WellTyped (description : Description) : Prop :=
  TypesFit description.vars description.resourceTypes

variable {description after : Description} {line : List Char} {v : Variable} {part : Section}

theorem mem_vars_addVariable {group : VariableGroup} {other : Variable}
    (h : other ∈ (description.addVariable group v).vars) :
    other ∈ description.vars ∨ other = v := by
  cases group with
  | stream =>
    simp only [addVariable, vars, List.mem_append] at h ⊢
    cases hstreams : changeLast? (fun stream : OutputStream =>
        { stream with outputs := stream.outputs ++ [v] }) description.streams with
    | none =>
      simp only [hstreams, Option.getD_none, List.flatMap_nil, List.not_mem_nil, or_false] at h
      tauto
    | some streams =>
      have hflat := flatMap_changeLast? OutputStream.outputs (fun _ => rfl) hstreams
      simp only [hstreams, Option.getD_some, hflat, List.mem_append, List.mem_singleton] at h
      tauto
  | _ =>
    simp only [addVariable, vars, List.mem_append, List.mem_singleton] at h ⊢
    tauto

/-- What is added to the types that have been read: variables of possible dimensions, and members
and elements of types that can be read. -/
structure TypesAdded (description after : Description) : Prop where
  vars : ∀ v ∈ after.vars, v ∈ description.vars ∨ v.type.HasDimensions
  resources : ∀ type ∈ after.resourceTypes, type ∈ description.resourceTypes ∨ type.IsReadable

namespace TypesAdded

theorem of_eq (hvars : after.vars = description.vars)
    (hresources : after.resourceTypes = description.resourceTypes) :
    TypesAdded description after :=
  ⟨fun _ hv => .inl (hvars ▸ hv), fun _ htype => .inl (hresources ▸ htype)⟩

/-- A variable is added, or the type of a member or of an element. -/
theorem of_variable (hv : v.type.HasDimensions)
    (hvars : ∀ other ∈ after.vars, other ∈ description.vars ∨ other = v)
    (hresources : after.resourceTypes = description.resourceTypes) :
    TypesAdded description after := by
  refine ⟨fun other hother => ?_, fun _ htype => .inl (hresources ▸ htype)⟩
  rcases hvars other hother with hmem | rfl
  · exact .inl hmem
  · exact .inr hv

theorem of_resource {found : ValueType} (hfound : found.IsReadable)
    (hvars : after.vars = description.vars)
    (hresources : ∀ type ∈ after.resourceTypes, type ∈ description.resourceTypes ∨ type = found) :
    TypesAdded description after := by
  refine ⟨fun _ hv => .inl (hvars ▸ hv), fun type htype => ?_⟩
  rcases hresources type htype with hmem | rfl
  · exact .inl hmem
  · exact .inr hfound

/-- What is added to types that are as expected is as expected. -/
theorem wellTyped (h : TypesAdded description after) (hbefore : description.WellTyped) :
    after.WellTyped := by
  refine ⟨fun v hv => ?_, fun type htype => ?_⟩
  · rcases h.vars v hv with hmem | hdimensions
    · exact hbefore.vars v hmem
    · exact hdimensions
  · rcases h.resources type htype with hmem | hreadable
    · exact hbefore.resources type hmem
    · exact ⟨hreadable.hasDimensions, hreadable.not_isFactorArray⟩

end TypesAdded

theorem typesAdded_addUniformLine (hadd : description.addUniformLine line = .ok after) :
    TypesAdded description after := by
  unfold Description.addUniformLine at hadd
  split at hadd
  · simp only [bind_eq_ok, pure_eq_ok] at hadd
    obtain ⟨⟨name, slot⟩, -, rfl⟩ := hadd
    exact .of_eq rfl (by simp [resourceTypes])
  · simp only [bind_eq_ok] at hadd
    obtain ⟨field, hfield, hadd⟩ := hadd
    split at hadd
    · rename_i buffers hbuffers
      obtain rfl := pure_eq_ok.mp hadd
      have hflat := flatMap_changeLast? BufferDraft.members (fun _ => rfl) hbuffers
      refine .of_resource (isReadable_of_readField hfield) rfl fun type htype => ?_
      simp only [resourceTypes, hflat, List.map_append, List.map_cons, List.map_nil,
        List.mem_append, List.mem_singleton] at htype ⊢
      tauto
    · cases hadd

theorem typesAdded_addStructureLine (hadd : description.addStructureLine line = .ok after) :
    TypesAdded description after := by
  unfold Description.addStructureLine at hadd
  split at hadd
  · simp only [bind_eq_ok, pure_eq_ok] at hadd
    obtain ⟨name, -, rfl⟩ := hadd
    exact .of_eq rfl (by simp [resourceTypes])
  · simp only [bind_eq_ok] at hadd
    obtain ⟨field, hfield, hadd⟩ := hadd
    split at hadd
    · rename_i structures hstructures
      obtain rfl := pure_eq_ok.mp hadd
      have hflat := flatMap_changeLast? Structure.members (fun _ => rfl) hstructures
      refine .of_resource (isReadable_of_readField hfield) rfl fun type htype => ?_
      simp only [resourceTypes, hflat, List.map_append, List.map_cons, List.map_nil,
        List.mem_append, List.mem_singleton] at htype ⊢
      tauto
    · cases hadd

/-- The lines of most sections add no types. -/
theorem typesAdded_addLine (hadd : description.addLine part line = .ok after) :
    TypesAdded description after := by
  cases part with
  | preamble => cases hadd
  | properties =>
    simp only [Description.addLine, addProperty] at hadd
    split at hadd
    · cases hadd
    · split at hadd
      · cases hadd
      · split at hadd
        · cases hadd
        · cases hadd
          exact .of_eq rfl rfl
  | interface group =>
    simp only [Description.addLine, bind_eq_ok, pure_eq_ok] at hadd
    obtain ⟨v, hv, rfl⟩ := hadd
    refine .of_variable (hasDimensions_of_readVariable hv) (fun _ => mem_vars_addVariable) ?_
    cases group <;> rfl
  | uniformBuffers => exact typesAdded_addUniformLine hadd
  | samplers =>
    simp only [Description.addLine, bind_eq_ok, pure_eq_ok] at hadd
    obtain ⟨sampler, -, rfl⟩ := hadd
    exact .of_eq rfl rfl
  | readViews =>
    simp only [Description.addLine, bind_eq_ok, pure_eq_ok] at hadd
    obtain ⟨view, hview, rfl⟩ := hadd
    refine .of_resource (isReadable_of_readView hview) rfl fun type htype => ?_
    simp only [resourceTypes, List.map_append, List.map_cons, List.map_nil, List.mem_append,
      List.mem_singleton] at htype ⊢
    tauto
  | writeViews =>
    simp only [Description.addLine, bind_eq_ok, pure_eq_ok] at hadd
    obtain ⟨view, hview, rfl⟩ := hadd
    refine .of_resource (isReadable_of_readView hview) rfl fun type htype => ?_
    simp only [resourceTypes, List.map_append, List.map_cons, List.map_nil, List.mem_append,
      List.mem_singleton] at htype ⊢
    tauto
  | structures => exact typesAdded_addStructureLine hadd
  | fixedSampling =>
    simp only [Description.addLine, addFixedSampling] at hadd
    split at hadd
    · cases hadd
    · simp only [bind_eq_ok, pure_eq_ok] at hadd
      obtain ⟨view, -, sampler, -, rfl⟩ := hadd
      exact .of_eq rfl rfl
  | code block =>
    cases hadd
    cases block <;> exact .of_eq rfl rfl

theorem typesAdded_addBody (hadd : addBody part description line = .ok after) :
    TypesAdded description after := by
  cases part with
  | code block =>
    have hline : description.addLine (.code block) line = .ok after := hadd
    exact typesAdded_addLine hline
  | _ =>
    simp only [addBody] at hadd
    split at hadd
    · cases hadd
      exact .of_eq rfl rfl
    · exact typesAdded_addLine hadd

end Description

namespace Reading

open Description (TypesAdded)

variable {reading next final : Reading} {line : List Char} {lines : List (List Char)}

/-- So it is with any line, be it a header or not. -/
theorem typesAdded_step (hstep : reading.step line = .ok next) :
    TypesAdded reading.description next.description := by
  rcases step_cases hstep with hsame | ⟨name, hstream⟩ | hadded
  · rw [hsame]
    exact .of_eq rfl rfl
  · rw [hstream]
    exact .of_eq (by simp [Description.vars]) rfl
  · exact Description.typesAdded_addBody hadded

/-- By induction on the lines, a description stays well typed. -/
theorem wellTyped_foldlM (h : reading.description.WellTyped)
    (hlines : lines.foldlM step reading = .ok final) : final.description.WellTyped :=
  foldlM_keeps (P := fun later => later.description.WellTyped)
    (fun _ _ _ hstep => (typesAdded_step hstep).wellTyped) hlines h

/-- All types of members and elements that are read from nothing on can be read. -/
theorem isReadable_foldlM (hlines : lines.foldlM step {} = .ok final) :
    ∀ type ∈ final.description.resourceTypes, type.IsReadable := by
  refine foldlM_keeps (P := fun later => ∀ type ∈ later.description.resourceTypes, type.IsReadable)
    ?_ hlines (List.forall_mem_nil _)
  intro later line next hstep hbefore type htype
  exact ((typesAdded_step hstep).resources type htype).elim (hbefore type) id

end Reading

namespace Description

/-- Every uniform buffer is packed on its own. -/
theorem forall₂_of_packBuffers {shader : String} {structures : List Structure}
    {drafts : List BufferDraft} {buffers : List UniformBuffer}
    (h : packBuffers shader structures drafts = .ok buffers) :
    List.Forall₂ (fun (draft : BufferDraft) buffer =>
      UniformBuffer.packed draft.name draft.slot draft.members structures = .ok buffer)
      drafts buffers := by
  induction drafts generalizing buffers with
  | nil =>
    cases h
    exact .nil
  | cons draft rest ih =>
    simp only [packBuffers, bind_eq_ok, pure_eq_ok] at h
    obtain ⟨buffer, hbuffer, others, hothers, rfl⟩ := h
    refine .cons ?_ (ih hothers)
    cases hpacked : UniformBuffer.packed draft.name draft.slot draft.members structures with
    | error fault => simp [hpacked] at hbuffer
    | ok packed => simpa [hpacked] using hbuffer

/-- Packing gives members their offsets and nothing else. -/
theorem types_of_packBuffers {shader : String} {structures : List Structure}
    {drafts : List BufferDraft} {buffers : List UniformBuffer}
    (h : packBuffers shader structures drafts = .ok buffers) :
    (buffers.flatMap (·.members)).map (·.type) = (drafts.flatMap (·.members)).map (·.type) := by
  have hpacked := forall₂_of_packBuffers h
  clear h
  induction hpacked with
  | nil => rfl
  | @cons draft buffer _ _ hbuffer _ ih =>
    have hmembers : buffer.members.map (·.type) = draft.members.map (·.type) := by
      obtain ⟨placed, hplaced, rfl⟩ := UniformBuffer.packed_eq_ok_iff.mp hbuffer
      rw [← UniformBuffer.fields_of_placeMembers hplaced, List.map_map]
      rfl
    rw [List.flatMap_cons, List.flatMap_cons, List.map_append, List.map_append, hmembers, ih]

end Description

namespace Shader

variable {text : String} {shader : Shader}

/-- Every shader that is read from a description is well typed. -/
theorem wellTyped_of_read (hread : Shader.read text = .ok shader) : shader.WellTyped := by
  simp only [Shader.read, bind_eq_ok, Reading.steps_eq_ok_iff] at hread
  obtain ⟨reading, hlines, built, hbuilt, haccept⟩ := hread
  obtain ⟨hformed, rfl⟩ := accept_eq_ok_iff.mp haccept
  have hempty : ({} : Reading).description.WellTyped :=
    ⟨List.forall_mem_nil _, List.forall_mem_nil _⟩
  have htypes := Reading.wellTyped_foldlM hempty hlines
  rw [hformed.wellTyped_iff]
  unfold Description.shader at hbuilt
  split at hbuilt
  · simp only [bind_eq_ok, pure_eq_ok] at hbuilt
    obtain ⟨name, -, stage, -, buffers, hbuffers, rfl⟩ := hbuilt
    refine ⟨fun v hv => htypes.vars v ?_, fun type htype => htypes.resources type ?_⟩
    · simp only [patchVariables, stageVariables, Description.vars, List.mem_append] at hv ⊢
      tauto
    · simpa only [resourceTypes, Description.resourceTypes,
        Description.types_of_packBuffers hbuffers] using htype
  · cases hbuilt

end Shader

end CrossShade
