import CrossShade.Direct3D11.Source
import CrossShade.Proofs.Direct3D9.Constants
import CrossShade.Proofs.OpenGL.Document

/-!
# Resources in source texts

What a source text for any target declares before the interface of its stage: global code, the
structures of the shader, its uniform buffers, samplers and views, and macros for fixed sampling.

* `Source.content` is a text without comments and empty lines.
* `ResourceParts` are the lists of these declarations, and `ResourceParts.Of` says that each of them
  declares what a shader has, one by one and in order.
* For each target, `exists_resourceParts` finds them in what the target declares.
-/

namespace CrossShade

open Source

/-- The source text of a shader for a target; only texts for OpenGL have a version. -/
def Target.source (version : OpenGL.Version) : Target → Shader → Except ShaderError Source
  | .direct3D9 => Direct3D9.source
  | .direct3D11 => Direct3D11.source
  | .openGL => OpenGL.source version

/-- How a target spells a type, without the length of an array. -/
def Target.spelling? : Target → ValueType → Option String
  | .openGL, type => type.glsl.toOption
  | _, type => some type.hlsl

/-- A declaration of a value with a name, a type and, in an array, a length. -/
structure Target.Declares (target : Target) (name : String) (type : ValueType)
    (length : Option UInt32) (d : Declaration) : Prop where
  name : d.name = name
  type : target.spelling? type = some d.type
  length : d.length = length

/-! ## Content -/

namespace Source

/-- Whether an item is more than a comment or an empty line. -/
def Item.speaks : Item → Bool
  | comment _ | blank => false
  | _ => true

@[simp] theorem Item.speaks_comment (text : String) : (comment text).speaks = false := rfl

@[simp] theorem Item.speaks_blank : blank.speaks = false := rfl

@[simp] theorem Item.speaks_verbatim (line : String) : (verbatim line).speaks = true := rfl

@[simp] theorem Item.speaks_define (name : String) (parameters : Option (List String))
    (body : String) : (define name parameters body).speaks = true := rfl

@[simp] theorem Item.speaks_global (d : Declaration) : (global d).speaks = true := rfl

@[simp] theorem Item.speaks_function (f : Function) : (function f).speaks = true := rfl

/-- The items of a text without comments and empty lines. -/
def content (source : Source) : List Item :=
  source.items.filter (·.speaks)

theorem content_ofItems (items : List Item) :
    (ofItems items).content = items.filter (·.speaks) := by
  have hspeaks : ∀ list : List Item,
      list.filter (·.speaks) = (list.filter (· ≠ .blank)).filter (·.speaks) := by
    intro list
    rw [List.filter_filter]
    refine List.filter_congr fun item _ => ?_
    cases item <;> rfl
  rw [content, hspeaks, filter_items_ofItems, ← hspeaks]

@[simp] theorem filter_blank : [Item.blank].filter (·.speaks) = [] := rfl

/-- What a list of declarations or functions says, is all of it. -/
theorem filter_speaks_map {α : Type} {item : α → Item} (h : ∀ x, (item x).speaks = true)
    (list : List α) : (list.map item).filter (·.speaks) = list.map item := by
  refine List.filter_eq_self.mpr fun found hfound => ?_
  obtain ⟨x, -, rfl⟩ := List.mem_map.mp hfound
  exact h x

/-- Whether an item says something and is neither a structure nor a function. -/
def Item.isPlain : Item → Bool
  | verbatim _ | define .. | block .. | global _ => true
  | _ => false

theorem filter_plain {items : List Item} (h : ∀ item ∈ items, item.isPlain = true) :
    items.filter (·.speaks) = items := by
  refine List.filter_eq_self.mpr fun item hitem => ?_
  have hplain := h item hitem
  cases item <;> first | rfl | cases hplain

end Source

/-! ## Resources -/

/-- A structure of a shader as it is declared, with all its members. -/
def Target.IsStructure (target : Target) (s : Structure) (item : Item) : Prop :=
  ∃ members, item = .struct s.name members ∧
    List.Forall₂ (fun field => target.Declares field.name field.type field.type.fixedLength?)
      s.members members

/-- Members as a block has them, and those that are no padding. -/
inductive Padded : (members own : List Declaration) → Prop
  | nil : Padded [] []
  | own (d : Declaration) {members own : List Declaration} :
    Padded members own → Padded (d :: members) (d :: own)
  | pad (index number : Nat) {members own : List Declaration} :
    Padded members own →
      Padded ({ type := "float", name := s!"_pad{index}_{number}" } :: members) own

theorem Padded.refl (members : List Declaration) : Padded members members := by
  induction members with
  | nil => exact .nil
  | cons d rest ih => exact .own d ih

/-- Declarations of some members of uniform buffers, one by one. -/
def Target.DeclareMembers (target : Target) (members : List UniformMember)
    (declared : List Declaration) : Prop :=
  List.Forall₂ (fun m => target.Declares m.name m.type m.type.fixedLength?) members declared

/-- A uniform buffer as a block. -/
def Target.IsBlock (target : Target) (buffer : UniformBuffer) (item : Item) : Prop :=
  ∃ header members own, item = .block buffer.name header members ∧ Padded members own ∧
    (target ≠ .openGL → members = own) ∧ target.DeclareMembers buffer.members own

/-- What declares some uniform buffers: a block for each of them, or, in the order of their slots,
all their members. -/
def Target.DeclareBuffers : Target → List UniformBuffer → List Item → Prop
  | .direct3D9, buffers, items => ∃ (row : List UniformBuffer)
    (declared : List Declaration), row.Perm buffers ∧ row.Pairwise (·.slot < ·.slot) ∧
    items = declared.map .global ∧
    Target.direct3D9.DeclareMembers (row.flatMap (·.members)) declared
  | target, buffers, items => List.Forall₂ target.IsBlock buffers items

/-- A declaration outside structures and blocks of something with a name. -/
def Source.Item.IsGlobal (name : String) (item : Item) : Prop :=
  ∃ d, item = .global d ∧ d.name = name

/-- What declares a view: a global or, for structured buffers in OpenGL, a block with a single
member. -/
inductive Target.IsView : Target → ViewBinding → Item → Prop
  | global {target : Target} {view : ViewBinding} {item : Item} :
    item.IsGlobal view.name → IsView target view item
  | storage {view : ViewBinding} {header type : String} : view.kind = .structuredBuffer →
    IsView .openGL view
      (.block s!"{view.name}_Data" header [{ type, name := s!"{view.name}[]" }])

/-- The macros by which code samples a view with its fixed sampler, one at a place and one at a
place and a level. -/
def AreSamplingMacros (pair : FixedSampling) (macros : List Item) : Prop :=
  ∃ sample sampleLevel, macros = [.define s!"SAMPLE_{pair.view}" (some ["uv"]) sample,
    .define s!"SAMPLE_LEVEL_{pair.view}" (some ["uv", "lod"]) sampleLevel]

/-- What a source text declares for global code and resources. -/
structure ResourceParts where
  globalCode : List Item
  structures : List Item
  uniformBuffers : List Item
  samplers : List Item
  readViews : List Item
  writeViews : List Item
  sampling : List (List Item)

/-- These parts in their order. -/
def ResourceParts.items (parts : ResourceParts) : List Item :=
  parts.globalCode ++ parts.structures ++ parts.uniformBuffers ++ parts.samplers ++
    parts.readViews ++ parts.writeViews ++ parts.sampling.flatten

/-- The parts are those of a shader: each list declares what the shader has, in the same order.
Samplers are no things of their own in Direct3D 9. -/
structure ResourceParts.Of (target : Target) (shader : Shader) (parts : ResourceParts) : Prop where
  globalCode : parts.globalCode = shader.globalCode.map .verbatim
  structures : List.Forall₂ target.IsStructure shader.structures parts.structures
  uniformBuffers : target.DeclareBuffers shader.uniformBuffers parts.uniformBuffers
  samplers : List.Forall₂ (fun sampler => Item.IsGlobal sampler.name)
    (if target = .direct3D9 then [] else shader.samplers) parts.samplers
  readViews : List.Forall₂ target.IsView shader.readViews parts.readViews
  writeViews : List.Forall₂ target.IsView shader.writeViews parts.writeViews
  sampling : List.Forall₂ AreSamplingMacros shader.fixedSampling parts.sampling

section Resources

variable {shader : Shader} {items : List Item} {target : Target} {type : ValueType} {name : String}

theorem filter_globalItems (shader : Shader) :
    (globalItems shader).filter (·.speaks) = shader.globalCode.map .verbatim := by
  rw [globalItems, List.filter_append, filter_speaks_map fun _ => rfl]
  exact List.append_nil _

/-- Where each of some things is declared by one item with an empty line after it, these items are
all that is said. -/
theorem forall₂_filter_flatten {α : Type} {R : α → Item → Prop} {list : List α}
    {lists : List (List Item)}
    (h : List.Forall₂ (fun x items => ∃ item, items = [item, .blank] ∧ item.speaks = true ∧
      R x item) list lists) : List.Forall₂ R list (lists.flatten.filter (·.speaks)) := by
  induction h with
  | nil => exact .nil
  | cons hfirst _ ih =>
    obtain ⟨item, rfl, hspeaks, hitem⟩ := hfirst
    rw [List.flatten_cons, List.filter_append, List.filter_cons_of_pos hspeaks]
    exact .cons hitem ih

theorem Hlsl.declares_declare (htarget : target ≠ .openGL) (type : ValueType) (name : String)
    (boundTo : Option String) :
    target.Declares name type type.fixedLength? (Hlsl.declare type name boundTo) := by
  refine ⟨rfl, ?_, rfl⟩
  cases target with
  | openGL => exact absurd rfl htarget
  | _ => rfl

theorem Hlsl.isStructure (htarget : target ≠ .openGL) (shader : Shader) :
    List.Forall₂ target.IsStructure shader.structures
      ((Hlsl.structures shader).filter (·.speaks)) := by
  rw [structures, List.flatMap_def]
  refine forall₂_filter_flatten ?_
  rw [List.forall₂_map_right_iff, List.forall₂_same]
  refine fun s _ => ⟨_, rfl, rfl, _, rfl, ?_⟩
  rw [List.forall₂_map_right_iff, List.forall₂_same]
  exact fun m _ => declares_declare htarget m.type m.name none

theorem Hlsl.declareMembers_map (htarget : target ≠ .openGL) (members : List UniformMember)
    (boundTo : UniformMember → Option String) :
    target.DeclareMembers members
      (members.map fun m => Hlsl.declare m.type m.name (boundTo m)) := by
  rw [Target.DeclareMembers, List.forall₂_map_right_iff, List.forall₂_same]
  exact fun m _ => declares_declare htarget m.type m.name (boundTo m)

theorem Hlsl.areSamplingMacros_map (pairs : List FixedSampling)
    (sample sampleLevel : FixedSampling → String) :
    List.Forall₂ AreSamplingMacros pairs (pairs.map fun pair =>
      samplingMacros pair.view (sample pair) (sampleLevel pair)) := by
  rw [List.forall₂_map_right_iff, List.forall₂_same]
  exact fun pair _ => ⟨_, _, rfl⟩

theorem isPlain_sampling {pairs : List FixedSampling} {lists : List (List Item)}
    (h : List.Forall₂ AreSamplingMacros pairs lists) :
    ∀ item ∈ lists.flatten, item.isPlain = true := by
  intro item hitem
  obtain ⟨macros, hmacros, hmem⟩ := List.mem_flatten.mp hitem
  obtain ⟨pair, -, sample, sampleLevel, rfl⟩ := exists_mem_of_forall₂ h hmacros
  simp only [List.mem_cons, List.not_mem_nil, or_false] at hmem
  rcases hmem with rfl | rfl <;> rfl

theorem isPlain_samplers {samplers : List SamplerBinding}
    (h : List.Forall₂ (fun sampler => Item.IsGlobal sampler.name) samplers items) :
    ∀ item ∈ items, item.isPlain = true := by
  intro item hitem
  obtain ⟨sampler, -, d, rfl, -⟩ := exists_mem_of_forall₂ h hitem
  rfl

theorem isPlain_views {views : List ViewBinding} (h : List.Forall₂ target.IsView views items) :
    ∀ item ∈ items, item.isPlain = true := by
  intro item hitem
  obtain ⟨view, -, hview⟩ := exists_mem_of_forall₂ h hitem
  cases hview with
  | global h =>
    obtain ⟨d, rfl, -⟩ := h
    rfl
  | storage _ => rfl

namespace Direct3D9

theorem writeViews_eq_nil_of_resources (h : resources shader = .ok items) :
    shader.writeViews = [] := by
  unfold resources at h
  split at h
  · cases h
  · assumption

/-- The constants of buffers are the members, one after the other. -/
theorem filter_constants {base : UInt32} {buffers : List UniformBuffer}
    (h : constants shader base buffers = .ok items) :
    ∃ declared, items.filter (·.speaks) = declared.map .global ∧
      Target.direct3D9.DeclareMembers (buffers.flatMap (·.members)) declared := by
  induction buffers generalizing base items with
  | nil =>
    cases h
    exact ⟨[], rfl, .nil⟩
  | cons buffer rest ih =>
    obtain ⟨members, -, _, following, hmembers, -, -, hfollowing, rfl⟩ := constants_cons_eq_ok h
    obtain ⟨declared, hfilter, hdeclared⟩ := ih hfollowing
    refine ⟨buffer.members.map (fun m => Hlsl.declare m.type m.name
      (constantRegister (base.toNat + (m.offset / 16).toNat))) ++ declared, ?_, ?_⟩
    · rw [List.cons_append, List.filter_cons_of_neg (by simp), List.filter_append,
        eq_map_of_declareConstant hmembers, filter_speaks_map fun _ => rfl, hfilter,
        List.map_append, List.map_map]
      rfl
    · exact List.rel_append (Hlsl.declareMembers_map (by decide) _ _) hdeclared

theorem isView_of_declareView {view : ViewBinding} {item : Item}
    (h : declareView view = .ok item) : Target.direct3D9.IsView view item := by
  unfold declareView at h
  split at h
  · cases h
  · cases h
    exact .global ⟨_, rfl, rfl⟩

/-- What the resources of a shader are declared with. -/
theorem exists_resourceParts (hformed : shader.WellFormed) (h : resources shader = .ok items) :
    ∃ parts : ResourceParts, items.filter (·.speaks) = parts.items ∧
      parts.Of .direct3D9 shader := by
  obtain ⟨constantItems, views, hconstants, hviews, rfl⟩ := resources_eq_ok h
  obtain ⟨declared, hfilter, hdeclared⟩ := filter_constants hconstants
  have hviewItems : List.Forall₂ Target.direct3D9.IsView shader.readViews views :=
    (mapM_eq_ok_iff.mp hviews).imp fun _ _ => isView_of_declareView
  have hsampling := Hlsl.areSamplingMacros_map shader.fixedSampling
    (fun pair => (samplingCalls
      (((shader.readView? pair.view).map (·.kind)).getD .texture2D) pair.view).1)
    (fun pair => (samplingCalls
      (((shader.readView? pair.view).map (·.kind)).getD .texture2D) pair.view).2)
  refine ⟨⟨_, _, _, [], views, [], _⟩, ?_, {
    globalCode := rfl
    structures := Hlsl.isStructure (by decide) shader
    uniformBuffers := ⟨_, declared, buffersBySlot_perm shader, pairwise_lt_buffersBySlot hformed,
      rfl, hdeclared⟩
    samplers := .nil
    readViews := hviewItems
    writeViews := by
      rw [writeViews_eq_nil_of_resources h]
      exact .nil
    sampling := hsampling }⟩
  have hviews := filter_plain (isPlain_views hviewItems)
  rw [ResourceParts.items, ← filter_plain (isPlain_sampling hsampling), ← hviews, ← hfilter,
    ← filter_globalItems, fixedSampling, List.flatMap_def]
  simp only [List.filter_append, filter_blank, List.append_nil, hviews]

end Direct3D9

namespace Direct3D11

theorem isBlock_declareBuffer (buffers : List UniformBuffer) :
    List.Forall₂ Target.direct3D11.IsBlock buffers
      ((buffers.flatMap declareBuffer).filter (·.speaks)) := by
  rw [List.flatMap_def]
  refine forall₂_filter_flatten ?_
  rw [List.forall₂_map_right_iff, List.forall₂_same]
  refine fun buffer _ => ⟨_, rfl, rfl, _, _, _, rfl, .refl _, fun _ => rfl, ?_⟩
  exact Hlsl.declareMembers_map (by decide) _ _

theorem isView_of_declareViewAs {type? : Option String} {registerClass : String}
    {view : ViewBinding} {item : Item} (h : declareViewAs type? registerClass view = .ok item) :
    Target.direct3D11.IsView view item := by
  unfold declareViewAs at h
  split at h
  · cases h
  · cases h
    exact .global ⟨_, rfl, rfl⟩

theorem isView_of_declareWriteView {stage : Stage} {view : ViewBinding} {item : Item}
    (h : declareWriteView stage view = .ok item) : Target.direct3D11.IsView view item := by
  unfold declareWriteView at h
  split at h
  · exact isView_of_declareViewAs h
  · cases h

/-- What the resources of a shader are declared with. -/
theorem exists_resourceParts (h : resources shader = .ok items) :
    ∃ parts : ResourceParts, items.filter (·.speaks) = parts.items ∧
      parts.Of .direct3D11 shader := by
  simp only [resources, bind_eq_ok, pure_eq_ok] at h
  obtain ⟨readViews, hreads, writeViews, hwrites, rfl⟩ := h
  have hreadItems : List.Forall₂ Target.direct3D11.IsView shader.readViews readViews :=
    (mapM_eq_ok_iff.mp hreads).imp fun _ _ => isView_of_declareViewAs
  have hwriteItems : List.Forall₂ Target.direct3D11.IsView shader.writeViews writeViews :=
    (mapM_eq_ok_iff.mp hwrites).imp fun _ _ => isView_of_declareWriteView
  have hsamplers : List.Forall₂ (fun sampler => Item.IsGlobal sampler.name) shader.samplers
      (shader.samplers.map declareSampler) := by
    rw [List.forall₂_map_right_iff, List.forall₂_same]
    exact fun sampler _ => ⟨_, rfl, rfl⟩
  have hsampling := Hlsl.areSamplingMacros_map shader.fixedSampling
    (fun pair => s!"{pair.view}.Sample({pair.sampler}, uv)")
    (fun pair => s!"{pair.view}.SampleLevel({pair.sampler}, uv, lod)")
  refine ⟨⟨_, _, _, _, readViews, writeViews, _⟩, ?_, {
    globalCode := rfl
    structures := Hlsl.isStructure (by decide) shader
    uniformBuffers := isBlock_declareBuffer shader.uniformBuffers
    samplers := hsamplers
    readViews := hreadItems
    writeViews := hwriteItems
    sampling := hsampling }⟩
  rw [ResourceParts.items, ← filter_plain (isPlain_sampling hsampling), ← filter_globalItems,
    fixedSampling]
  simp only [List.flatMap_def, List.filter_append, filter_blank, List.append_nil,
    filter_plain (isPlain_views hreadItems), filter_plain (isPlain_views hwriteItems),
    filter_plain (isPlain_samplers hsamplers)]

end Direct3D11

namespace OpenGL

theorem toOption_glsl {type : ValueType} {spelling : String} (h : typeName type = .ok spelling) :
    Target.openGL.spelling? type = some spelling := by
  unfold typeName at h
  cases hglsl : type.glsl with
  | error fault =>
    rw [hglsl] at h
    cases h
  | ok found =>
    rw [hglsl] at h
    cases h
    simp [Target.spelling?, hglsl, Except.toOption]

theorem declares_of_declare {type : ValueType} {name : String} {d : Declaration}
    (h : declare type name = .ok d) : Target.openGL.Declares name type type.fixedLength? d := by
  simp only [declare, bind_eq_ok, pure_eq_ok] at h
  obtain ⟨spelling, hspelling, rfl⟩ := h
  exact ⟨rfl, toOption_glsl hspelling, rfl⟩

theorem isStructure_of_declareStructure {s : Structure} (h : declareStructure s = .ok items) :
    ∃ item, items = [item, .blank] ∧ item.speaks = true ∧ Target.openGL.IsStructure s item := by
  simp only [declareStructure, bind_eq_ok, pure_eq_ok] at h
  obtain ⟨members, hmembers, rfl⟩ := h
  refine ⟨_, rfl, rfl, members, rfl, ?_⟩
  exact (mapM_eq_ok_iff.mp hmembers).imp fun _ _ => declares_of_declare

/-- Padding is no member of its own. -/
theorem padded_padding (index : Nat) (bytes : UInt32) {members own : List Declaration}
    (h : Padded members own) : Padded (padding index bytes ++ members) own := by
  unfold padding
  induction List.range (bytes / 4).toNat with
  | nil => exact h
  | cons number _ ih => exact .pad index number ih

theorem padded_blockMembers {buffer : String} {index : Nat} {position : UInt32}
    {members : List UniformMember} {declared : List Declaration}
    (h : blockMembers buffer index position members = .ok declared) :
    ∃ own, Padded declared own ∧ Target.openGL.DeclareMembers members own := by
  induction members generalizing index position declared with
  | nil =>
    cases h
    exact ⟨[], .nil, .nil⟩
  | cons member rest ih =>
    rw [blockMembers] at h
    split at h
    · cases h
    · obtain ⟨d, hd, h⟩ := bind_eq_ok.mp h
      split at h
      · cases h
      · simp only [bind_eq_ok, pure_eq_ok] at h
        obtain ⟨following, hfollowing, rfl⟩ := h
        obtain ⟨own, hpadded, hdeclared⟩ := ih hfollowing
        exact ⟨d :: own, padded_padding _ _ (.own d hpadded),
          .cons (declares_of_declare hd) hdeclared⟩

theorem isBlock_of_declareBlock {buffer : UniformBuffer} (h : declareBlock buffer = .ok items) :
    ∃ item, items = [item, .blank] ∧ item.speaks = true ∧ Target.openGL.IsBlock buffer item := by
  simp only [declareBlock, bind_eq_ok, pure_eq_ok] at h
  obtain ⟨members, hmembers, rfl⟩ := h
  obtain ⟨own, hpadded, hdeclared⟩ := padded_blockMembers hmembers
  exact ⟨_, rfl, rfl, _, members, own, rfl, hpadded, fun hother => absurd rfl hother, hdeclared⟩

theorem isView_of_declareStorage {access : String} {binding : UInt32} {view : ViewBinding}
    {item : Item} (hkind : view.kind = .structuredBuffer)
    (h : declareStorage access binding view = .ok item) : Target.openGL.IsView view item := by
  simp only [declareStorage, bind_eq_ok, pure_eq_ok] at h
  obtain ⟨type, -, rfl⟩ := h
  exact .storage hkind

theorem isView_of_declareReadView {view : ViewBinding} {item : Item}
    (h : declareReadView view = .ok item) : Target.openGL.IsView view item := by
  unfold declareReadView at h
  split at h
  · exact isView_of_declareStorage ‹_› h
  · split at h
    · cases h
    · cases h
      exact .global ⟨_, rfl, rfl⟩

theorem isView_of_declareWriteView {view : ViewBinding} {item : Item}
    (h : declareWriteView view = .ok item) : Target.openGL.IsView view item := by
  unfold declareWriteView at h
  split at h
  · exact isView_of_declareStorage ‹_› h
  · split at h
    · cases h
    · cases h
    · cases h
      exact .global ⟨_, rfl, rfl⟩

/-- A view whose sampling is fixed is declared, so there are macros for it. -/
theorem areSamplingMacros_of_samplePair (hformed : shader.WellFormed) {pair : FixedSampling}
    {macros : List Item} (hpair : pair ∈ shader.fixedSampling)
    (h : samplePair shader pair = .ok macros) : AreSamplingMacros pair macros := by
  obtain ⟨⟨view, hview, hname⟩, -⟩ := hformed.fixedDeclared pair hpair
  unfold samplePair at h
  split at h
  · rename_i hnone
    have hother := List.find?_eq_none.mp hnone view hview
    simp [hname] at hother
  · split at h
    · cases h
    · cases h
      exact ⟨_, _, rfl⟩

/-- What the resources of a shader are declared with. -/
theorem exists_resourceParts (hformed : shader.WellFormed) (h : resources shader = .ok items) :
    ∃ parts : ResourceParts, items.filter (·.speaks) = parts.items ∧
      parts.Of .openGL shader := by
  obtain ⟨structures, blocks, readViews, writeViews, sampling, hstructures, hblocks, hreads,
    hwrites, hsampling, rfl⟩ := resources_eq_ok_iff.mp h
  have hreadItems : List.Forall₂ Target.openGL.IsView shader.readViews readViews :=
    (mapM_eq_ok_iff.mp hreads).imp fun _ _ => isView_of_declareReadView
  have hwriteItems : List.Forall₂ Target.openGL.IsView shader.writeViews writeViews :=
    (mapM_eq_ok_iff.mp hwrites).imp fun _ _ => isView_of_declareWriteView
  have hsamplers : List.Forall₂ (fun sampler => Item.IsGlobal sampler.name) shader.samplers
      (shader.samplers.map declareSampler) := by
    rw [List.forall₂_map_right_iff, List.forall₂_same]
    exact fun sampler _ => ⟨_, rfl, rfl⟩
  have hmacros : List.Forall₂ AreSamplingMacros shader.fixedSampling sampling := by
    have hpairs := (List.forall₂_and_left _ _).mpr
      ⟨fun (pair : FixedSampling) hpair => hpair, mapM_eq_ok_iff.mp hsampling⟩
    exact hpairs.imp fun _ _ h => areSamplingMacros_of_samplePair hformed h.1 h.2
  refine ⟨⟨_, _, _, _, readViews, writeViews, sampling⟩, ?_, {
    globalCode := rfl
    structures := forall₂_filter_flatten
      ((mapM_eq_ok_iff.mp hstructures).imp fun _ _ => isStructure_of_declareStructure)
    uniformBuffers := forall₂_filter_flatten
      ((mapM_eq_ok_iff.mp hblocks).imp fun _ _ => isBlock_of_declareBlock)
    samplers := hsamplers
    readViews := hreadItems
    writeViews := hwriteItems
    sampling := hmacros }⟩
  simp only [ResourceParts.items, List.filter_append, filter_globalItems, filter_blank,
    List.append_nil, filter_plain (isPlain_views hreadItems),
    filter_plain (isPlain_views hwriteItems), filter_plain (isPlain_samplers hsamplers),
    filter_plain (isPlain_sampling hmacros)]

end OpenGL

end Resources

end CrossShade
