import CrossShade.Backend
import CrossShade.Proofs.Hlsl.Annotations
import CrossShade.Proofs.Hlsl.Semantics
import CrossShade.Proofs.Shader.Building
import CrossShade.Proofs.VertexLayout.Draft

/-!
# Vertex inputs of Direct3D 11

An input layout names semantics in two parts, name and index, while the source text has them in one.
HLSL takes the text apart by itself, and has to arrive at the parts that the layout names.

* `elementSemantic_eq` says that the parts are those of the annotation, whether the description has
  a semantic or the name of the variable stands for one.
* `elementSemantic_ofNat` says that the index of an element is the number of the annotation with
  that of the element added.
* `inputLayout_matches_source` is the conclusion for drafts and texts.
-/

namespace CrossShade.Direct3D11

open Hlsl

variable {v : Variable} {shader : Shader} {draft : LayoutDraft ElementSemantic}

/-- The number of an annotation and those of all elements of its variable have thirty-two bits. -/
def FitsElements (v : Variable) : Prop :=
  ∀ semantic count, v.semantic = some semantic → v.type.layoutElements = .ok count →
    (Semantic.read semantic).number + count.toNat < UInt32.size

/-- The parts that a layout names are those of the annotation. -/
theorem elementSemantic_eq
    (hfits : ∀ semantic, v.semantic = some semantic →
      (Semantic.read semantic).number < UInt32.size) (element : UInt32) :
    elementSemantic v element = ⟨(Semantic.read (semanticOf v)).name,
      UInt32.ofNat (Semantic.read (semanticOf v)).number + element⟩ := by
  cases hsemantic : v.semantic with
  | none =>
    have hzero : UInt32.ofNat 0 + element = element := UInt32.zero_add element
    rw [elementSemantic, Variable.semanticBase?, semanticOf, hsemantic, Option.getD_none,
      read_ownSemantic, hzero, Option.map_none]
  | some semantic =>
    have hindex : v.semanticIndex = UInt32.ofNat (Semantic.read semantic).number := by
      rw [← Variable.toNat_semanticIndex hsemantic (hfits semantic hsemantic), UInt32.ofNat_toNat]
    rw [elementSemantic, Variable.semanticBase?_eq_read hsemantic, semanticOf, hsemantic,
      Option.getD_some, hindex]

/-- An annotation made of a name has no number. -/
theorem number_semanticOf_add_lt (hfits : FitsElements v) {count : UInt32}
    (hcount : v.type.layoutElements = .ok count) :
    (Semantic.read (semanticOf v)).number + count.toNat < UInt32.size := by
  cases hsemantic : v.semantic with
  | none =>
    rw [semanticOf, hsemantic, Option.getD_none, read_ownSemantic, Nat.zero_add]
    exact UInt32.toNat_lt count
  | some semantic =>
    rw [semanticOf, hsemantic, Option.getD_some]
    exact hfits semantic count hsemantic hcount

/-- The index of an element is the number of the annotation with that of the element added. -/
theorem elementSemantic_ofNat (hfits : FitsElements v) {count : UInt32} {e : Nat}
    (hcount : v.type.layoutElements = .ok count) (he : e < count.toNat) :
    (elementSemantic v (UInt32.ofNat e)).name = (Semantic.read (semanticOf v)).name ∧
      (elementSemantic v (UInt32.ofNat e)).index.toNat =
        (Semantic.read (semanticOf v)).number + e := by
  have hsum := number_semanticOf_add_lt hfits hcount
  have hnumber : ∀ semantic, v.semantic = some semantic →
      (Semantic.read semantic).number < UInt32.size := fun semantic hsemantic =>
    Nat.lt_of_le_of_lt (Nat.le_add_right _ _) (hfits semantic count hsemantic hcount)
  rw [elementSemantic_eq hnumber, ← UInt32.ofNat_add]
  exact ⟨rfl, UInt32.toNat_ofNat_of_lt' (by omega)⟩

/-- An input layout has all elements of the inputs that are fed.  An element has the name that HLSL
reads in the annotation of its input, and its index is the number read there with that of the
element added.  The annotation is the one in the source text, if there is one. -/
theorem inputLayout_matches_source {name : String} {stage : Stage} {additions : List Addition}
    (hbuild : Shader.build name stage additions = .ok shader)
    (hfits : ∀ v ∈ shader.input, FitsElements v) (hdraft : backend.layoutDraft shader = .ok draft) :
    LayoutDraft.FeedsAll shader draft ∧
    ∀ entry ∈ draft.entries, ∃ v, shader.input[entry.input]? = some v ∧ entry.name = v.name ∧
      entry.part.name = (Semantic.read (semanticOf v)).name ∧
      entry.part.index.toNat = (Semantic.read (semanticOf v)).number + entry.element.toNat ∧
      ∀ text, source shader = .ok text → text.annotations "VS_Input" v.name = [semanticOf v] := by
  have hdraft : LayoutDraft.ofShader shader backend.layoutPart = .ok draft := hdraft
  refine ⟨LayoutDraft.feedsAll hdraft, fun entry hmem => ?_⟩
  obtain ⟨place, hentry⟩ := List.getElem?_of_mem hmem
  obtain ⟨v, e, hv, he, -, hisEntry⟩ := LayoutDraft.exists_input hdraft hentry
  have hinput := List.mem_of_getElem? hv
  have hfed := LayoutDraft.isFed_of_lt_placeCount he
  obtain ⟨count, hcount⟩ := LayoutDraft.exists_layoutElements hdraft hinput hfed
  rw [LayoutDraft.placeCount_of_isFed hfed hcount] at he
  have hpart : elementSemantic v (UInt32.ofNat e) = entry.part := Except.ok.inj hisEntry.part
  obtain ⟨hname, hindex⟩ := elementSemantic_ofNat (hfits v hinput) hcount he
  rw [hpart] at hname hindex
  have helement : entry.element.toNat = e := by
    rw [hisEntry.element, UInt32.toNat_ofNat_of_lt' (Nat.lt_trans he (UInt32.toNat_lt count))]
  refine ⟨v, hv, hisEntry.name, hname, by rw [hindex, helement], fun text htext => ?_⟩
  have hstage := (LayoutDraft.inputEntries_of_ofShader hdraft).1
  have hused : v.isUsed = true := (Bool.and_eq_true_iff.mp hfed).1
  have hbound := annotations_source htext (.inl hstage) (Shader.nodup_input_of_build hbuild)
    hinput hused
  rw [hstage] at hbound
  exact hbound

/-- Inputs with and without semantics, some of which end in digits. -/
def numberedInputs : List Variable :=
  [{ type := .matrix .float 4 3, name := "World" },
    { type := .vector .float 2, name := "Uv2" },
    { type := .array (.vector .float 2) (.fixed 2), name := "Offsets", semantic := "texcoord07" },
    { type := .float4, name := "Spare", semantic := "COLOR", isUsed := false },
    { type := .scalar .uint, name := "Corner", semantic := "SV_VertexID" }]

/-- A vertex shader with these inputs. -/
def numbered : Shader :=
  { name := "Lit", stage := .vertex, input := numberedInputs }

/-- The elements that they need. -/
def numberedEntries : List (LayoutEntry ElementSemantic) :=
  [⟨⟨"WORLD", 0⟩, 0, "World", 0, .float⟩, ⟨⟨"WORLD", 1⟩, 0, "World", 1, .float⟩,
    ⟨⟨"WORLD", 2⟩, 0, "World", 2, .float⟩, ⟨⟨"UV2_", 0⟩, 1, "Uv2", 0, .float⟩,
    ⟨⟨"TEXCOORD", 7⟩, 2, "Offsets", 0, .float⟩, ⟨⟨"TEXCOORD", 8⟩, 2, "Offsets", 1, .float⟩]

theorem inputLayout_matches_source_numbered : ∃ text,
    Shader.build "Lit" .vertex numbered.additions = .ok numbered ∧
      (∀ v ∈ numbered.input, FitsElements v) ∧
      backend.layoutDraft numbered = .ok ⟨"Lit", numberedEntries⟩ ∧ source numbered = .ok text ∧
      ∀ entry ∈ numberedEntries, ∃ v, numberedInputs[entry.input]? = some v ∧
        text.annotations "VS_Input" v.name = [semanticOf v] ∧
        entry.part.name = (Semantic.read (semanticOf v)).name := by
  have hbuild : Shader.build "Lit" .vertex numbered.additions = .ok numbered := by decide +kernel
  have hnumbers : ∀ v ∈ numbered.input, ∀ semantic ∈ v.semantic,
      (Semantic.read semantic).number ≤ 7 := by
    decide +kernel
  have hcounts : ∀ v ∈ numbered.input,
      v.type.layoutElements.toOption.all (fun count => count.toNat ≤ 3) = true := by
    decide +kernel
  have hfits : ∀ v ∈ numbered.input, FitsElements v := by
    intro v hv semantic count hsemantic hcount
    have hsize : UInt32.size = 4294967296 := rfl
    have hnumber := hnumbers v hv semantic hsemantic
    have hle := hcounts v hv
    rw [hcount] at hle
    have hle : count.toNat ≤ 3 := of_decide_eq_true hle
    omega
  have hdraft : backend.layoutDraft numbered = .ok ⟨"Lit", numberedEntries⟩ := by decide +kernel
  have hok : (source numbered).isOk = true := by decide +kernel
  obtain ⟨text, htext⟩ := exists_of_isOk hok
  refine ⟨text, hbuild, hfits, hdraft, htext, fun entry hentry => ?_⟩
  obtain ⟨v, hv, -, hname, -, hannotations⟩ :=
    (inputLayout_matches_source hbuild hfits hdraft).2 entry hentry
  exact ⟨v, hv, hannotations text htext, hname⟩

end CrossShade.Direct3D11
