import CrossShade.Backend
import CrossShade.Proofs.Direct3D9.Registers
import CrossShade.Proofs.Hlsl.Annotations
import CrossShade.Proofs.VertexLayout.Draft

/-!
# Vertex inputs of shader model three

Two counters meet here.  The source text numbers the registers of the inputs, and the layout draft
numbers the places of their elements; what an input is annotated with has to be what the vertex
declaration looks for.

* `counted_eq_placeCount` says that both count the same for an input.
* `usage_of_annotated` says which usage an element asks for, in terms of the annotation.
* `vertexDeclaration_matches_source` puts them together.  An index that would start again at zero is
  refused before it does, as fifteen comes first.
-/

namespace CrossShade.Direct3D9

open Hlsl

variable {v : Variable} {text : String} {part : ElementUsage} {next element : UInt32}
  {place count first e : Nat}

/-! ## Annotations of inputs -/

/-- What an input is annotated with: its semantic, or else the number of its first place. -/
def inputSemantic (v : Variable) (first : Nat) : String :=
  v.semantic.getD s!"TEXCOORD{UInt32.ofNat first}"

theorem read_inputSemantic_of_unnamed (hnone : v.semantic = none) (first : Nat) :
    Semantic.read (inputSemantic v first) = ⟨"TEXCOORD", first % UInt32.size⟩ := by
  have hread : Semantic.read s!"TEXCOORD{UInt32.ofNat first}" =
      ⟨"TEXCOORD", (UInt32.ofNat first).toNat⟩ :=
    Semantic.read_numbered "TEXCOORD" (by decide) _
  rw [inputSemantic, hnone, Option.getD_none, hread, UInt32.toNat_ofNat']

theorem number_inputSemantic_lt
    (hfits : ∀ text, v.semantic = some text → (Semantic.read text).number < UInt32.size)
    (first : Nat) : (Semantic.read (inputSemantic v first)).number < UInt32.size := by
  cases hsemantic : v.semantic with
  | none =>
    rw [read_inputSemantic_of_unnamed hsemantic]
    exact Nat.mod_lt _ (by decide)
  | some semantic =>
    rw [inputSemantic, hsemantic, Option.getD_some]
    exact hfits semantic hsemantic

/-- A vertex input has no system values, and keeps its semantic. -/
theorem Interface.semantic_vertexInput
    (h : Interface.vertexInput.semantic (UInt32.ofNat first) v = .ok text) :
    v.isSystemValue = false ∧ text = inputSemantic v first := by
  unfold inputSemantic
  obtain ⟨register, hregister, hkept⟩ := bind_eq_ok.mp h
  have hsame : register = text := Except.ok.inj hkept
  subst hsame
  unfold Interface.register at hregister
  cases hsemantic : v.semantic with
  | none =>
    rw [hsemantic] at hregister
    refine ⟨by simp [Variable.isSystemValue, hsemantic], ?_⟩
    exact (Except.ok.inj hregister).symm
  | some semantic =>
    rw [hsemantic] at hregister
    dsimp only at hregister
    split at hregister
    · cases hregister
    · rename_i hsystem
      exact ⟨by simpa using hsystem, (Except.ok.inj hregister).symm⟩

/-- The text and the layout count the same. -/
theorem counted_eq_placeCount (hfed : LayoutDraft.isFed v = v.isUsed)
    (hcount : v.isUsed = true → ∃ count, v.type.layoutElements = .ok count) :
    Interface.vertexInput.counted v = LayoutDraft.placeCount v := by
  cases hused : v.isUsed with
  | false =>
    rw [LayoutDraft.placeCount_of_not_isFed (hfed.trans hused)]
    simp [Interface.counted, hused]
  | true =>
    obtain ⟨count, hcount⟩ := hcount hused
    rw [LayoutDraft.placeCount_of_isFed (hfed.trans hused) hcount]
    simp [Interface.counted, hused, registers, hcount]

/-! ## Usages -/

theorem elementUsage_eq_ok (h : elementUsage v element place = .ok part) :
    askedUsage v element place = .ok part ∧ part.index.toNat ≤ 15 := by
  unfold elementUsage at h
  split at h
  · cases h
  · rename_i asked hasked
    split at h
    · rename_i hle
      cases h
      exact ⟨hasked, UInt32.le_iff_toNat_le.mp hle⟩
    · cases h

theorem askedUsage_of_unnamed (hnone : v.semantic = none)
    (h : askedUsage v element place = .ok part) : part = ⟨5, UInt32.ofNat place⟩ := by
  rw [askedUsage, Variable.semanticBase?, hnone] at h
  exact (Except.ok.inj h).symm

theorem askedUsage_of_named (hsome : v.semantic = some text)
    (h : askedUsage v element place = .ok part) :
    usageNames.idxOf? (Semantic.read text).name = some part.usage.toNat ∧
      part.index = v.semanticIndex + element := by
  rw [askedUsage, Variable.semanticBase?_eq_read hsome] at h
  dsimp only at h
  split at h
  · cases h
  · rename_i usage husage
    cases h
    obtain ⟨hlt, -⟩ := List.idxOf?_eq_some_iff.mp husage
    have hfits : usage < UInt32.size := Nat.lt_trans hlt (by decide)
    rw [husage, UInt32.toNat_ofNat_of_lt' hfits]
    exact ⟨rfl, rfl⟩

/-- What an element asks for is the usage that the annotation of its input names, with the number of
the annotation and that of the element added up; `first` is the place of the first element. -/
theorem usage_of_annotated
    (hfits : ∀ text, v.semantic = some text → (Semantic.read text).number < UInt32.size)
    (h : elementUsage v (UInt32.ofNat e) (first + e) = .ok part) :
    usageNames.idxOf? (Semantic.read (inputSemantic v first)).name = some part.usage.toNat ∧
      part.index.toNat = ((Semantic.read (inputSemantic v first)).number + e) % UInt32.size ∧
      part.index.toNat ≤ 15 := by
  obtain ⟨hasked, hle⟩ := elementUsage_eq_ok h
  cases hsemantic : v.semantic with
  | none =>
    obtain rfl := askedUsage_of_unnamed hsemantic hasked
    have htexcoord : usageNames.idxOf? "TEXCOORD" = some (5 : UInt32).toNat := by decide
    rw [read_inputSemantic_of_unnamed hsemantic]
    exact ⟨htexcoord, by simp, hle⟩
  | some semantic =>
    obtain ⟨husage, hindex⟩ := askedUsage_of_named hsemantic hasked
    rw [inputSemantic, hsemantic, Option.getD_some]
    refine ⟨husage, ?_, hle⟩
    rw [hindex, UInt32.toNat_add, Variable.toNat_semanticIndex hsemantic (hfits _ hsemantic),
      UInt32.toNat_ofNat', Nat.add_mod_mod]

/-- A row of numbers of which no remainder exceeds fifteen does not exceed it: sixteen would have to
be in it. -/
theorem add_le_of_forall_mod_le (hfirst : first < UInt32.size)
    (h : ∀ e < count, (first + e) % UInt32.size ≤ 15) (he : e < count) : first + e ≤ 15 := by
  have hsize : UInt32.size = 4294967296 := rfl
  have hstart := h 0 (by omega)
  rw [Nat.add_zero, Nat.mod_eq_of_lt hfirst] at hstart
  by_contra hgreater
  have hsixteen := h (16 - first) (by omega)
  rw [Nat.add_sub_cancel' (by omega)] at hsixteen
  exact absurd hsixteen (by decide)

/-! ## Entries -/

/-- An entry of a draft looks for what its input is annotated with; of an input without a semantic
that is its place. -/
structure IsDeclared (v : Variable) (annotated : Semantic) (place : Nat)
    (entry : LayoutEntry ElementUsage) : Prop where
  usage : usageNames.idxOf? annotated.name = some entry.part.usage.toNat
  index : entry.part.index.toNat = annotated.number + entry.element.toNat
  index_le : entry.part.index.toNat ≤ 15
  place : v.semantic = none → annotated.name = "TEXCOORD" ∧
    annotated.number + entry.element.toNat = place % UInt32.size

variable {shader : Shader} {source : Source} {draft : LayoutDraft ElementUsage}
  {entry : LayoutEntry ElementUsage} {vars : List Variable} {semantics : List (String × String)}
  {i : Nat}

/-- A list that has been annotated feeds all inputs that are used. -/
theorem isFed_eq_isUsed (h : Interface.vertexInput.semanticsFrom 0 vars = .ok semantics)
    (hnames : (vars.map (·.name)).Nodup) (hv : v ∈ vars) : LayoutDraft.isFed v = v.isUsed := by
  cases hused : v.isUsed with
  | false => simp [LayoutDraft.isFed, hused]
  | true =>
    obtain ⟨i, hi⟩ := List.getElem?_of_mem hv
    obtain ⟨text, hgiven, -⟩ := Interface.lookup_semanticsFrom h hnames hi hused
    rw [UInt32.zero_add] at hgiven
    have hsystem := (Interface.semantic_vertexInput hgiven).1
    simp [LayoutDraft.isFed, hused, hsystem]

/-- An input that is fed is annotated for its first place. -/
theorem annotations_of_isFed (hnames : (shader.input.map (·.name)).Nodup)
    (hsource : Direct3D9.source shader = .ok source)
    (hdraft : LayoutDraft.ofShader shader elementUsage = .ok draft)
    (hv : shader.input[i]? = some v) (hfed : LayoutDraft.isFed v = true) :
    source.annotations "VS_Input" v.name =
      [inputSemantic v (runStart LayoutDraft.placeCount shader.input i)] := by
  obtain ⟨hstage, -⟩ := LayoutDraft.inputEntries_of_ofShader hdraft
  have hused : v.isUsed = true := (Bool.and_eq_true_iff.mp hfed).1
  obtain ⟨semantics, hsemantics, hannotations⟩ :=
    annotations_source hsource hnames (List.mem_of_getElem? hv) hused
  rw [hstage] at hsemantics hannotations
  have hfrom : Interface.vertexInput.semanticsFrom 0 shader.input = .ok semantics :=
    semanticsFrom_of_semantics hsemantics
  obtain ⟨text, hgiven, hlookup⟩ := Interface.lookup_semanticsFrom hfrom hnames hv hused
  have hsame : runStart Interface.vertexInput.counted shader.input i =
      runStart LayoutDraft.placeCount shader.input i := by
    refine runStart_congr (fun w hw => ?_) i
    have hboth := isFed_eq_isUsed hfrom hnames hw
    exact counted_eq_placeCount hboth fun hused =>
      LayoutDraft.exists_layoutElements hdraft hw (hboth.trans hused)
  rw [UInt32.zero_add, hsame] at hgiven
  rw [← (Interface.semantic_vertexInput hgiven).2]
  exact hannotations.trans (congrArg Option.toList hlookup)

/-- An entry at a place declares an element of its input as the input is annotated. -/
theorem isDeclared_of_isEntry (hdraft : LayoutDraft.ofShader shader elementUsage = .ok draft)
    (hfits : ∀ text, v.semantic = some text → (Semantic.read text).number < UInt32.size)
    (hv : shader.input[i]? = some v) (he : e < LayoutDraft.placeCount v)
    (h : LayoutDraft.IsEntry elementUsage v i e
      (runStart LayoutDraft.placeCount shader.input i + e) entry) :
    IsDeclared v
      (Semantic.read (inputSemantic v (runStart LayoutDraft.placeCount shader.input i)))
      (runStart LayoutDraft.placeCount shader.input i + e) entry := by
  have hsize : UInt32.size = 4294967296 := rfl
  have hnumber := number_inputSemantic_lt hfits (runStart LayoutDraft.placeCount shader.input i)
  have hsmall : (Semantic.read (inputSemantic v
      (runStart LayoutDraft.placeCount shader.input i))).number + e ≤ 15 := by
    -- the draft has the other elements of the input as well, with indices that were accepted
    refine add_le_of_forall_mod_le hnumber (fun e' he' => ?_) he
    obtain ⟨found, -, hfound⟩ := LayoutDraft.exists_entry hdraft hv he'
    obtain ⟨-, hindex, hle⟩ := usage_of_annotated hfits hfound.part
    rwa [← hindex]
  obtain ⟨husage, hindex, hle⟩ := usage_of_annotated hfits h.part
  have helement : entry.element.toNat = e := by
    rw [h.element, UInt32.toNat_ofNat_of_lt' (by omega)]
  rw [Nat.mod_eq_of_lt (by omega), ← helement] at hindex
  refine ⟨husage, hindex, hle, fun hnone => ?_⟩
  have hpart := askedUsage_of_unnamed hnone (elementUsage_eq_ok h.part).1
  rw [← hindex, hpart, read_inputSemantic_of_unnamed hnone, UInt32.toNat_ofNat']
  exact ⟨rfl, rfl⟩

/-- An index of at most fifteen is the same in eight bits. -/
theorem declareElement_eq_ok {element : VertexElement} {declared : DeclaredElement}
    (hle : entry.part.index.toNat ≤ 15) (h : declareElement entry element = .ok declared) :
    declared.usage = entry.part.usage ∧ declared.usageIndex.toNat = entry.part.index.toNat := by
  simp only [declareElement, bind_eq_ok, pure_eq_ok] at h
  obtain ⟨stream, -, offset, -, type, -, rfl⟩ := h
  refine ⟨rfl, ?_⟩
  rw [UInt32.toNat_toUInt8, Nat.mod_eq_of_lt (by omega)]

/-- A vertex declaration has all elements of the inputs that are fed.  An element has the usage that
the annotation of its input names, and its index is the number of the annotation with that of the
element added.  An input without a semantic is annotated with the place of its first element,
counted in thirty-two bits, which is the place itself unless there are more entries than these can
count.  No index loses anything in eight bits. -/
theorem vertexDeclaration_matches_source {name : String} {stage : Stage} {additions : List Addition}
    (hbuild : Shader.build name stage additions = .ok shader)
    (hfits : ∀ v ∈ shader.input, ∀ text, v.semantic = some text →
      (Semantic.read text).number < UInt32.size)
    (hsource : Direct3D9.source shader = .ok source)
    (hdraft : backend.layoutDraft shader = .ok draft) :
    LayoutDraft.FeedsAll shader draft ∧
    ∀ place entry, draft.entries[place]? = some entry → ∃ v text,
      shader.input[entry.input]? = some v ∧ entry.name = v.name ∧
      source.annotations "VS_Input" v.name = [text] ∧
      IsDeclared v (Semantic.read text) place entry ∧
      (draft.length ≤ UInt32.size → v.semantic = none →
        (Semantic.read text).number + entry.element.toNat = place) ∧
      ∀ element declared, declareElement entry element = .ok declared →
        declared.usage = entry.part.usage ∧
          declared.usageIndex.toNat = entry.part.index.toNat := by
  have hdraft : LayoutDraft.ofShader shader elementUsage = .ok draft := hdraft
  refine ⟨LayoutDraft.feedsAll hdraft, fun place entry hentry => ?_⟩
  have hplace : place < draft.length := (List.getElem?_eq_some_iff.mp hentry).1
  have hnames := Shader.nodup_input_of_build hbuild
  obtain ⟨v, e, hv, he, rfl, hisEntry⟩ := LayoutDraft.exists_input hdraft hentry
  have hannotations := annotations_of_isFed hnames hsource hdraft hv
    (LayoutDraft.isFed_of_lt_placeCount he)
  have hdeclared := isDeclared_of_isEntry hdraft (hfits v (List.mem_of_getElem? hv)) hv he hisEntry
  refine ⟨v, _, hv, hisEntry.name, hannotations, hdeclared, fun hcounted hnone => ?_,
    fun element declared h => declareElement_eq_ok hdeclared.index_le h⟩
  rw [(hdeclared.place hnone).2, Nat.mod_eq_of_lt (Nat.lt_of_lt_of_le hplace hcounted)]

/-- Inputs of every sort: several registers wide, unused, named and unnamed. -/
def mixedInputs : List Variable :=
  [{ type := .matrix .float 4 3, name := "World" },
    { type := .float4, name := "Spare", semantic := "SV_VertexID", isUsed := false },
    { type := .array (.vector .float 2) (.fixed 2), name := "Offsets", semantic := "texcoord7" },
    { type := .vector .float 3, name := "Normal", semantic := "Normal" },
    { type := .vector .float 2, name := "Uv" }]

/-- The elements that they need; `Uv` stands at the sixth place, after four unnamed and three named
ones. -/
def mixedEntries : List (LayoutEntry ElementUsage) :=
  [⟨⟨5, 0⟩, 0, "World", 0, .float⟩, ⟨⟨5, 1⟩, 0, "World", 1, .float⟩,
    ⟨⟨5, 2⟩, 0, "World", 2, .float⟩, ⟨⟨5, 7⟩, 2, "Offsets", 0, .float⟩,
    ⟨⟨5, 8⟩, 2, "Offsets", 1, .float⟩, ⟨⟨3, 0⟩, 3, "Normal", 0, .float⟩,
    ⟨⟨5, 6⟩, 4, "Uv", 0, .float⟩]

theorem vertexDeclaration_matches_source_mixedInputs : ∃ source,
    Shader.build "Lit" .vertex (lit mixedInputs).additions = .ok (lit mixedInputs) ∧
      (∀ v ∈ mixedInputs, ∀ text, v.semantic = some text →
        (Semantic.read text).number < UInt32.size) ∧
      Direct3D9.source (lit mixedInputs) = .ok source ∧
      backend.layoutDraft (lit mixedInputs) = .ok ⟨"Lit", mixedEntries⟩ ∧
      ∀ place entry, mixedEntries[place]? = some entry → ∃ v text,
        mixedInputs[entry.input]? = some v ∧
          source.annotations "VS_Input" v.name = [text] ∧
          IsDeclared v (Semantic.read text) place entry ∧
          (v.semantic = none → (Semantic.read text).number + entry.element.toNat = place) := by
  have hbuild : Shader.build "Lit" .vertex (lit mixedInputs).additions = .ok (lit mixedInputs) := by
    decide +kernel
  have hfits : ∀ v ∈ mixedInputs, ∀ text ∈ v.semantic,
      (Semantic.read text).number < UInt32.size := by
    decide +kernel
  have hdraft : backend.layoutDraft (lit mixedInputs) = .ok ⟨"Lit", mixedEntries⟩ := by
    decide +kernel
  have hok : (Direct3D9.source (lit mixedInputs)).isOk = true := by decide +kernel
  obtain ⟨source, hsource⟩ := exists_of_isOk hok
  refine ⟨source, hbuild, hfits, hsource, hdraft, fun place entry hentry => ?_⟩
  obtain ⟨v, text, hv, -, hannotations, hdeclared, hplace, -⟩ :=
    (vertexDeclaration_matches_source hbuild hfits hsource hdraft).2 place entry hentry
  exact ⟨v, text, hv, hannotations, hdeclared, hplace (by decide)⟩

end CrossShade.Direct3D9
