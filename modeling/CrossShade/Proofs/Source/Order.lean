import CrossShade.Proofs.Shader.Building
import CrossShade.Proofs.Source.Programs
import CrossShade.Proofs.Source.Rendering

/-!
# Order of source texts

A source text declares everything that its shader has, once and in order, and it holds the lines of
code as they are, also when it is rendered.

* `holdsCode` says which functions hold the code of a shader.
* `infix_items_ofItems` finds lines that are copied side by side among the items.
* `source_in_order` is the conclusion.
-/

namespace CrossShade

open Source

/-- The function has a name, and lines of code side by side in its body. -/
structure Source.Function.Holds (f : Function) (name : String) (code : List String) : Prop where
  name : f.name = name
  code : code <:+: f.body

/-- The functions are the entry point and, in a hull shader, before it the function for patch
constants, each with its code. -/
def Shader.HoldsCode (shader : Shader) (functions : List Function) : Prop :=
  match shader.stage with
  | .hull => ∃ patch main, functions = [patch, main] ∧
    patch.Holds "PatchConstantFunction" shader.patchCode ∧ main.Holds "main" shader.mainCode
  | _ => ∃ main, functions = [main] ∧ main.Holds "main" shader.mainCode

section Code

variable {shader : Shader} {target : Target} {version : OpenGL.Version} {text : Source}
  {interfaces : List (Option InterfaceStruct)} {functions : List Function} {code : List String}

theorem Hlsl.infix_returningBody (output : Option (String × String)) (code : List String) :
    code <:+: Hlsl.returningBody output code := by
  cases output with
  | none => exact List.infix_rfl
  | some output => exact List.infix_append [_] code [_]

theorem Hlsl.holds_returning (name result : String) (attributes : List String)
    (output : Option InterfaceStruct) (parameters code : List String) :
    (Hlsl.returning name result attributes output parameters code).Holds name code :=
  ⟨rfl, infix_returningBody _ code⟩

theorem OpenGL.infix_body (interface : OpenGL.StageInterface) (code : List String) :
    code <:+: interface.body code := by
  unfold StageInterface.body
  exact List.infix_append ..

theorem holdsCode_of_single (hstage : shader.stage ≠ .hull) {main : Function}
    (h : main.Holds "main" shader.mainCode) : shader.HoldsCode [main] := by
  unfold Shader.HoldsCode
  split
  · exact absurd ‹_› hstage
  · exact ⟨main, rfl, h⟩

/-- Each kind of text has the functions that hold the code. -/
theorem holdsCode (h : Wiring shader target interfaces functions) :
    shader.HoldsCode functions := by
  cases h with
  | plain _ hstage =>
    refine holdsCode_of_single ?_ (Hlsl.holds_returning ..)
    rcases hstage with hstage | hstage <;> simp [hstage]
  | compute _ hstage => exact holdsCode_of_single (by simp [hstage]) (Hlsl.holds_returning ..)
  | hull _ _ hstage =>
    rw [Shader.HoldsCode, hstage]
    exact ⟨_, _, rfl, Hlsl.holds_returning .., Hlsl.holds_returning ..⟩
  | domain _ _ hstage => exact holdsCode_of_single (by simp [hstage]) (Hlsl.holds_returning ..)
  | geometry _ _ _ hstage _ =>
    exact holdsCode_of_single (by simp [hstage]) ⟨rfl, (List.suffix_append ..).isInfix⟩
  | openGL hsupports _ =>
    refine holdsCode_of_single ?_ ⟨rfl, OpenGL.infix_body _ _⟩
    intro hhull
    simp [hhull, OpenGL.supports] at hsupports

/-! ## Global code -/

theorem items_foldl_add {items : List Item} (h : ∀ item ∈ items, item ≠ .blank) (source : Source) :
    (items.foldl add source).items = source.items ++ items := by
  induction items generalizing source with
  | nil => simp
  | cons item rest ih =>
    obtain ⟨hitem, hrest⟩ := List.forall_mem_cons.mp h
    rw [List.foldl_cons, ih hrest, add, if_neg hitem, items_push, List.append_assoc,
      List.singleton_append]

theorem prefix_items_foldl_add (items : List Item) (source : Source) :
    source.items <+: (items.foldl add source).items := by
  induction items generalizing source with
  | nil => exact List.prefix_rfl
  | cons item rest ih =>
    refine .trans ?_ (ih (source.add item))
    rcases items_add source item with hadd | ⟨-, hsame⟩
    · rw [hadd]
      exact List.prefix_append ..
    · exact ⟨[], by rw [hsame, List.append_nil]⟩

/-- Items that stand side by side stay so when none of them is an empty line. -/
theorem infix_items_ofItems {middle : List Item} (h : ∀ item ∈ middle, item ≠ .blank)
    (before after : List Item) : middle <:+: (ofItems (before ++ middle ++ after)).items := by
  rw [ofItems, List.foldl_append, List.foldl_append]
  refine List.IsInfix.trans ?_ (prefix_items_foldl_add after _).isInfix
  rw [items_foldl_add h]
  exact (List.suffix_append ..).isInfix

/-- The resources of a text begin with global code. -/
theorem exists_text_eq (h : target.source version shader = .ok text) :
    ∃ before after, text = ofItems (before ++ shader.globalCode.map .verbatim ++ after) := by
  cases target with
  | direct3D9 =>
    simp only [Target.source, Direct3D9.source] at h
    split at h
    · cases h
    · simp only [bind_eq_ok, pure_eq_ok] at h
      obtain ⟨_, hresources, _, -, _, -, input, -, output, -, rfl⟩ := h
      obtain ⟨constantItems, views, -, -, rfl⟩ := Direct3D9.resources_eq_ok hresources
      simp only [globalItems, List.append_assoc]
      exact ⟨[_, _], _, congrArg ofItems (List.append_assoc ..).symm⟩
  | direct3D11 =>
    simp only [Target.source, Direct3D11.source, Direct3D11.resources, bind_eq_ok, pure_eq_ok] at h
    obtain ⟨_, ⟨readViews, -, writeViews, -, rfl⟩, body, -, rfl⟩ := h
    simp only [globalItems, List.append_assoc]
    exact ⟨[_, _], _, congrArg ofItems (List.append_assoc ..).symm⟩
  | openGL =>
    obtain ⟨_, interface, group, hresources, -, -, rfl⟩ := OpenGL.parts_of_source h
    obtain ⟨structures, blocks, readViews, writeViews, sampling, -, -, -, -, -, rfl⟩ :=
      OpenGL.resources_eq_ok_iff.mp hresources
    simp only [globalItems, List.append_assoc]
    exact ⟨[_, _, _] ++ OpenGL.prelude_, _, congrArg ofItems
      ((List.append_assoc ..).symm.trans (List.append_assoc ..).symm)⟩

theorem infix_globalCode (h : target.source version shader = .ok text) :
    shader.globalCode.map .verbatim <:+: text.items := by
  obtain ⟨before, after, rfl⟩ := exists_text_eq h
  refine infix_items_ofItems (fun item hitem => ?_) before after
  obtain ⟨line, -, rfl⟩ := List.mem_map.mp hitem
  simp

/-! ## Code of functions -/

/-- The code of a function is among the lines of the text. -/
theorem Source.Function.Holds.infix_lines {f : Function} {name : String} (h : f.Holds name code)
    (hf : f ∈ functions) (hitems : ∀ g ∈ functions, .function g ∈ text.items)
    (hcode : ∀ line ∈ code, '\n' ∉ line.toList) : code.map String.toList <:+: text.lines :=
  infix_lines_of_function hcode (hitems f hf) h.code

theorem Shader.HoldsCode.infix_mainCode (h : shader.HoldsCode functions)
    (hitems : ∀ g ∈ functions, .function g ∈ text.items)
    (hcode : ∀ line ∈ shader.mainCode, '\n' ∉ line.toList) :
    shader.mainCode.map String.toList <:+: text.lines := by
  unfold Shader.HoldsCode at h
  split at h
  · obtain ⟨patch, main, rfl, -, hmain⟩ := h
    exact hmain.infix_lines (by simp) hitems hcode
  · obtain ⟨main, rfl, hmain⟩ := h
    exact hmain.infix_lines (by simp) hitems hcode

/-- Only hull shaders have code for patch constants. -/
theorem Shader.HoldsCode.infix_patchCode (hformed : shader.WellFormed)
    (h : shader.HoldsCode functions) (hitems : ∀ g ∈ functions, .function g ∈ text.items)
    (hcode : ∀ line ∈ shader.patchCode, '\n' ∉ line.toList) :
    shader.patchCode.map String.toList <:+: text.lines := by
  by_cases hnone : shader.patchCode = []
  · rw [hnone]
    exact List.nil_infix
  · rw [Shader.HoldsCode, hformed.patchCode hnone] at h
    obtain ⟨patch, main, rfl, hpatch, -⟩ := h
    exact hpatch.infix_lines (by simp) hitems hcode

/-- Functions are the last items of a text. -/
theorem function_mem_items {parts : SourceParts} (hcontent : text.content = parts.items)
    {f : Function} (hf : f ∈ parts.program.functions) : .function f ∈ text.items := by
  have hmem : .function f ∈ text.content := by
    rw [hcontent]
    exact List.mem_append_right _ (List.mem_append_right _ (List.mem_map_of_mem hf))
  exact (List.mem_filter.mp hmem).1

end Code

/-- A source text of a shader declares the parts of that shader in their order, among them what it
needs of every structure, buffer, sampler, view and fixed sampling, and its functions hold the code.
The lines of global code stand side by side, and no line of code is changed when the text is
rendered. -/
theorem source_in_order {name : String} {stage : Stage} {additions : List Addition}
    {shader : Shader} {target : Target} {version : OpenGL.Version} {text : Source}
    (hbuild : Shader.build name stage additions = .ok shader)
    (htext : target.source version shader = .ok text) :
    ∃ parts : SourceParts, text.content = parts.items ∧ parts.Of target version shader ∧
      shader.HoldsCode parts.program.functions ∧
      shader.globalCode.map .verbatim <:+: text.items ∧
      ∀ code ∈ [shader.globalCode, shader.patchCode, shader.mainCode],
        (∀ line ∈ code, '\n' ∉ line.toList) → code.map String.toList <:+: text.lines := by
  have hformed := Shader.wellFormed_of_build hbuild
  obtain ⟨parts, hcontent, hparts⟩ := Target.exists_sourceParts hformed htext
  have hholds := holdsCode hparts.program.wiring
  have hglobal := infix_globalCode htext
  have hitems : ∀ f ∈ parts.program.functions, .function f ∈ text.items :=
    fun f hf => function_mem_items hcontent hf
  refine ⟨parts, hcontent, hparts, hholds, hglobal, ?_⟩
  simp only [List.forall_mem_cons]
  exact ⟨fun hcode => infix_lines_of_items hcode hglobal,
    fun hcode => hholds.infix_patchCode hformed hitems hcode,
    fun hcode => hholds.infix_mainCode hitems hcode, by simp⟩

/-- A hull shader with resources and all three kinds of code. -/
def ridges : Shader where
  name := "Ridges"
  stage := .hull
  properties := [("Domain", "Triangle"), ("InputControlPoints", "3"),
    ("OutputControlPoints", "3"), ("OutputTopology", "TriangleCw"), ("Partitioning", "Integer")]
  input := [{ type := .vector .float 3, name := "place", semantic := "POSITION" }]
  output := [{ type := .vector .float 3, name := "place", semantic := "POSITION" }]
  outputPatch :=
    [⟨.array (.scalar .float) .outerFactors, "edges", some "SV_TessFactor", .unspecified, true⟩,
      ⟨.array (.scalar .float) .innerFactors, "inside", some "SV_InsideTessFactor", .unspecified,
        true⟩]
  structures := [⟨"Ridge", [⟨.scalar .float, "height"⟩]⟩]
  uniformBuffers := [⟨"Terrain", 0, [⟨.struct "Ridge", "highest", 0⟩]⟩]
  samplers := [⟨"smooth", 0, false⟩]
  readViews := [⟨"heights", 0, .texture2D, .float4⟩]
  fixedSampling := [⟨"heights", "smooth"⟩]
  globalCode := ["#define STEPS 4", ""]
  patchCode := ["PATCH(edges)[0] = STEPS;", "PATCH(inside)[0] = STEPS;"]
  mainCode := ["OUTPUT(place) = INPUT(CONTROL_POINT_ID, place);"]

theorem source_in_order_ridges :
    Shader.build "Ridges" .hull ridges.additions = .ok ridges ∧
      ∃ text, Target.direct3D11.source .v450 ridges = .ok text ∧
        (∃ parts : SourceParts, text.content = parts.items ∧
          parts.Of .direct3D11 .v450 ridges) ∧
        ridges.globalCode.map String.toList <:+: text.lines ∧
        ridges.patchCode.map String.toList <:+: text.lines ∧
        ridges.mainCode.map String.toList <:+: text.lines := by
  have hbuild : Shader.build "Ridges" .hull ridges.additions = .ok ridges := by decide +kernel
  obtain ⟨text, htext⟩ : ∃ text, Target.direct3D11.source .v450 ridges = .ok text :=
    exists_of_isOk (by decide +kernel)
  have hcode : ∀ code ∈ [ridges.globalCode, ridges.patchCode, ridges.mainCode],
      ∀ line ∈ code, '\n' ∉ line.toList := by
    decide +kernel
  obtain ⟨parts, hcontent, hparts, -, -, hlines⟩ := source_in_order hbuild htext
  exact ⟨hbuild, text, htext, ⟨parts, hcontent, hparts⟩, hlines _ (by simp) (hcode _ (by simp)),
    hlines _ (by simp) (hcode _ (by simp)), hlines _ (by simp) (hcode _ (by simp))⟩

end CrossShade
