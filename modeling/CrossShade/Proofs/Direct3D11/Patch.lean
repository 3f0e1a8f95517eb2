import CrossShade.Proofs.Direct3D11.Members
import CrossShade.Proofs.Shader.Building

/-!
# Patch constants in Direct3D 11

What a hull shader writes for a patch, the domain shader reads.  Each of the two has a structure for
it, made from a list of variables of its own, and each leaves out what it does not use.

* `SharePatch` says that two shaders declare the same patch, and `PatchesAgree` that their
  structures fit together.
* `filter_common_members` finds what both use in the structure of either side, and `factorsSized`
  tells the length of arrays of tessellation factors.
* `patch_constants_agree` is the conclusion.
-/

namespace CrossShade

open Source

/-- A variable apart from whether it is used. -/
def Variable.declared (v : Variable) : Variable :=
  { v with isUsed := true }

/-- The names of the variables that are used in two lists. -/
def commonNames (first second : List Variable) : List String :=
  (usedVariables first).map (·.name) ∩ (usedVariables second).map (·.name)

namespace Direct3D11

/-- A hull shader and a domain shader have a patch between them, which the one writes and the other
reads: they name the same domain and declare the same variables, of which each may use others. -/
structure SharePatch (writer reader : Shader) : Prop where
  domain : writer.property? Shader.keys.domain = reader.property? Shader.keys.domain
  declared : writer.outputPatch.map Variable.declared = reader.inputPatch.map Variable.declared

/-- The lengths of what is declared for an array of outer factors. -/
def outerLengths : TessellationDomain → List (Option UInt32)
  | .isoline => [some 2]
  | .triangle => [some 3]
  | .quad => [some 4]

/-- The lengths of what is declared for an array of inner factors; an isoline has none. -/
def innerLengths : TessellationDomain → List (Option UInt32)
  | .isoline => []
  | .triangle => [some 1]
  | .quad => [some 2]

/-- Every array of tessellation factors that is used is declared with the length that the domain
gives it. -/
structure FactorsSized (domain : TessellationDomain) (vars : List Variable)
    (members : List Declaration) : Prop where
  outer : ∀ v ∈ vars, v.isUsed = true → ∀ element, v.type = .array element .outerFactors →
    (members.filter (·.name = v.name)).map (·.length) = outerLengths domain
  inner : ∀ v ∈ vars, v.isUsed = true → ∀ element, v.type = .array element .innerFactors →
    (members.filter (·.name = v.name)).map (·.length) = innerLengths domain

/-- Members that a hull shader writes and a domain shader reads: what both use is declared alike and
in the same order on both sides. -/
structure PatchesAgree (writer reader : Shader) (written read : List Declaration) : Prop where
  common : written.filter (·.name ∈ commonNames writer.outputPatch reader.inputPatch) =
    read.filter (·.name ∈ commonNames writer.outputPatch reader.inputPatch)
  members : written.filter (·.name ∈ commonNames writer.outputPatch reader.inputPatch) =
    (writer.outputPatch.filter fun v =>
      v.name ∈ commonNames writer.outputPatch reader.inputPatch ∧
        writer.lengthOf v ≠ some 0).map (member writer)
  factors : ∃ kind, writer.tessellationDomain = .ok kind ∧ reader.tessellationDomain = .ok kind ∧
    FactorsSized kind writer.outputPatch written ∧ FactorsSized kind reader.inputPatch read

section Agreement

variable {writer reader shader : Shader} {vars others : List Variable} {text : Source}
  {kind : TessellationDomain}

theorem mem_usedVariables_map_name_iff {v : Variable} (hnames : (vars.map (·.name)).Nodup)
    (hv : v ∈ vars) : v.name ∈ (usedVariables vars).map (·.name) ↔ v.isUsed = true := by
  rw [List.mem_map]
  constructor
  · rintro ⟨w, hw, hsame⟩
    obtain ⟨hmem, hused⟩ := List.mem_filter.mp hw
    rwa [← List.inj_on_of_nodup_map hnames hmem hv hsame]
  · exact fun hused => ⟨v, List.mem_filter.mpr ⟨hv, hused⟩, rfl⟩

/-- Of the members of a group, those with certain names of used variables are found among all its
variables. -/
theorem filter_common_members (shader : Shader) {names : List String}
    (hnames : (vars.map (·.name)).Nodup)
    (hused : names ⊆ (usedVariables vars).map (·.name)) :
    ((shader.shown vars).map (member shader)).filter (·.name ∈ names) =
      (vars.filter fun v => v.name ∈ names ∧ shader.lengthOf v ≠ some 0).map (member shader) := by
  rw [List.filter_map, Shader.shown, List.filter_filter]
  congr 1
  refine List.filter_congr fun v hv => ?_
  by_cases hname : v.name ∈ names
  · have := (mem_usedVariables_map_name_iff hnames hv).mp (hused hname)
    simp [member, hname, this]
  · simp [member, hname]

/-- What is read off declarations alone is the same for two lists that declare the same. -/
theorem map_filter_declared {α : Type} (keep : Variable → Bool) (read : Variable → α)
    (hkeep : ∀ v, keep v.declared = keep v) (hread : ∀ v, read v.declared = read v)
    (hsame : vars.map Variable.declared = others.map Variable.declared) :
    (vars.filter keep).map read = (others.filter keep).map read := by
  have hall : ∀ list : List Variable,
      (list.filter keep).map read = ((list.map Variable.declared).filter keep).map read := by
    intro list
    rw [List.filter_map, List.map_map]
    have hkeep : keep ∘ Variable.declared = keep := funext hkeep
    have hread : read ∘ Variable.declared = read := funext hread
    rw [hkeep, hread]
  rw [hall vars, hall others, hsame]

theorem SharePatch.tessellationDomain_eq (h : SharePatch writer reader)
    (hwriter : writer.stage = .hull) (hreader : reader.stage = .domain) :
    writer.tessellationDomain = reader.tessellationDomain := by
  unfold Shader.tessellationDomain Shader.readWord Shader.readProperty Shader.requireStage
  rw [h.domain, hwriter, hreader]
  rfl

theorem factorsSized (hkind : shader.tessellationDomain = .ok kind)
    (hnames : (vars.map (·.name)).Nodup) :
    FactorsSized kind vars ((shader.shown vars).map (member shader)) := by
  have hlength : ∀ v, shader.lengthOf v = v.type.arraySize?.bind (·.resolve kind) := by
    intro v
    rw [Shader.lengthOf, hkind]
    rfl
  constructor
  all_goals
    intro v hv hused element htype
    rw [filter_map_member hnames hv hused]
    simp only [member, hlength, htype]
    cases kind <;> rfl

/-- The members of both sides fit together. -/
theorem SharePatch.patchesAgree (h : SharePatch writer reader)
    (hwriter : writer.tessellationDomain = .ok kind)
    (hreader : reader.tessellationDomain = .ok kind)
    (hwriterNames : (writer.outputPatch.map (·.name)).Nodup)
    (hreaderNames : (reader.inputPatch.map (·.name)).Nodup) :
    PatchesAgree writer reader ((writer.shown writer.outputPatch).map (member writer))
      ((reader.shown reader.inputPatch).map (member reader)) := by
  have hlength : reader.lengthOf = writer.lengthOf := by
    funext v
    rw [Shader.lengthOf, Shader.lengthOf, hwriter, hreader]
  have hmember : member reader = member writer := by
    funext v
    rw [member, member, hlength]
  have hwritten := filter_common_members writer hwriterNames
    (fun _ hname => (List.mem_inter_iff.mp hname).1 :
      commonNames writer.outputPatch reader.inputPatch ⊆ _)
  have hread := filter_common_members reader hreaderNames
    (fun _ hname => (List.mem_inter_iff.mp hname).2 :
      commonNames writer.outputPatch reader.inputPatch ⊆ _)
  refine ⟨?_, hwritten, kind, hwriter, hreader, factorsSized hwriter hwriterNames,
    factorsSized hreader hreaderNames⟩
  rw [hwritten, hread, hmember, hlength]
  exact map_filter_declared _ _ (fun _ => rfl) (fun _ => rfl) h.declared

end Agreement

/-! ## Texts of hull and domain shaders -/

/-- The parameters of a function that pass a patch. -/
def patchParameters (f : Function) : List String :=
  f.parameters.filter fun parameter => " patch".toList <:+ parameter.toList

section Texts

variable {shader : Shader} {text : Source}

/-- A hull shader has a domain and a structure for its patch. -/
theorem filter_outputPatch (hformed : shader.WellFormed) (hstage : shader.stage = .hull)
    (h : source shader = .ok text) :
    (∃ domain, shader.tessellationDomain = .ok domain) ∧ shader.shown shader.outputPatch ≠ [] ∧
      (text.grouped shader).filter (·.1 = "HS_OutputPatch") =
        [("HS_OutputPatch", (shader.shown shader.outputPatch).map (member shader))] := by
  have hname : shader.structureName ⟨"OutputPatch", shader.outputPatch⟩ = "HS_OutputPatch" := by
    rw [Shader.structureName, hstage]
    rfl
  have hgroup : ⟨"OutputPatch", shader.outputPatch⟩ ∈
      Target.direct3D11.interfaceGroups shader := by
    simp [Target.interfaceGroups, hstage]
  obtain ⟨items, hbody, -⟩ := exists_functions_eq h
  simp only [body, hstage] at hbody
  obtain ⟨domain, _, _, _, _, patch, hdomain, -, -, hpatch, -⟩ := hull_eq_ok hbody
  rw [patchInterface_eq hformed hdomain (List.subset_append_right ..)] at hpatch
  have hsome : shader.shown shader.outputPatch ≠ [] := by
    intro hnone
    rw [structOf_eq_none_iff.mpr hnone] at hpatch
    cases hpatch
  have hfound := filter_grouped hformed h hgroup
  rw [hname, structOf, if_neg hsome, hname] at hfound
  exact ⟨⟨domain, hdomain⟩, hsome, hfound⟩

/-- Without patch constants a hull shader is refused, if nothing else is wrong with it. -/
theorem source_hull_eq_error (hformed : shader.WellFormed) (hstage : shader.stage = .hull)
    (hnone : shader.shown shader.outputPatch = []) {items : List Item} {facts : StageFacts}
    (hresources : resources shader = .ok items) (hfacts : shader.stageFacts = .ok facts) :
    source shader = .error (.malformed shader.name .noPatchOutput) := by
  simp only [Shader.stageFacts, hstage, bind_eq_ok, pure_eq_ok] at hfacts
  obtain ⟨domain, hdomain, partitioning, hpartitioning, topology, htopology, points, hpoints, count,
    hcount, factor, hfactor, -⟩ := hfacts
  have hpatch := patchInterface_eq hformed hdomain
    (List.subset_append_right shader.inputPatch shader.outputPatch) "OutputPatch"
  rw [structOf_eq_none_iff.mpr hnone] at hpatch
  simp [source, hresources, body, hstage, hull, Shader.fault, hdomain, hpartitioning, htopology,
    hpoints, hcount, hfactor, interface_eq hformed shader.input_subset,
    interface_eq hformed shader.output_subset, hpatch, demand]

/-- A domain shader has a structure for its patch if there is something in it. -/
theorem filter_inputPatch (hformed : shader.WellFormed) (hstage : shader.stage = .domain)
    (h : source shader = .ok text) :
    (text.grouped shader).filter (·.1 = "DS_InputPatch") =
      if shader.shown shader.inputPatch = [] then []
      else [("DS_InputPatch", (shader.shown shader.inputPatch).map (member shader))] := by
  have hname : shader.structureName ⟨"InputPatch", shader.inputPatch⟩ = "DS_InputPatch" := by
    rw [Shader.structureName, hstage]
    rfl
  have hgroup : ⟨"InputPatch", shader.inputPatch⟩ ∈ Target.direct3D11.interfaceGroups shader := by
    simp [Target.interfaceGroups, hstage]
  have hfound := filter_grouped hformed h hgroup
  rw [hname, structOf, hname] at hfound
  rw [hfound]
  split <;> rfl

/-- Only the end of a text decides how it ends. -/
theorem suffix_toList_append_iff {ending rest : String} (text : String)
    (hlength : ending.toList.length ≤ rest.toList.length) :
    ending.toList <:+ (text ++ rest).toList ↔ ending.toList <:+ rest.toList := by
  rw [String.toList_append]
  exact ⟨fun h => List.suffix_of_suffix_length_le h (List.suffix_append _ _) hlength,
    fun h => h.trans (List.suffix_append _ _)⟩

/-- A domain shader takes in its patch if there is something in it. -/
theorem exists_patchParameters (hformed : shader.WellFormed) (hstage : shader.stage = .domain)
    (h : source shader = .ok text) :
    ∃ main, text.functions = [main] ∧ patchParameters main =
      if shader.shown shader.inputPatch = [] then [] else ["DS_InputPatch patch"] := by
  obtain ⟨items, hbody, hfunctions⟩ := exists_functions_eq h
  simp only [body, hstage] at hbody
  obtain ⟨kind, points, attributes, input, patch, extra, output, hkind, -, hpatch, -, -, rfl⟩ :=
    domain_eq_ok hbody
  rw [patchInterface_eq hformed hkind (List.subset_append_left ..)] at hpatch
  cases hpatch
  have hinput : (patchParameter "OutputPatch<" input points).filter
      (" patch".toList <:+ ·.toList) = [] := by
    cases input with
    | none => rfl
    | some s =>
      have hends :
          ¬" patch".toList <:+ (s!"OutputPatch<{s.name}, {points}" ++ "> input").toList := by
        rw [suffix_toList_append_iff _ (by decide)]
        decide
      exact List.filter_cons_of_neg fun h => hends (of_decide_eq_true h)
  have hextra : (Hlsl.parameter extra "extra").filter (" patch".toList <:+ ·.toList) = [] := by
    cases extra with
    | none => rfl
    | some s =>
      have hends : ¬" patch".toList <:+ (s.name ++ " " ++ "extra").toList := by
        rw [String.append_assoc, suffix_toList_append_iff _ (by decide)]
        decide
      exact List.filter_cons_of_neg fun h => hends (of_decide_eq_true h)
  have hmain : text.functions = [Hlsl.returning "main" "output" attributes output
      (patchParameter "OutputPatch<" input points ++
        Hlsl.parameter (structOf shader ⟨"InputPatch", shader.inputPatch⟩) "patch" ++
        Hlsl.parameter extra "extra") shader.mainCode] := by
    rw [hfunctions]
    simp only [functions_append, functions_interfaceItems, Hlsl.entryPoint_eq]
    rfl
  refine ⟨_, hmain, ?_⟩
  rw [patchParameters, Hlsl.returning, List.filter_append, List.filter_append, hinput, hextra,
    structOf]
  split
  · rfl
  · simp only [Hlsl.parameter, Shader.structureName, hstage, List.nil_append, List.append_nil]
    decide

end Texts

/-- A hull and a domain shader that share a patch declare what both use of it alike, in the same
order, and arrays of tessellation factors with as many elements as their domain has factors.  Where
nothing of its patch is left, a domain shader has neither a structure nor a parameter for it, and a
hull shader has no text: if nothing else is wrong with it, that is the error. -/
theorem patch_constants_agree {writerName readerName : String}
    {writerAdditions readerAdditions : List Addition} {writer reader : Shader}
    (hwriter : Shader.build writerName .hull writerAdditions = .ok writer)
    (hreader : Shader.build readerName .domain readerAdditions = .ok reader) :
    (∀ writerText readerText, SharePatch writer reader → source writer = .ok writerText →
      source reader = .ok readerText → ∃ written read,
        (writerText.grouped writer).filter (·.1 = "HS_OutputPatch") =
          [("HS_OutputPatch", written)] ∧
        ((readerText.grouped reader).filter (·.1 = "DS_InputPatch") =
          if read = [] then [] else [("DS_InputPatch", read)]) ∧
        PatchesAgree writer reader written read) ∧
    (∀ readerText, source reader = .ok readerText →
      ((readerText.grouped reader).filter (·.1 = "DS_InputPatch") = [] ↔
        reader.shown reader.inputPatch = []) ∧
      ∃ main, readerText.functions = [main] ∧ patchParameters main =
        if reader.shown reader.inputPatch = [] then [] else ["DS_InputPatch patch"]) ∧
    (writer.shown writer.outputPatch = [] →
      (∀ writerText, source writer ≠ .ok writerText) ∧
      ∀ items facts, resources writer = .ok items → writer.stageFacts = .ok facts →
        source writer = .error (.malformed writer.name .noPatchOutput)) := by
  have hwriterFormed := Shader.wellFormed_of_build hwriter
  have hreaderFormed := Shader.wellFormed_of_build hreader
  have hwriterStage := Shader.stage_of_build hwriter
  have hreaderStage := Shader.stage_of_build hreader
  have hwriterNames : (writer.outputPatch.map (·.name)).Nodup :=
    Shader.nodup_names_of_build hwriter (by simp [Shader.variableLists, Shader.variableGroups])
  have hreaderNames : (reader.inputPatch.map (·.name)).Nodup :=
    Shader.nodup_names_of_build hreader (by simp [Shader.variableLists, Shader.variableGroups])
  refine ⟨?_, ?_, ?_⟩
  · intro writerText readerText hshare hwriterText hreaderText
    obtain ⟨⟨kind, hkind⟩, -, hwritten⟩ :=
      filter_outputPatch hwriterFormed hwriterStage hwriterText
    have hread := filter_inputPatch hreaderFormed hreaderStage hreaderText
    have hsame := hshare.tessellationDomain_eq hwriterStage hreaderStage
    refine ⟨_, (reader.shown reader.inputPatch).map (member reader), hwritten, ?_,
      hshare.patchesAgree hkind (hsame ▸ hkind) hwriterNames hreaderNames⟩
    simpa only [List.map_eq_nil_iff] using hread
  · intro readerText hreaderText
    have hread := filter_inputPatch hreaderFormed hreaderStage hreaderText
    refine ⟨?_, exists_patchParameters hreaderFormed hreaderStage hreaderText⟩
    rw [hread]
    split <;> simp_all
  · intro hnone
    refine ⟨fun writerText hwriterText => ?_, fun items facts hresources hfacts =>
      source_hull_eq_error hwriterFormed hwriterStage hnone hresources hfacts⟩
    exact (filter_outputPatch hwriterFormed hwriterStage hwriterText).2.1 hnone

/-- The patch of blades of grass along lines, which have no inner factors. -/
def bladePatch : List Variable :=
  [⟨.array (.scalar .float) .outerFactors, "edges", some "SV_TessFactor", .unspecified, true⟩,
    ⟨.array (.scalar .float) .innerFactors, "inside", some "SV_InsideTessFactor", .unspecified,
      true⟩,
    ⟨.vector .float 3, "tint", none, .unspecified, true⟩,
    ⟨.array (.scalar .float) (.fixed 2), "bend", some "BEND", .noInterpolation, true⟩]

/-- A hull shader that writes all of it. -/
def sowing : Shader where
  name := "Sowing"
  stage := .hull
  properties := [("Domain", "Isoline"), ("InputControlPoints", "2"), ("OutputControlPoints", "2"),
    ("OutputTopology", "Line"), ("Partitioning", "Integer")]
  input := [{ type := .vector .float 3, name := "place", semantic := "POSITION" }]
  output := [{ type := .vector .float 3, name := "place", semantic := "POSITION" }]
  outputPatch := bladePatch

/-- A domain shader that reads it without the tint. -/
def growing : Shader where
  name := "Growing"
  stage := .domain
  properties := [("Domain", "Isoline"), ("InputControlPoints", "2")]
  input := [{ type := .vector .float 3, name := "place", semantic := "POSITION" }]
  output := [{ type := .float4, name := "place", semantic := "SV_Position" }]
  inputPatch := bladePatch.map fun v => { v with isUsed := v.name ≠ "tint" }

theorem patch_constants_agree_growing :
    Shader.build "Sowing" .hull sowing.additions = .ok sowing ∧
      Shader.build "Growing" .domain growing.additions = .ok growing ∧
      SharePatch sowing growing ∧
      ∃ writerText readerText written read, source sowing = .ok writerText ∧
        source growing = .ok readerText ∧
        (writerText.grouped sowing).filter (·.1 = "HS_OutputPatch") =
          [("HS_OutputPatch", written)] ∧
        PatchesAgree sowing growing written read ∧
        ∃ main, readerText.functions = [main] ∧ patchParameters main = ["DS_InputPatch patch"] := by
  have hwriter : Shader.build "Sowing" .hull sowing.additions = .ok sowing := by decide +kernel
  have hreader : Shader.build "Growing" .domain growing.additions = .ok growing := by
    decide +kernel
  have hshare : SharePatch sowing growing := ⟨by decide, by decide⟩
  obtain ⟨writerText, hwriterText⟩ : ∃ text, source sowing = .ok text :=
    exists_of_isOk (by decide +kernel)
  obtain ⟨readerText, hreaderText⟩ : ∃ text, source growing = .ok text :=
    exists_of_isOk (by decide +kernel)
  have hsome : growing.shown growing.inputPatch ≠ [] := by decide +kernel
  obtain ⟨hagree, htaken, -⟩ := patch_constants_agree hwriter hreader
  obtain ⟨written, read, hwritten, -, hmembers⟩ :=
    hagree writerText readerText hshare hwriterText hreaderText
  obtain ⟨-, main, hmain, hparameters⟩ := htaken readerText hreaderText
  rw [if_neg hsome] at hparameters
  exact ⟨hwriter, hreader, hshare, writerText, readerText, written, read, hwriterText, hreaderText,
    hwritten, hmembers, main, hmain, hparameters⟩

end Direct3D11

end CrossShade
