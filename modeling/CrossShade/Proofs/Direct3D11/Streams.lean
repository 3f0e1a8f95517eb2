import CrossShade.Proofs.Direct3D11.Members
import CrossShade.Proofs.Hlsl.Semantics
import CrossShade.Proofs.Shader.Building

/-!
# Streams of geometry shaders

Every stream of a geometry shader has a structure, a local, a parameter and three macros, whose
names end in its number; the only stream of a shader without numbered ones has no number.

* `append_eq_iff_of_stem` reads stem and number off a name, and `nodup_streamNames` says that no two
  of these names are the same.
* `exists_streams` finds the streams of a text among the groups of variables.
* `definitions_streamMacros` finds what a macro of a stream stands for.
* `streams_declared` is the conclusion.
-/

namespace CrossShade

open Source

/-- What a text defines a name as, each time with parameters and body. -/
def Source.definitions (text : Source) (name : String) : List (Option (List String) × String) :=
  text.items.filterMap fun
    | .define found parameters body => if found = name then some (parameters, body) else none
    | _ => none

namespace Direct3D11

/-! ## Names -/

/-- The structure for the vertices of a stream, which is told apart by its suffix. -/
def vertexName (suffix : String) : String :=
  "GS_Output" ++ suffix

/-- The local in which a vertex is put together. -/
def vertexLocal (suffix : String) : String :=
  "output" ++ suffix

/-- The parameter to which vertices are appended. -/
def streamParameter (suffix : String) : String :=
  "outputStream" ++ suffix

/-- A macro that each stream has. -/
structure StreamMacro where
  stem : String
  parameters : List String
  body : (suffix : String) → String

/-- The macros that each stream has. -/
def streamMacros : List StreamMacro :=
  [⟨"OUTPUT", ["x"], fun suffix => s!"{vertexLocal suffix}.x"⟩,
    ⟨"APPEND", [], fun suffix => s!"{streamParameter suffix}.Append({vertexLocal suffix})"⟩,
    ⟨"RESTART_STRIP", [], fun suffix => s!"{streamParameter suffix}.RestartStrip()"⟩]

/-- What the names for a stream begin with. -/
def streamStems : List String :=
  ["GS_Output", "output", "outputStream", "OUTPUT", "APPEND", "RESTART_STRIP"]

/-- All names for streams with some suffixes. -/
def streamNames (suffixes : List String) : List String :=
  suffixes.flatMap fun suffix => streamStems.map (· ++ suffix)

/-- Only digits, or nothing. -/
def IsNumber (suffix : String) : Prop :=
  ∀ c ∈ suffix.toList, c.isDigit = true

section Names

variable {shader : Shader} {first second suffix other : String} {suffixes : List String}

theorem isNumber_empty : IsNumber "" := by
  simp [IsNumber]

theorem toList_toString (number : Nat) : (toString number).toList = Nat.toDigits 10 number :=
  Nat.toList_repr

theorem isNumber_toString (number : Nat) : IsNumber (toString number) := by
  intro c hc
  rw [toList_toString] at hc
  exact Nat.isDigit_of_mem_toDigits (by decide) (by decide) hc

theorem toString_injective : Function.Injective fun number : Nat => toString number :=
  fun _ _ h => output_injective (congrArg ("Output" ++ ·) h)

theorem streamSuffixes_of_nil (h : shader.streams = []) : shader.streamSuffixes = [""] := by
  rw [Shader.streamSuffixes, h]
  rfl

theorem streamSuffixes_of_ne_nil (h : shader.streams ≠ []) :
    shader.streamSuffixes = (List.range shader.streams.length).map fun number =>
      toString number := by
  have hnumbers : shader.streams.zipIdx.map Prod.snd = List.range shader.streams.length := by
    rw [List.zipIdx_map_snd, List.range_eq_range']
  rw [Shader.streamSuffixes, if_neg (by simpa using h), ← hnumbers, List.map_map]
  rfl

theorem isNumber_of_mem_streamSuffixes (h : suffix ∈ shader.streamSuffixes) : IsNumber suffix := by
  by_cases hnone : shader.streams = []
  · rw [streamSuffixes_of_nil hnone] at h
    rw [List.mem_singleton.mp h]
    exact isNumber_empty
  · rw [streamSuffixes_of_ne_nil hnone] at h
    obtain ⟨number, -, rfl⟩ := List.mem_map.mp h
    exact isNumber_toString number

theorem nodup_streamSuffixes (shader : Shader) : shader.streamSuffixes.Nodup := by
  by_cases hnone : shader.streams = []
  · rw [streamSuffixes_of_nil hnone]
    exact List.nodup_singleton _
  · rw [streamSuffixes_of_ne_nil hnone]
    exact List.nodup_range.map toString_injective

/-- Both parts can be read off a name, since no stem ends in a digit. -/
theorem append_eq_iff_of_stem (hfirst : first ∈ streamStems) (hsecond : second ∈ streamStems)
    (hsuffix : IsNumber suffix) (hother : IsNumber other) :
    first ++ suffix = second ++ other ↔ first = second ∧ suffix = other := by
  have hend : ∀ stem ∈ streamStems, stem.toList.getLast?.any Char.isDigit = false := by decide
  refine ⟨fun h => ?_, fun ⟨hstem, hnumber⟩ => by rw [hstem, hnumber]⟩
  have hlists := congrArg String.toList h
  rw [String.toList_append, String.toList_append] at hlists
  have hleft := Text.trailingDigits_append (hend first hfirst) hsuffix
  have hright := Text.trailingDigits_append (hend second hsecond) hother
  rw [hlists, hright.1, hright.2] at hleft
  exact ⟨String.toList_inj.mp hleft.2.symm, String.toList_inj.mp hleft.1.symm⟩

theorem nodup_streamNames (hnumbers : ∀ suffix ∈ suffixes, IsNumber suffix)
    (hdistinct : suffixes.Nodup) : (streamNames suffixes).Nodup := by
  rw [streamNames, List.nodup_flatMap]
  constructor
  · intro suffix hsuffix
    have hstems : streamStems.Nodup := by decide
    refine hstems.map_on fun first hfirst second hsecond h => ?_
    exact ((append_eq_iff_of_stem hfirst hsecond (hnumbers suffix hsuffix)
      (hnumbers suffix hsuffix)).mp h).1
  · refine hdistinct.imp_of_mem fun {suffix other} hsuffix hother hne => ?_
    intro name hleft hright
    obtain ⟨first, hfirst, rfl⟩ := List.mem_map.mp hleft
    obtain ⟨second, hsecond, hsame⟩ := List.mem_map.mp hright
    exact hne ((append_eq_iff_of_stem hsecond hfirst (hnumbers other hother)
      (hnumbers suffix hsuffix)).mp hsame).2.symm

theorem vertexName_injective : Function.Injective vertexName := by
  intro suffix other h
  have hlists := congrArg String.toList h
  rw [vertexName, vertexName, String.toList_append, String.toList_append] at hlists
  exact String.toList_inj.mp (List.append_cancel_left hlists)

/-- What comes in has no structure of a stream. -/
theorem ne_vertexName (hstage : shader.stage = .geometry) (suffix : String) :
    shader.structureName ⟨"Input", shader.input⟩ ≠ vertexName suffix := by
  have hletter : (interfaceName .geometry "Input").toList[3]? = some 'I' := by decide
  intro h
  rw [Shader.structureName, hstage] at h
  rw [h] at hletter
  simp [vertexName, String.toList_append] at hletter

theorem structureName_output (hstage : shader.stage = .geometry) (suffix : String)
    (vars : List Variable) :
    shader.structureName ⟨"Output" ++ suffix, vars⟩ = vertexName suffix := by
  rw [Shader.structureName, hstage]
  exact (@String.append_assoc "GS_" "Output" suffix).symm

/-- The structures of streams are called by their suffixes. -/
theorem map_structureName_streamGroups (hstage : shader.stage = .geometry) :
    shader.streamGroups.map shader.structureName = shader.streamSuffixes.map vertexName := by
  unfold Shader.streamGroups Shader.streamSuffixes
  split
  · exact congrArg ([·]) (structureName_output hstage "" shader.output)
  · rw [List.map_map, List.map_map]
    exact List.map_congr_left fun entry _ =>
      structureName_output hstage (toString entry.2) entry.1.outputs

theorem streamGroups_of_nil (h : shader.streams = []) :
    shader.streamGroups = [⟨"Output", shader.output⟩] := by
  rw [Shader.streamGroups, h]
  rfl

theorem output_mem_streamGroups (h : shader.streams = []) :
    ⟨"Output", shader.output⟩ ∈ shader.streamGroups := by
  rw [streamGroups_of_nil h]
  exact List.mem_singleton_self _

/-- The stream with a number has its place among the groups and the suffixes. -/
theorem mem_streamGroups {number : Nat} {stream : OutputStream}
    (h : shader.streams[number]? = some stream) :
    ⟨"Output" ++ toString number, stream.outputs⟩ ∈ shader.streamGroups ∧
      toString number ∈ shader.streamSuffixes := by
  have hsome : ¬shader.streams.isEmpty = true := by
    intro hempty
    rw [List.isEmpty_iff.mp hempty] at h
    cases h
  have hmem : (stream, number) ∈ shader.streams.zipIdx := List.mk_mem_zipIdx_iff_getElem?.mpr h
  rw [Shader.streamGroups, Shader.streamSuffixes, if_neg hsome, if_neg hsome]
  exact ⟨List.mem_map.mpr ⟨_, hmem, rfl⟩, List.mem_map.mpr ⟨_, hmem, rfl⟩⟩

theorem length_streamSuffixes (shader : Shader) :
    shader.streamSuffixes.length = max 1 shader.streams.length := by
  by_cases hnone : shader.streams = []
  · rw [streamSuffixes_of_nil hnone, hnone]
    rfl
  · have hsome : 0 < shader.streams.length := List.length_pos_iff.mpr hnone
    rw [streamSuffixes_of_ne_nil hnone, List.length_map, List.length_range]
    omega

end Names

/-! ## Macros -/

section Macros

variable {shader : Shader} {name suffix : String} {streams : List StreamOutput}

theorem definitions_append (first second : List Item) (name : String) :
    definitions ⟨first ++ second⟩ name = definitions ⟨first⟩ name ++ definitions ⟨second⟩ name :=
  List.filterMap_append ..

theorem definitions_content (text : Source) (name : String) :
    definitions ⟨text.content⟩ name = text.definitions name :=
  filterMap_content (fun item h => by cases item <;> first | rfl | cases h) text

theorem definitions_eq_nil {items : List Item}
    (h : ∀ parameters body, .define name parameters body ∉ items) :
    definitions ⟨items⟩ name = [] := by
  refine List.filterMap_eq_nil_iff.mpr fun item hitem => ?_
  cases item with
  | define found parameters body =>
    refine if_neg fun hsame => ?_
    exact h parameters body (hsame ▸ hitem)
  | _ => rfl

/-- Among its resources a text only defines what samples views. -/
theorem definitions_resources {resources : ResourceParts} (h : resources.Of .direct3D11 shader)
    (hname : ¬"SAMPLE_".toList <+: name.toList) : definitions ⟨resources.items⟩ name = [] := by
  refine definitions_eq_nil fun parameters body hitem => ?_
  simp only [ResourceParts.items, List.mem_append] at hitem
  rcases hitem with (((((hcode | hstructure) | hbuffer) | hsampler) | hread) | hwrite) | hsampling
  · rw [h.globalCode] at hcode
    obtain ⟨line, -, hline⟩ := List.mem_map.mp hcode
    cases hline
  · obtain ⟨s, -, members, hstruct, -⟩ := exists_mem_of_forall₂ h.structures hstructure
    cases hstruct
  · obtain ⟨buffer, -, header, members, own, hblock, -⟩ :=
      exists_mem_of_forall₂ (R := Target.direct3D11.IsBlock) h.uniformBuffers hbuffer
    cases hblock
  · obtain ⟨sampler, -, d, hglobal, -⟩ := exists_mem_of_forall₂ h.samplers hsampler
    cases hglobal
  · obtain ⟨view, -, ⟨d, hglobal, -⟩⟩ := exists_mem_of_forall₂ h.readViews hread
    cases hglobal
  · obtain ⟨view, -, ⟨d, hglobal, -⟩⟩ := exists_mem_of_forall₂ h.writeViews hwrite
    cases hglobal
  · obtain ⟨macros, hmacros, hmem⟩ := List.mem_flatten.mp hsampling
    obtain ⟨pair, -, sample, sampleLevel, rfl⟩ := exists_mem_of_forall₂ h.sampling hmacros
    have hprefix : ∀ rest : String, "SAMPLE_".toList <+: ("SAMPLE_" ++ rest).toList := by
      intro rest
      rw [String.toList_append]
      exact List.prefix_append _ _
    simp only [List.mem_cons, List.not_mem_nil, or_false, Item.define.injEq] at hmem
    rcases hmem with ⟨hsample, -⟩ | ⟨hsample, -⟩
    · exact hname (hsample ▸ hprefix pair.view)
    · have hlevel : "SAMPLE_LEVEL_" ++ pair.view = "SAMPLE_" ++ ("LEVEL_" ++ pair.view) :=
        @String.append_assoc "SAMPLE_" "LEVEL_" pair.view
      exact hname (hsample ▸ hlevel ▸ hprefix ("LEVEL_" ++ pair.view))

/-- The macros of one stream. -/
theorem definitions_macros (stream : StreamOutput) (hnumber : IsNumber stream.suffix)
    {entry : StreamMacro} (hentry : entry ∈ streamMacros) (hsuffix : IsNumber suffix) :
    definitions ⟨stream.macros⟩ (entry.stem ++ suffix) =
      if suffix = stream.suffix then [(some entry.parameters, entry.body suffix)] else [] := by
  have hstems : ∀ macro_ ∈ streamMacros, macro_.stem ∈ streamStems := by decide
  have hmacros : stream.macros = streamMacros.map fun macro_ =>
      macroOf (macro_.stem ++ stream.suffix) macro_.parameters (macro_.body stream.suffix) := rfl
  have hnames : ∀ macro_ ∈ streamMacros, macro_.stem ++ stream.suffix = entry.stem ++ suffix ↔
      macro_.stem = entry.stem ∧ stream.suffix = suffix := fun macro_ hmacro =>
    append_eq_iff_of_stem (hstems _ hmacro) (hstems _ hentry) hnumber hsuffix
  simp only [streamMacros, List.forall_mem_cons] at hnames
  obtain ⟨houtput, happend, hrestart, -⟩ := hnames
  rw [hmacros]
  simp only [streamMacros, List.mem_cons, List.not_mem_nil, or_false] at hentry
  by_cases hsame : suffix = stream.suffix
  · subst hsame
    rcases hentry with rfl | rfl | rfl <;>
      simp [definitions, streamMacros, macroOf, houtput, happend, hrestart]
  · rw [if_neg hsame]
    simp [definitions, streamMacros, macroOf, houtput, happend, hrestart, Ne.symm hsame]

/-- Of the macros of streams, the one with a name is found, if a stream has the suffix. -/
theorem definitions_streamMacros (hnumbers : ∀ stream ∈ streams, IsNumber stream.suffix)
    (hdistinct : (streams.map (·.suffix)).Nodup) {entry : StreamMacro}
    (hentry : entry ∈ streamMacros) (hsuffix : IsNumber suffix) :
    definitions ⟨streams.flatMap (·.macros)⟩ (entry.stem ++ suffix) =
      if suffix ∈ streams.map (·.suffix) then [(some entry.parameters, entry.body suffix)]
      else [] := by
  induction streams with
  | nil => rfl
  | cons stream rest ih =>
    obtain ⟨hnumber, hrestNumbers⟩ := List.forall_mem_cons.mp hnumbers
    obtain ⟨hfresh, hrest⟩ := List.nodup_cons.mp hdistinct
    rw [List.flatMap_cons, definitions_append, ih hrestNumbers hrest,
      definitions_macros stream hnumber hentry hsuffix, List.map_cons]
    by_cases hsame : suffix = stream.suffix
    · rw [hsame, if_pos rfl, if_neg hfresh, if_pos List.mem_cons_self, List.append_nil]
    · rw [if_neg hsame, List.nil_append]
      simp only [List.mem_cons, hsame, false_or]

end Macros

/-! ## Texts of geometry shaders -/

/-- What follows the resources of a geometry shader. -/
def geometryItems (input : Option InterfaceStruct) (streams : List StreamOutput) (main : Function) :
    List Item :=
  InterfaceStruct.items input ++
    streams.flatMap (fun stream => InterfaceStruct.items (some stream.vertex)) ++
    indexedInputMacro :: streams.flatMap (·.macros) ++ [.blank, .function main]

/-- The parameters of a function by which something goes out. -/
def outputParameters (f : Function) : List String :=
  f.parameters.filter fun parameter => "inout ".toList <+: parameter.toList

/-- The function takes in a stream for each suffix, and has a local for each that is set to zero
before anything else is done: zero is written as a cast to the type of the local. -/
structure WritesStreams (f : Function) (topology : StreamTopology) (suffixes : List String)
    (code : List String) : Prop where
  parameters : outputParameters f = suffixes.map fun suffix =>
    s!"inout {topology.hlsl}<{vertexName suffix}> {streamParameter suffix}"
  body : f.body = suffixes.map (fun suffix =>
    s!"    {vertexName suffix} {vertexLocal suffix} = ({vertexName suffix})0;") ++ code

section Texts

variable {shader : Shader} {text : Source} {suffix name : String} {streams : List StreamOutput}
  {input : Option InterfaceStruct} {main : Function}

theorem functions_geometryItems : functions ⟨geometryItems input streams main⟩ = [main] := by
  have hmacros : ∀ stream ∈ streams, functions ⟨stream.macros⟩ = [] := fun _ _ => rfl
  have hvertices : ∀ stream ∈ streams,
      functions ⟨InterfaceStruct.items (some stream.vertex)⟩ = [] := fun _ _ => rfl
  simp only [functions] at hmacros hvertices
  rw [geometryItems, functions_append, functions_append, functions_append,
    functions_interfaceItems]
  simp only [functions, List.filterMap_cons, List.filterMap_flatMap,
    List.flatMap_eq_nil_iff.mpr hmacros, List.flatMap_eq_nil_iff.mpr hvertices]
  rfl

theorem definitions_geometryItems (hname : name ≠ "INPUT") :
    definitions ⟨geometryItems input streams main⟩ name =
      definitions ⟨streams.flatMap (·.macros)⟩ name := by
  have hinput : definitions ⟨InterfaceStruct.items input⟩ name = [] := by
    cases input <;> rfl
  have hvertices : definitions
      ⟨streams.flatMap fun stream => InterfaceStruct.items (some stream.vertex)⟩ name = [] := by
    rw [definitions, List.filterMap_flatMap, List.flatMap_eq_nil_iff]
    exact fun _ _ => rfl
  have hindexed : definitions ⟨[indexedInputMacro]⟩ name = [] := by
    simp [definitions, indexedInputMacro, macroOf, Ne.symm hname]
  have hmain : definitions ⟨[.blank, .function main]⟩ name = [] := rfl
  rw [geometryItems, ← List.singleton_append]
  simp only [definitions_append, hinput, hvertices, hindexed, hmain, List.nil_append,
    List.append_nil]

/-- The structures of streams are named by their suffixes. -/
theorem name_vertex (hstage : shader.stage = .geometry)
    (hsuffixes : streams.map (·.suffix) = shader.streamSuffixes)
    (hvertices : streams.map (fun stream => some stream.vertex) =
      shader.streamGroups.map (structOf shader)) :
    ∀ stream ∈ streams, stream.vertex.name = vertexName stream.suffix := by
  have hgroups : (shader.streamGroups.map (structOf shader)).map (·.map (·.name)) =
      (shader.streamGroups.map shader.structureName).map some := by
    rw [List.map_map, List.map_map]
    refine List.map_congr_left fun group hgroup => ?_
    obtain ⟨stream, -, hstream⟩ := List.mem_map.mp (hvertices ▸ List.mem_map_of_mem hgroup)
    have hname := name_of_mem_structOf (Option.mem_toList.mpr hstream.symm)
    rw [Function.comp_apply, Function.comp_apply, ← hstream, ← hname]
    rfl
  rw [← hvertices, map_structureName_streamGroups hstage, ← hsuffixes, List.map_map, List.map_map,
    List.map_map] at hgroups
  exact fun stream hstream => Option.some.inj (List.map_inj_left.mp hgroups stream hstream)

/-- What a geometry shader takes in does not go out. -/
theorem filter_primitiveParameters (input : Option InterfaceStruct)
    (primitive : GeometryPrimitive) :
    (primitiveParameters input primitive).filter ("inout ".toList <+: ·.toList) = [] := by
  cases input with
  | none => rfl
  | some s =>
    have hfirst : ¬"inout ".toList <+: (primitive.hlsl ++ " " ++ s.name ++ " input[" ++
        toString primitive.vertexCount ++ "]").toList := by
      rintro ⟨rest, hrest⟩
      have hhead := congrArg List.head? hrest
      cases primitive <;> simp [GeometryPrimitive.hlsl, String.toList_append] at hhead
    exact List.filter_cons_of_neg fun h => hfirst (of_decide_eq_true h)

/-- Streams and their structures, macros and parameters in a text. -/
theorem exists_streams (hformed : shader.WellFormed) (hstage : shader.stage = .geometry)
    (h : source shader = .ok text) :
    ∃ streams : List StreamOutput, streams.map (·.suffix) = shader.streamSuffixes ∧
      streams.map (fun stream => some stream.vertex) =
        shader.streamGroups.map (structOf shader) ∧
      (∀ name, name ≠ "INPUT" → ¬"SAMPLE_".toList <+: name.toList →
        text.definitions name = definitions ⟨streams.flatMap (·.macros)⟩ name) ∧
      ∃ main topology, text.functions = [main] ∧ shader.outputPrimitive = .ok topology ∧
        WritesStreams main topology shader.streamSuffixes shader.mainCode := by
  obtain ⟨resources, items, hof, hbody, hcontent⟩ := exists_body h
  obtain ⟨_, hsame, hfunctions⟩ := exists_functions_eq h
  obtain rfl := Except.ok.inj (hbody.symm.trans hsame)
  simp only [body, hstage] at hbody
  obtain ⟨primitive, topology, attributes, input, streams, htopology, -, hstreams, hitems⟩ :=
    geometry_eq_ok hbody
  change items = geometryItems input streams _ at hitems
  have hsuffixes := (passes_streamOutputs hformed hstreams).2
  have hvertices := map_vertex_streamOutputs hformed hstreams
  have hnames := name_vertex hstage hsuffixes hvertices
  rw [hitems, functions_geometryItems] at hfunctions
  refine ⟨streams, hsuffixes, hvertices, ?_, _, topology, hfunctions, htopology, ?_, ?_⟩
  · intro name hinput hsample
    rw [← definitions_content, hcontent, definitions_append, definitions_resources hof hsample,
      List.nil_append, ← definitions_geometryItems hinput, ← hitems]
    exact definitions_content ⟨items⟩ name
  · rw [outputParameters, List.filter_append, filter_primitiveParameters, List.nil_append,
      List.filter_eq_self.mpr, ← hsuffixes, List.map_map]
    · refine List.map_congr_left fun stream hstream => ?_
      rw [hnames stream hstream]
      rfl
    · intro parameter hparameter
      obtain ⟨stream, -, rfl⟩ := List.mem_map.mp hparameter
      have hstart : "inout ".toList <+: ("inout " ++ topology.hlsl ++ "<" ++ stream.vertex.name ++
          "> " ++ stream.parameterName).toList := by
        simp [String.toList_append]
      exact decide_eq_true hstart
  · rw [← hsuffixes, List.map_map]
    refine congrArg (· ++ shader.mainCode) (List.map_congr_left fun stream hstream => ?_)
    rw [hnames stream hstream]
    rfl

/-- What a text has for the stream with a suffix, once each: a structure with a member for each used
variable, and the macros, which name the local and the parameter of the same stream. -/
structure DeclaresStream (text : Source) (shader : Shader) (suffix : String)
    (vars : List Variable) : Prop where
  vertex : text.structs.filter (·.1 = vertexName suffix) =
    [(vertexName suffix, (usedVariables vars).map (member shader))]
  macros : ∀ entry ∈ streamMacros,
    text.definitions (entry.stem ++ suffix) = [(some entry.parameters, entry.body suffix)]

/-- A text has nothing for a stream with a suffix. -/
structure LacksStream (text : Source) (suffix : String) : Prop where
  vertex : text.structs.filter (·.1 = vertexName suffix) = []
  macros : ∀ entry ∈ streamMacros, text.definitions (entry.stem ++ suffix) = []

/-- Outside patches every used variable is shown. -/
theorem shown_eq_usedVariables (hformed : shader.WellFormed) {vars : List Variable}
    (hvars : vars ⊆ shader.stageVariables) : shader.shown vars = usedVariables vars := by
  refine List.filter_congr fun v hv => ?_
  obtain ⟨hsome, hlength⟩ := hformed.sizes_stage hvars v hv
  have hne : shader.lengthOf v ≠ some 0 := by
    rw [← hlength]
    cases htype : v.type with
    | array element size =>
      cases size with
      | fixed length =>
        intro hzero
        exact hsome element (htype.trans (by rw [Option.some.inj hzero]))
      | _ => exact nofun
    | _ => exact nofun
  simp [hne]

theorem subset_of_mem_streamGroups {group : InterfaceGroup} (hgroup : group ∈ shader.streamGroups) :
    group.vars ⊆ shader.stageVariables := by
  unfold Shader.streamGroups at hgroup
  split at hgroup
  · rw [List.mem_singleton.mp hgroup]
    exact shader.output_subset
  · obtain ⟨⟨stream, number⟩, hstream, rfl⟩ := List.mem_map.mp hgroup
    obtain ⟨-, -, hmem⟩ := List.mem_zipIdx hstream
    refine fun v hv => List.mem_append_right _ (List.mem_flatMap.mpr ⟨stream, ?_, hv⟩)
    rw [hmem]
    exact List.getElem_mem _

/-- In a finished text no stream is empty. -/
theorem structOf_streamGroup (hformed : shader.WellFormed) (hstage : shader.stage = .geometry)
    (h : source shader = .ok text) {group : InterfaceGroup} (hgroup : group ∈ shader.streamGroups) :
    structOf shader group =
      some ⟨shader.structureName group, (usedVariables group.vars).map (member shader)⟩ := by
  obtain ⟨streams, -, hvertices, -⟩ := exists_streams hformed hstage h
  obtain ⟨stream, -, hstream⟩ := List.mem_map.mp (hvertices ▸ List.mem_map_of_mem hgroup)
  have hshown := shown_eq_usedVariables hformed (subset_of_mem_streamGroups hgroup)
  rw [structOf, hshown] at hstream ⊢
  split at hstream
  · cases hstream
  · rename_i hsome
    rw [if_neg hsome]

/-- No macro of a stream is one of those that read inputs or sample views. -/
theorem ne_of_mem_streamMacros {entry : StreamMacro} (hentry : entry ∈ streamMacros)
    (suffix : String) :
    entry.stem ++ suffix ≠ "INPUT" ∧ ¬"SAMPLE_".toList <+: (entry.stem ++ suffix).toList := by
  have hfirst : (entry.stem ++ suffix).toList.head? ∈ [some 'O', some 'A', some 'R'] := by
    simp only [streamMacros, List.mem_cons, List.not_mem_nil, or_false] at hentry
    rcases hentry with rfl | rfl | rfl <;> simp [String.toList_append]
  constructor
  · intro hinput
    rw [hinput] at hfirst
    exact absurd hfirst (by decide)
  · rintro ⟨rest, hrest⟩
    rw [← hrest] at hfirst
    exact absurd hfirst (by simp)

/-- The macros in a text: those of the suffixes that there are. -/
theorem definitions_source (hformed : shader.WellFormed) (hstage : shader.stage = .geometry)
    (h : source shader = .ok text) {entry : StreamMacro} (hentry : entry ∈ streamMacros)
    (hsuffix : IsNumber suffix) :
    text.definitions (entry.stem ++ suffix) =
      if suffix ∈ shader.streamSuffixes then [(some entry.parameters, entry.body suffix)]
      else [] := by
  obtain ⟨streams, hsuffixes, -, hdefinitions, -⟩ := exists_streams hformed hstage h
  obtain ⟨hinput, hsample⟩ := ne_of_mem_streamMacros hentry suffix
  have hnumbers : ∀ stream ∈ streams, IsNumber stream.suffix := fun stream hstream =>
    isNumber_of_mem_streamSuffixes (hsuffixes ▸ List.mem_map_of_mem hstream)
  rw [hdefinitions _ hinput hsample, ← hsuffixes]
  exact definitions_streamMacros hnumbers (hsuffixes ▸ nodup_streamSuffixes shader) hentry hsuffix

theorem declaresStream (hformed : shader.WellFormed) (hstage : shader.stage = .geometry)
    (h : source shader = .ok text) (hown : ∀ s ∈ shader.structures, s.name ≠ vertexName suffix)
    {group : InterfaceGroup} (hgroup : group ∈ shader.streamGroups)
    (hname : shader.structureName group = vertexName suffix)
    (hsuffix : suffix ∈ shader.streamSuffixes) :
    DeclaresStream text shader suffix group.vars := by
  have hmem : group ∈ Target.direct3D11.interfaceGroups shader := by
    rw [Target.interfaceGroups, hstage]
    exact List.mem_cons_of_mem _ hgroup
  have hfound := filter_grouped hformed h hmem
  rw [structOf_streamGroup hformed hstage h hgroup, hname] at hfound
  refine ⟨(filter_structs hformed h hown).trans hfound, fun entry hentry => ?_⟩
  rw [definitions_source hformed hstage h hentry (isNumber_of_mem_streamSuffixes hsuffix),
    if_pos hsuffix]

theorem lacksStream (hformed : shader.WellFormed) (hstage : shader.stage = .geometry)
    (h : source shader = .ok text) (hown : ∀ s ∈ shader.structures, s.name ≠ vertexName suffix)
    (hnumber : IsNumber suffix) (hsuffix : suffix ∉ shader.streamSuffixes) :
    LacksStream text suffix := by
  refine ⟨?_, fun entry hentry => ?_⟩
  · rw [filter_structs hformed h hown, grouped_eq hformed h, List.filter_map,
      List.map_eq_nil_iff, List.filter_eq_nil_iff]
    intro s hs hsame
    obtain ⟨group, hgroup, hstruct⟩ := List.mem_flatMap.mp hs
    have hname : shader.structureName group = vertexName suffix :=
      (name_of_mem_structOf hstruct).symm.trans (of_decide_eq_true hsame)
    rw [Target.interfaceGroups, hstage] at hgroup
    rcases List.mem_cons.mp hgroup with rfl | hstream
    · exact ne_vertexName hstage suffix hname
    · have hmem : vertexName suffix ∈ shader.streamSuffixes.map vertexName := by
        rw [← map_structureName_streamGroups hstage, ← hname]
        exact List.mem_map_of_mem hstream
      obtain ⟨other, hother, hsame⟩ := List.mem_map.mp hmem
      exact hsuffix (vertexName_injective hsame ▸ hother)
  · rw [definitions_source hformed hstage h hentry hnumber, if_neg hsuffix]

/-- The structures of streams are the last ones of a text. -/
theorem suffix_map_structs (hformed : shader.WellFormed) (hstage : shader.stage = .geometry)
    (h : source shader = .ok text) :
    shader.streamSuffixes.map vertexName <:+ text.structs.map (·.1) := by
  obtain ⟨own, -, hstructs⟩ := exists_structs_eq hformed h
  have hnames : (shader.streamGroups.flatMap fun group => (structOf shader group).toList).map
      (·.name) = shader.streamSuffixes.map vertexName := by
    rw [← map_structureName_streamGroups hstage, List.map_flatMap, List.map_eq_flatMap]
    refine List.flatMap_congr fun group hgroup => ?_
    rw [structOf_streamGroup hformed hstage h hgroup]
    rfl
  rw [hstructs, List.map_append, List.map_map, groupStructs, Target.interfaceGroups, hstage,
    List.flatMap_cons, List.map_append, ← List.append_assoc]
  exact ⟨_, congrArg (_ ++ ·) hnames.symm⟩

/-- The facts about the stage count the streams. -/
theorem count_of_stageFacts (hstage : shader.stage = .geometry)
    {maxVertices count instances : UInt32} {input : GeometryPrimitive} {output : StreamTopology}
    (h : shader.stageFacts = .ok (.geometry maxVertices input output count instances)) :
    count = UInt32.ofNat shader.streamSuffixes.length := by
  rw [length_streamSuffixes]
  simp only [Shader.stageFacts, hstage, bind_eq_ok, pure_eq_ok] at h
  obtain ⟨_, -, _, -, _, -, _, -, hfacts⟩ := h
  cases hfacts
  rfl

theorem usedVariables_ne_nil (hformed : shader.WellFormed) (hstage : shader.stage = .geometry)
    (h : source shader = .ok text) {group : InterfaceGroup}
    (hgroup : group ∈ shader.streamGroups) : usedVariables group.vars ≠ [] := by
  intro hnone
  have hsome := structOf_streamGroup hformed hstage h hgroup
  rw [structOf_eq_none_iff.mpr] at hsome
  · cases hsome
  · rw [shown_eq_usedVariables hformed (subset_of_mem_streamGroups hgroup), hnone]

end Texts

/-- A text for a geometry shader has one stream without a number if the shader declares none, and
otherwise one for each number of a stream: a structure with the used variables, a local, a parameter
and three macros, in order and all with different names.  The facts about the stage count as many
streams as there are parameters.  Where a stream has no used variables there is no text. -/
theorem streams_declared {name : String} {additions : List Addition} {shader : Shader}
    (hbuild : Shader.build name .geometry additions = .ok shader) :
    (∀ text, source shader = .ok text →
      (∀ s ∈ shader.structures,
        s.name ≠ vertexName "" ∧ ∀ number : Nat, s.name ≠ vertexName (toString number)) →
      (shader.streams = [] →
        DeclaresStream text shader "" shader.output ∧
          ∀ number : Nat, LacksStream text (toString number)) ∧
      (shader.streams ≠ [] →
        LacksStream text "" ∧
          ∀ number : Nat,
            (∀ stream, shader.streams[number]? = some stream →
              DeclaresStream text shader (toString number) stream.outputs) ∧
            (shader.streams[number]? = none → LacksStream text (toString number))) ∧
      shader.streamSuffixes.map vertexName <:+ text.structs.map (·.1) ∧
      (streamNames shader.streamSuffixes).Nodup ∧
      ∃ main topology, text.functions = [main] ∧ shader.outputPrimitive = .ok topology ∧
        WritesStreams main topology shader.streamSuffixes shader.mainCode ∧
        ∀ maxVertices input output count instances,
          shader.stageFacts = .ok (.geometry maxVertices input output count instances) →
          count = UInt32.ofNat (outputParameters main).length) ∧
    (shader.streams = [] → usedVariables shader.output = [] →
      ∀ text, source shader ≠ .ok text) ∧
    ∀ stream ∈ shader.streams, usedVariables stream.outputs = [] →
      ∀ text, source shader ≠ .ok text := by
  have hformed := Shader.wellFormed_of_build hbuild
  have hstage := Shader.stage_of_build hbuild
  refine ⟨?_, ?_, ?_⟩
  · intro text htext hown
    have hownEmpty := fun s hs => (hown s hs).1
    have hownNumber := fun (number : Nat) s hs => (hown s hs).2 number
    refine ⟨?_, ?_, ?_, ?_, ?_⟩
    · intro hnone
      have hsuffixes := streamSuffixes_of_nil hnone
      refine ⟨?_, fun number => ?_⟩
      · exact declaresStream hformed hstage htext hownEmpty (output_mem_streamGroups hnone)
          (structureName_output hstage "" shader.output) (by simp [hsuffixes])
      · exact lacksStream hformed hstage htext (hownNumber number) (isNumber_toString number)
          (by simp [hsuffixes])
    · intro hsome
      have hsuffixes := streamSuffixes_of_ne_nil hsome
      refine ⟨?_, fun number => ⟨fun stream hstream => ?_, fun hnone => ?_⟩⟩
      · exact lacksStream hformed hstage htext hownEmpty isNumber_empty (by simp [hsuffixes])
      · obtain ⟨hgroup, hsuffix⟩ := mem_streamGroups hstream
        exact declaresStream hformed hstage htext (hownNumber number) hgroup
          (structureName_output hstage (toString number) stream.outputs) hsuffix
      · refine lacksStream hformed hstage htext (hownNumber number) (isNumber_toString number) ?_
        rw [hsuffixes, List.mem_map_of_injective toString_injective, List.mem_range]
        exact Nat.not_lt.mpr (List.getElem?_eq_none_iff.mp hnone)
    · exact suffix_map_structs hformed hstage htext
    · exact nodup_streamNames (fun _ => isNumber_of_mem_streamSuffixes)
        (nodup_streamSuffixes shader)
    · obtain ⟨-, -, -, -, main, topology, hmain, htopology, hwrites⟩ :=
        exists_streams hformed hstage htext
      refine ⟨main, topology, hmain, htopology, hwrites, ?_⟩
      intro maxVertices input output count instances hfacts
      rw [count_of_stageFacts hstage hfacts, hwrites.parameters, List.length_map]
  · intro hnone hunused text htext
    exact usedVariables_ne_nil hformed hstage htext (output_mem_streamGroups hnone) hunused
  · intro stream hstream hunused text htext
    obtain ⟨number, hnumber⟩ := List.getElem?_of_mem hstream
    exact usedVariables_ne_nil hformed hstage htext (mem_streamGroups hnumber).1 hunused

/-- A geometry shader with two streams, of which the second has a variable that is not used. -/
def sparkler : Shader where
  name := "Sparkler"
  stage := .geometry
  properties := [("InputPrimitive", "Triangle"), ("InstanceCount", "2"), ("MaxVertexCount", "6"),
    ("OutputPrimitive", "Point")]
  input := [{ type := .vector .float 3, name := "place", semantic := "POSITION" }]
  streams := [⟨"sparks", [{ type := .float4, name := "place", semantic := "SV_Position" }]⟩,
    ⟨"smoke", [{ type := .vector .float 3, name := "drift" },
      { type := .scalar .float, name := "age", isUsed := false }]⟩]
  structures := [⟨"Spark", [⟨.scalar .float, "heat"⟩]⟩]
  mainCode := ["APPEND0();", "APPEND1();"]

theorem streams_declared_sparkler :
    Shader.build "Sparkler" .geometry sparkler.additions = .ok sparkler ∧
      ∃ text, source sparkler = .ok text ∧
        DeclaresStream text sparkler "0" (sparkler.streams.head (by decide)).outputs ∧
        DeclaresStream text sparkler "1" (sparkler.streams.getLast (by decide)).outputs ∧
        LacksStream text "2" ∧ LacksStream text "" ∧
        ∃ main topology, text.functions = [main] ∧
          WritesStreams main topology ["0", "1"] sparkler.mainCode := by
  have hbuild : Shader.build "Sparkler" .geometry sparkler.additions = .ok sparkler := by
    decide +kernel
  obtain ⟨text, htext⟩ : ∃ text, source sparkler = .ok text := exists_of_isOk (by decide +kernel)
  have hown : ∀ s ∈ sparkler.structures,
      s.name ≠ vertexName "" ∧ ∀ number : Nat, s.name ≠ vertexName (toString number) := by
    simp only [sparkler, List.forall_mem_singleton]
    refine ⟨by decide, fun number h => ?_⟩
    have hfirst := congrArg (·.toList.head?) h
    simp [vertexName, String.toList_append] at hfirst
  obtain ⟨hdeclared, -, -⟩ := streams_declared hbuild
  obtain ⟨-, hnumbered, -, -, main, topology, hmain, -, hwrites, -⟩ := hdeclared text htext hown
  obtain ⟨hunnumbered, hstreams⟩ := hnumbered (by decide)
  exact ⟨hbuild, text, htext, (hstreams 0).1 _ rfl, (hstreams 1).1 _ rfl, (hstreams 2).2 rfl,
    hunnumbered, main, topology, hmain, hwrites⟩

end Direct3D11

end CrossShade
