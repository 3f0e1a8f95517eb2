import CrossShade.Proofs.Hlsl.Annotations
import CrossShade.Proofs.Source.Interfaces

/-!
# Interface structures in Direct3D 11

The structure of a group is told in full by the variables of the group.

* `member` is the declaration of a variable, and `structOf` the structure of a group; `interface_eq`
  and `patchInterface_eq` say that these are the ones that are made.
* `Source.grouped` are the structures of a text behind those that its shader declares; `grouped_eq`
  says that these are the structures of groups, and `filter_grouped` finds them by name.
* `exists_functions_eq` finds the functions of a text behind its resources.
-/

namespace CrossShade

open Source

namespace Direct3D11

variable {shader : Shader} {vars : List Variable} {role : String} {text : Source}
  {items : List Item}

/-! ## Declarations -/

/-- The declaration of a variable in an interface structure. -/
def member (shader : Shader) (v : Variable) : Declaration where
  qualifiers := v.interpolation.word?.toList
  type := v.type.hlsl
  name := v.name
  length := shader.lengthOf v
  boundTo := semanticOf v

/-- The structure of a group: one member for each variable that is shown. -/
def structOf (shader : Shader) (group : InterfaceGroup) : Option InterfaceStruct :=
  if shader.shown group.vars = [] then none
  else some ⟨shader.structureName group, (shader.shown group.vars).map (member shader)⟩

/-- The structures of all groups, in order. -/
def groupStructs (shader : Shader) : List InterfaceStruct :=
  (Target.direct3D11.interfaceGroups shader).flatMap fun group => (structOf shader group).toList

theorem name_of_mem_structOf {group : InterfaceGroup} {s : InterfaceStruct}
    (h : s ∈ (structOf shader group).toList) : s.name = shader.structureName group := by
  unfold structOf at h
  split at h
  · cases h
  · rw [List.mem_singleton.mp h]

theorem structOf_eq_none_iff {group : InterfaceGroup} :
    structOf shader group = none ↔ shader.shown group.vars = [] := by
  simp [structOf]

/-- Where variables can be sized, the structure of their group is made. -/
theorem interfaceStruct_eq {domain : Option TessellationDomain}
    (hsized : ∀ v ∈ vars, domain = none → ¬v.type.IsFactorArray)
    (hsizes : shader.Sizes domain vars) :
    interfaceStruct shader role domain declareVariable vars =
      .ok (structOf shader ⟨role, vars⟩) := by
  obtain ⟨s, hs⟩ : ∃ s, interfaceStruct shader role domain declareVariable vars = .ok s :=
    exists_eq_ok_of_avoids (avoids_interfaceStruct hsized fun _ _ _ _ => avoids_ok _)
  rw [hs]
  simp only [interfaceStruct, bind_eq_ok, pure_eq_ok] at hs
  obtain ⟨members, hmembers, rfl⟩ := hs
  have hmember : members = (shader.shown vars).map (member shader) := by
    rw [← List.forall₂_eq_eq_eq, List.forall₂_map_right_iff]
    refine (forall₂_interfaceMembers hsizes hmembers).flip.imp ?_
    rintro d v ⟨length, hd, hlength⟩
    cases hd
    simp [member, hlength]
  simp [structOf, hmember, Shader.structureName]

theorem interface_eq (hformed : shader.WellFormed) (hvars : vars ⊆ shader.stageVariables)
    (role : String) : interface shader role vars = .ok (structOf shader ⟨role, vars⟩) :=
  interfaceStruct_eq (fun v hv _ => hformed.factors v (hvars hv)) (hformed.sizes_stage hvars)

theorem patchInterface_eq (hformed : shader.WellFormed) {domain : TessellationDomain}
    (hdomain : shader.tessellationDomain = .ok domain) (hvars : vars ⊆ shader.patchVariables)
    (role : String) :
    patchInterface shader role domain vars = .ok (structOf shader ⟨role, vars⟩) :=
  interfaceStruct_eq (fun _ _ hnone => nomatch hnone) (hformed.sizes_patch hdomain hvars)

end Direct3D11

/-! ## Structures of groups -/

namespace Source

/-- The structures of a text behind those that its shader declares. -/
def grouped (text : Source) (shader : Shader) : List (String × List Declaration) :=
  text.structs.drop shader.structures.length

/-- What is read off the items one by one is read off the content, if nothing else says anything. -/
theorem filterMap_content {α : Type} {read : Item → Option α}
    (hsilent : ∀ item : Item, item.speaks = false → read item = none) (text : Source) :
    text.content.filterMap read = text.items.filterMap read := by
  rw [content, List.filterMap_filter]
  refine List.filterMap_congr fun item _ => ?_
  split
  · rfl
  · exact (hsilent item (by simpa using ‹¬item.speaks = true›)).symm

theorem structs_content (text : Source) : structs ⟨text.content⟩ = text.structs :=
  filterMap_content (fun item h => by cases item <;> first | rfl | cases h) text

theorem functions_content (text : Source) : functions ⟨text.content⟩ = text.functions :=
  filterMap_content (fun item h => by cases item <;> first | rfl | cases h) text

theorem structs_append (first second : List Item) :
    structs ⟨first ++ second⟩ = structs ⟨first⟩ ++ structs ⟨second⟩ :=
  List.filterMap_append ..

theorem structs_interfaceItems (s : Option InterfaceStruct) :
    structs ⟨InterfaceStruct.items s⟩ = s.toList.map fun s => (s.name, s.members) := by
  cases s <;> rfl

theorem functions_interfaceItems (s : Option InterfaceStruct) :
    functions ⟨InterfaceStruct.items s⟩ = [] := by
  cases s <;> rfl

theorem structs_flatMap_items (list : List (Option InterfaceStruct)) :
    structs ⟨list.flatMap InterfaceStruct.items⟩ =
      (list.flatMap Option.toList).map fun s => (s.name, s.members) := by
  induction list with
  | nil => rfl
  | cons s rest ih =>
    rw [List.flatMap_cons, List.flatMap_cons, structs_append, structs_interfaceItems, ih,
      List.map_append]

theorem structs_outline (items : List Item) :
    structs ⟨items.filter (·.isOutline)⟩ = structs ⟨items⟩ := by
  rw [structs, structs, List.filterMap_filter]
  refine List.filterMap_congr fun item _ => ?_
  cases item <;> rfl

end Source

namespace Direct3D11

variable {shader : Shader} {vars : List Variable} {role : String} {text : Source}
  {items : List Item}

/-- The structures that a shader declares come with its resources. -/
theorem map_fst_structs {target : Target} {resources : ResourceParts}
    (h : resources.Of target shader) :
    (structs ⟨resources.items⟩).map (·.1) = shader.structures.map (·.name) := by
  rw [← structs_outline, h.filter_isOutline, ← List.forall₂_eq_eq_eq]
  have hall := h.structures
  generalize resources.structures = items at hall
  generalize shader.structures = structures at hall
  induction hall with
  | nil => exact .nil
  | cons hfirst _ ih =>
    obtain ⟨members, rfl, -⟩ := hfirst
    exact .cons rfl ih

/-- Numbered streams have the structures of their groups, in order. -/
theorem map_vertex_numberedStreams (hformed : shader.WellFormed) {streams : List OutputStream}
    (hstreams : streams ⊆ shader.streams) {number : Nat} {outputs : List StreamOutput}
    (h : numberedStreams shader number streams = .ok outputs) :
    outputs.map (fun output => some output.vertex) =
      (streams.zipIdx number).map fun (stream, number) =>
        structOf shader ⟨s!"Output{number}", stream.outputs⟩ := by
  induction streams generalizing number outputs with
  | nil =>
    cases h
    rfl
  | cons stream rest ih =>
    simp only [numberedStreams, bind_eq_ok, pure_eq_ok] at h
    obtain ⟨_, hvertex, vertex, hdemand, following, hfollowing, rfl⟩ := h
    obtain ⟨hstream, hrest⟩ := List.cons_subset.mp hstreams
    have hvars : stream.outputs ⊆ shader.stageVariables := fun v hv =>
      List.mem_append_right _ (List.mem_flatMap.mpr ⟨stream, hstream, hv⟩)
    rw [demand_eq_ok hdemand, interface_eq hformed hvars] at hvertex
    rw [List.map_cons, List.zipIdx_cons, List.map_cons, ih hrest hfollowing]
    exact congrArg (· :: _) (Except.ok.inj hvertex).symm

theorem map_vertex_streamOutputs (hformed : shader.WellFormed) {outputs : List StreamOutput}
    (h : streamOutputs shader = .ok outputs) :
    outputs.map (fun output => some output.vertex) =
      shader.streamGroups.map (structOf shader) := by
  unfold streamOutputs at h
  unfold Shader.streamGroups
  split at h
  · rename_i hempty
    simp only [bind_eq_ok, pure_eq_ok] at h
    obtain ⟨_, hvertex, vertex, hdemand, rfl⟩ := h
    rw [demand_eq_ok hdemand, interface_eq hformed shader.output_subset] at hvertex
    rw [if_pos hempty]
    exact congrArg ([·]) (Except.ok.inj hvertex).symm
  · rename_i hsome
    rw [if_neg hsome, List.map_map]
    exact map_vertex_numberedStreams hformed (fun _ hmem => hmem) h

/-- What follows the resources declares the structures of all groups, in order. -/
theorem structs_body (hformed : shader.WellFormed) (h : body shader = .ok items) :
    structs ⟨items⟩ = (groupStructs shader).map fun s => (s.name, s.members) := by
  have hinput := interface_eq hformed shader.input_subset
  have houtput := interface_eq hformed shader.output_subset
  have hextra := interface_eq hformed shader.inputExtra_subset
  unfold body at h
  rw [groupStructs, Target.interfaceGroups]
  cases hstage : shader.stage with
  | vertex | pixel =>
    simp only [hstage, plain, hinput, houtput, ok_bind, pure_eq_ok] at h
    subst h
    simp only [structs_append, structs_interfaceItems, List.flatMap_cons, List.flatMap_nil,
      List.map_append, List.append_assoc]
    rfl
  | compute =>
    simp only [hstage, compute, hinput, bind_eq_ok, ok_bind, pure_eq_ok] at h
    obtain ⟨group, -, rfl⟩ := h
    simp only [structs_append, structs_interfaceItems, reduceCtorEq, if_false, List.flatMap_cons,
      List.flatMap_nil, List.map_append]
    rfl
  | hull =>
    simp only [hstage] at h
    obtain ⟨domain, points, attributes, input, output, patch, hdomain, hin, hout, hpatch, rfl⟩ :=
      hull_eq_ok h
    rw [hinput] at hin
    rw [houtput] at hout
    rw [patchInterface_eq hformed hdomain (List.subset_append_right ..)] at hpatch
    cases hin
    cases hout
    simp only [structs_append, structs_interfaceItems, List.flatMap_cons, List.flatMap_nil,
      List.map_append, List.append_assoc, Except.ok.inj hpatch]
    rfl
  | domain =>
    simp only [hstage] at h
    obtain ⟨kind, points, attributes, input, patch, extra, output, hkind, hin, hpatch, hmore, hout,
      rfl⟩ := domain_eq_ok h
    rw [hinput] at hin
    rw [houtput] at hout
    rw [hextra] at hmore
    rw [patchInterface_eq hformed hkind (List.subset_append_left ..)] at hpatch
    cases hin
    cases hout
    cases hmore
    cases hpatch
    simp only [structs_append, structs_interfaceItems, List.flatMap_cons, List.flatMap_nil,
      List.map_append, List.append_assoc]
    rfl
  | geometry =>
    simp only [hstage] at h
    obtain ⟨primitive, topology, attributes, input, streams, -, hin, hstreams, rfl⟩ :=
      geometry_eq_ok h
    rw [hinput] at hin
    cases hin
    have hvertices : (streams.flatMap fun stream => InterfaceStruct.items (some stream.vertex)) =
        (shader.streamGroups.map (structOf shader)).flatMap InterfaceStruct.items := by
      rw [← map_vertex_streamOutputs hformed hstreams, List.flatMap_map]
    have hmacros : structs ⟨streams.flatMap (·.macros)⟩ = [] := by
      refine List.filterMap_eq_nil_iff.mpr fun item hitem => ?_
      obtain ⟨stream, -, hmacro⟩ := List.mem_flatMap.mp hitem
      simp only [StreamOutput.macros, macroOf, List.mem_cons, List.not_mem_nil, or_false] at hmacro
      rcases hmacro with rfl | rfl | rfl <;> rfl
    rw [hvertices, List.append_assoc, structs_append, structs_append, structs_interfaceItems,
      structs_flatMap_items, List.flatMap_map, List.flatMap_cons, List.map_append,
      ← List.singleton_append]
    simp only [structs_append, hmacros]
    simp [structs, indexedInputMacro, macroOf]

/-- The structures of a text: those that the shader declares, and those of its groups. -/
theorem exists_structs_eq (hformed : shader.WellFormed) (h : source shader = .ok text) :
    ∃ own, own.map (·.1) = shader.structures.map (·.name) ∧
      text.structs = own ++ (groupStructs shader).map fun s => (s.name, s.members) := by
  obtain ⟨resources, items, hof, hbody, hcontent⟩ := exists_body h
  refine ⟨structs ⟨resources.items⟩, map_fst_structs hof, ?_⟩
  rw [← structs_content, hcontent, structs_append, ← structs_body hformed hbody]
  exact congrArg (_ ++ ·) (structs_content ⟨items⟩)

theorem grouped_eq (hformed : shader.WellFormed) (h : source shader = .ok text) :
    text.grouped shader = (groupStructs shader).map fun s => (s.name, s.members) := by
  obtain ⟨own, hown, hstructs⟩ := exists_structs_eq hformed h
  have hlength : shader.structures.length = own.length := by
    simpa using (congrArg List.length hown).symm
  rw [grouped, hstructs, hlength, List.drop_left]

/-- A name that no structure of the shader has finds structures of groups only. -/
theorem filter_structs (hformed : shader.WellFormed) (h : source shader = .ok text) {name : String}
    (hother : ∀ s ∈ shader.structures, s.name ≠ name) :
    text.structs.filter (·.1 = name) = (text.grouped shader).filter (·.1 = name) := by
  obtain ⟨own, hown, hstructs⟩ := exists_structs_eq hformed h
  have hnone : own.filter (·.1 = name) = [] := by
    refine List.filter_eq_nil_iff.mpr fun entry hentry hsame => ?_
    have hmem : entry.1 ∈ shader.structures.map (·.name) := hown ▸ List.mem_map_of_mem hentry
    obtain ⟨s, hs, hname⟩ := List.mem_map.mp hmem
    exact hother s hs (hname.trans (of_decide_eq_true hsame))
  rw [grouped_eq hformed h, hstructs, List.filter_append, hnone, List.nil_append]

/-- Of some groups with names of their own, the name of one finds its structure alone. -/
theorem filter_structureName {groups : List InterfaceGroup} {group : InterfaceGroup}
    (hnames : (groups.map shader.structureName).Nodup) (hgroup : group ∈ groups) :
    (groups.flatMap fun group => (structOf shader group).toList).filter
      (·.name = shader.structureName group) = (structOf shader group).toList := by
  have hother : ∀ other, shader.structureName other ≠ shader.structureName group →
      (structOf shader other).toList.filter (·.name = shader.structureName group) = [] := by
    intro other hne
    refine List.filter_eq_nil_iff.mpr fun s hs => ?_
    rw [name_of_mem_structOf hs]
    simpa using hne
  induction groups with
  | nil => cases hgroup
  | cons first rest ih =>
    obtain ⟨hfresh, hrest⟩ := List.nodup_cons.mp hnames
    rw [List.flatMap_cons, List.filter_append]
    rcases List.mem_cons.mp hgroup with rfl | hmem
    · have hnone : (rest.flatMap fun group => (structOf shader group).toList).filter
          (·.name = shader.structureName group) = [] := by
        rw [List.filter_flatMap, List.flatMap_eq_nil_iff]
        exact fun other hmem => hother other fun hsame =>
          hfresh (List.mem_map.mpr ⟨other, hmem, hsame⟩)
      rw [hnone, List.append_nil, List.filter_eq_self.mpr]
      exact fun s hs => by simpa using name_of_mem_structOf hs
    · rw [ih hrest hmem, hother first, List.nil_append]
      exact fun hsame => hfresh (List.mem_map.mpr ⟨group, hmem, hsame.symm⟩)

/-- The structures of groups that have the name of one group: that of the group, if it has one. -/
theorem filter_grouped (hformed : shader.WellFormed) (h : source shader = .ok text)
    {group : InterfaceGroup} (hgroup : group ∈ Target.direct3D11.interfaceGroups shader) :
    (text.grouped shader).filter (·.1 = shader.structureName group) =
      (structOf shader group).toList.map fun s => (s.name, s.members) := by
  rw [grouped_eq hformed h, List.filter_map,
    ← filter_structureName (nodup_structureNames .direct3D11 shader) hgroup]
  rfl

/-- A member by the name of its variable, unless that has no length. -/
theorem filter_map_member {v : Variable} (hnames : (vars.map (·.name)).Nodup) (hv : v ∈ vars)
    (hused : v.isUsed = true) :
    ((shader.shown vars).map (member shader)).filter (·.name = v.name) =
      if shader.lengthOf v = some 0 then [] else [member shader v] := by
  have hfound : (shader.shown vars).filter (·.name = v.name) =
      [v].filter fun v => v.isUsed && shader.lengthOf v ≠ some 0 := by
    rw [← filter_name_eq_singleton hnames hv, Shader.shown, List.filter_filter, List.filter_filter]
    exact List.filter_congr fun _ _ => Bool.and_comm ..
  rw [List.filter_map]
  refine (congrArg (List.map (member shader)) hfound).trans ?_
  by_cases hzero : shader.lengthOf v = some 0 <;> simp [hused, hzero]

/-! ## Functions -/

/-- The functions of a text are those that follow the resources. -/
theorem exists_functions_eq (h : source shader = .ok text) :
    ∃ items, body shader = .ok items ∧ text.functions = functions ⟨items⟩ := by
  obtain ⟨resources, items, hof, hbody, hcontent⟩ := exists_body h
  have hnone : functions ⟨resources.items⟩ = [] := by
    refine List.filterMap_eq_nil_iff.mpr fun item hitem => ?_
    cases item with
    | function f =>
      refine absurd ?_ (function_notMem_structures hof.structures f)
      rw [← hof.filter_isOutline]
      exact List.mem_filter.mpr ⟨hitem, rfl⟩
    | _ => rfl
  refine ⟨items, hbody, ?_⟩
  rw [← functions_content, hcontent, functions_append, hnone, List.nil_append]
  exact functions_content ⟨items⟩

end Direct3D11

end CrossShade
