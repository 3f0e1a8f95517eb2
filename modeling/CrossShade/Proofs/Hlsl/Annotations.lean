import CrossShade.Direct3D11.Source
import CrossShade.Direct3D9.Source
import CrossShade.Proofs.Outcome
import CrossShade.Proofs.ValueType.Bytes

/-!
# Annotations in HLSL texts

What the members of interface structures are bound to in a finished text.  A shader may declare a
structure of any name, so a text can hold several structures of one name; but only members of
interface structures are bound to anything.

* `Source.annotations` finds what members are bound to, in a text.
* `declared_interfaceMembers` says that an interface structure declares the used variables, one by
  one.
* `Direct3D9.annotations_source` and `Direct3D11.annotations_source` say what the inputs of a
  vertex or pixel shader are bound to.
-/

namespace CrossShade

namespace Source

variable {struct member : String} {items : List Item}

/-- What the members with a name are bound to, in all structures with a name. -/
def annotations (source : Source) (struct member : String) : List String :=
  (source.structs.filter (·.1 = struct)).flatMap fun s =>
    (s.2.filter (·.name = member)).filterMap (·.boundTo)

/-- Empty lines hold no structures. -/
theorem structs_ofItems (items : List Item) : (ofItems items).structs = structs ⟨items⟩ :=
  filterMap_items_ofItems rfl items

theorem annotations_append (first second : List Item) :
    annotations ⟨first ++ second⟩ struct member =
      annotations ⟨first⟩ struct member ++ annotations ⟨second⟩ struct member := by
  simp only [annotations, structs, List.filterMap_append, List.filter_append, List.flatMap_append]

/-- No structure of that name binds a member. -/
def BindsNothing (struct : String) (items : List Item) : Prop :=
  ∀ members, .struct struct members ∈ items → ∀ d ∈ members, d.boundTo = none

theorem annotations_of_bindsNothing (h : BindsNothing struct items) :
    annotations ⟨items⟩ struct member = [] := by
  rw [annotations, List.flatMap_eq_nil_iff]
  rintro ⟨name, members⟩ hs
  obtain ⟨hmem, hname⟩ := List.mem_filter.mp hs
  obtain rfl : name = struct := by simpa using hname
  obtain ⟨item, hitem, hsome⟩ := List.mem_filterMap.mp hmem
  have hstruct : item = .struct name members := by
    cases item <;> simp at hsome
    rw [hsome.1, hsome.2]
  refine List.filterMap_eq_nil_iff.mpr fun d hd => ?_
  exact h members (hstruct ▸ hitem) d (List.mem_filter.mp hd).1

/-- What stands between items that bind nothing decides. -/
theorem annotations_between {before after : List Item} (hbefore : BindsNothing struct before)
    (hafter : BindsNothing struct after) :
    (ofItems (before ++ (items ++ after))).annotations struct member =
      annotations ⟨items⟩ struct member := by
  rw [annotations, structs_ofItems, ← annotations, annotations_append, annotations_append,
    annotations_of_bindsNothing hbefore, annotations_of_bindsNothing hafter, List.nil_append,
    List.append_nil]

theorem BindsNothing.append {first second : List Item} (hfirst : BindsNothing struct first)
    (hsecond : BindsNothing struct second) : BindsNothing struct (first ++ second) := by
  intro members hmem
  rcases List.mem_append.mp hmem with h | h
  · exact hfirst members h
  · exact hsecond members h

/-- Items none of which is a structure bind nothing. -/
theorem bindsNothing_of_forall
    (h : ∀ item ∈ items, ∀ name members, item ≠ .struct name members) :
    BindsNothing struct items :=
  fun members hmem => absurd rfl (h _ hmem struct members)

theorem bindsNothing_samplingMacros (view sample sampleLevel : String) :
    BindsNothing struct (samplingMacros view sample sampleLevel) := by
  refine bindsNothing_of_forall fun item hitem name members => ?_
  simp only [samplingMacros, macroOf, List.mem_cons, List.not_mem_nil, or_false] at hitem
  rcases hitem with rfl | rfl <;> exact nofun

theorem bindsNothing_flatMap {β : Type} {list : List β} {declare : β → List Item}
    (h : ∀ x ∈ list, BindsNothing struct (declare x)) :
    BindsNothing struct (list.flatMap declare) := by
  intro members hmem
  obtain ⟨x, hx, hitem⟩ := List.mem_flatMap.mp hmem
  exact h x hx members hitem

end Source

open Source

variable {struct : String}

theorem bindsNothing_globalItems (shader : Shader) : BindsNothing struct (globalItems shader) := by
  refine bindsNothing_of_forall fun item hitem name members => ?_
  simp only [globalItems, List.mem_append, List.mem_map, List.mem_singleton] at hitem
  rcases hitem with ⟨line, -, rfl⟩ | rfl <;> exact nofun

/-- The structures that a shader declares are bound to nothing. -/
theorem Hlsl.bindsNothing_structures (shader : Shader) :
    BindsNothing struct (Hlsl.structures shader) := by
  refine bindsNothing_flatMap fun s _ members hmem d hd => ?_
  simp only [List.mem_cons, Item.struct.injEq, List.not_mem_nil, or_false, reduceCtorEq] at hmem
  rw [hmem.2] at hd
  obtain ⟨m, -, rfl⟩ := List.mem_map.mp hd
  rfl

/-! ## Interface structures -/

section Interface

variable {shader : Shader} {role : String} {vars : List Variable} {v : Variable}
  {declare : Variable → MemberLength → Except ShaderError Declaration}
  {bound : Variable → Option String} {members : List Declaration}

/-- Without a domain there is a length for every member that can be declared. -/
theorem memberLength_ne_omitted {name : String} {type : ValueType} :
    memberLength name type none ≠ .ok .omitted := by
  unfold memberLength
  split
  · exact nofun
  · exact nofun
  · rename_i size hfixed _
    cases size with
    | fixed length => exact absurd rfl (hfixed length)
    | _ => exact nofun

/-- An interface structure that no domain sizes declares the used variables, one by one. -/
theorem declared_interfaceMembers
    (hdeclare : ∀ v length d, declare v length = .ok d →
      d.name = v.name ∧ d.boundTo = bound v)
    (h : interfaceMembers shader none declare vars = .ok members) :
    members.map (fun d => (d.name, d.boundTo)) =
      (usedVariables vars).map fun v => (v.name, bound v) := by
  induction vars generalizing members with
  | nil =>
    cases h
    rfl
  | cons v rest ih =>
    rw [interfaceMembers] at h
    split at h
    · rename_i hunused
      have hskip : usedVariables (v :: rest) = usedVariables rest :=
        List.filter_cons_of_neg (by simpa using hunused)
      rw [hskip, ih h]
    · rename_i hused
      have hkeep : usedVariables (v :: rest) = v :: usedVariables rest :=
        List.filter_cons_of_pos (by simpa using hused)
      obtain ⟨length, hlength, h⟩ := bind_eq_ok.mp h
      split at h
      · cases hresult : memberLength v.name v.type none with
        | error fault =>
          rw [hresult] at hlength
          cases hlength
        | ok known =>
          rw [hresult] at hlength
          cases hlength
          exact absurd hresult memberLength_ne_omitted
      · simp only [bind_eq_ok, pure_eq_ok] at h
        obtain ⟨d, hd, following, hfollowing, rfl⟩ := h
        obtain ⟨hname, hbound⟩ := hdeclare v _ d hd
        rw [hkeep, List.map_cons, List.map_cons, ih hfollowing, hname, hbound]

/-- With distinct names, a name finds what has it and nothing else. -/
theorem filter_name_eq_singleton {α : Type} {nameOf : α → String} {list : List α} {x : α}
    (hnames : (list.map nameOf).Nodup) (hx : x ∈ list) :
    list.filter (nameOf · = nameOf x) = [x] := by
  induction list with
  | nil => cases hx
  | cons first rest ih =>
    obtain ⟨hfresh, hrest⟩ := List.nodup_cons.mp hnames
    rcases List.mem_cons.mp hx with rfl | hmem
    · have hnone : rest.filter (nameOf · = nameOf x) = [] := by
        refine List.filter_eq_nil_iff.mpr fun other hother hsame => hfresh ?_
        exact List.mem_map.mpr ⟨other, hother, of_decide_eq_true hsame⟩
      rw [List.filter_cons_of_pos (by simp), hnone]
    · have hother : nameOf first ≠ nameOf x := by
        intro hsame
        exact hfresh (List.mem_map.mpr ⟨x, hmem, hsame.symm⟩)
      rw [List.filter_cons_of_neg (by simpa using hother), ih hrest hmem]

/-- In the interface structure, a used variable is bound to what it was declared with. -/
theorem annotations_interfaceStruct {s : Option InterfaceStruct}
    (hdeclare : ∀ v length d, declare v length = .ok d →
      d.name = v.name ∧ d.boundTo = bound v)
    (h : interfaceStruct shader role none declare vars = .ok s)
    (hnames : (vars.map (·.name)).Nodup) (hv : v ∈ vars) (hused : v.isUsed = true) :
    annotations ⟨InterfaceStruct.items s⟩ (interfaceName shader.stage role) v.name =
      (bound v).toList := by
  simp only [interfaceStruct, bind_eq_ok, pure_eq_ok] at h
  obtain ⟨members, hmembers, rfl⟩ := h
  have hdeclared := declared_interfaceMembers hdeclare hmembers
  have hmem : v ∈ usedVariables vars := List.mem_filter.mpr ⟨hv, hused⟩
  have hdistinct : ((usedVariables vars).map (·.name)).Nodup :=
    hnames.sublist (List.filter_sublist.map _)
  have hfound : (members.filter (·.name = v.name)).filterMap (·.boundTo) =
      (bound v).toList :=
    calc (members.filter (·.name = v.name)).filterMap (·.boundTo)
      _ = ((members.map fun d => (d.name, d.boundTo)).filter (·.1 = v.name)).filterMap (·.2) := by
        rw [List.filter_map, List.filterMap_map]
        rfl
      _ = ((usedVariables vars).filter (·.name = v.name)).filterMap bound := by
        rw [hdeclared, List.filter_map, List.filterMap_map]
        rfl
      _ = (bound v).toList := by
        rw [filter_name_eq_singleton hdistinct hmem, List.filterMap_cons]
        cases bound v <;> rfl
  cases members with
  | nil =>
    cases hlist : usedVariables vars with
    | nil => simp [hlist] at hmem
    | cons first rest => simp [hlist] at hdeclared
  | cons d rest => simpa [InterfaceStruct.items, annotations, structs] using hfound

theorem bindsNothing_interfaceStruct {s : Option InterfaceStruct}
    (h : interfaceStruct shader role none declare vars = .ok s)
    (hother : interfaceName shader.stage role ≠ struct) :
    BindsNothing struct (InterfaceStruct.items s) := by
  simp only [interfaceStruct, bind_eq_ok, pure_eq_ok] at h
  obtain ⟨members, -, rfl⟩ := h
  intro found hmem
  split at hmem
  · cases hmem
  · simp only [InterfaceStruct.items, List.mem_cons, Item.struct.injEq, List.not_mem_nil, or_false,
      reduceCtorEq] at hmem
    exact absurd hmem.1.symm hother

theorem interfaceName_ne (stage : Stage) :
    interfaceName stage "Output" ≠ interfaceName stage "Input" := by
  cases stage <;> decide

/-- What follows the interface structures of a vertex or pixel shader binds nothing. -/
theorem Hlsl.bindsNothing_entryPoint (output : Option InterfaceStruct)
    (parameters code : List String) :
    BindsNothing struct (Hlsl.interfaceMacros ++ [Hlsl.entryPoint [] output parameters code]) := by
  refine bindsNothing_of_forall fun item hitem name members => ?_
  simp only [Hlsl.interfaceMacros, macroOf, Hlsl.entryPoint, List.mem_append, List.mem_cons,
    List.not_mem_nil, or_false] at hitem
  rcases hitem with (rfl | rfl | rfl) | rfl <;> exact nofun

end Interface

/-! ## Direct3D 9 -/

namespace Direct3D9

variable {shader : Shader} {text : Source} {v : Variable} {items : List Item}

/-- A member is declared with the register that its offset gives, counted from the first register of
its buffer. -/
theorem declareConstant_eq_ok_iff {base : UInt32} {m : UniformMember} {item : Item} :
    declareConstant base m = .ok item ↔ ∃ first : UInt32,
      first.toNat = base.toNat + (m.offset / 16).toNat ∧
        .global (Hlsl.declare m.type m.name s!"register(c{first})") = item := by
  simp only [declareConstant, bind_eq_ok, pure_eq_ok, checkedWord_eq_ok_iff]
  norm_cast

/-- The constants of buffers are those of the first one and, behind its registers, those of the
others. -/
theorem constants_cons_eq_ok {base : UInt32} {buffer : UniformBuffer} {rest : List UniformBuffer}
    (h : constants shader base (buffer :: rest) = .ok items) :
    ∃ members count next following, buffer.members.mapM (declareConstant base) = .ok members ∧
      buffer.registerCount shader.structures = .ok count ∧
      next.toNat = base.toNat + count.toNat ∧ constants shader next rest = .ok following ∧
      items = .comment s!"{buffer.name} (slot {buffer.slot})" :: members ++ following := by
  simp only [constants, bind_eq_ok, pure_eq_ok] at h
  obtain ⟨⟨members, next⟩, hdeclare, following, hfollowing, rfl⟩ := h
  have hdeclare := mapError_eq_ok.mp (mapError_eq_ok.mp hdeclare)
  simp only [declareConstants, bind_eq_ok, pure_eq_ok, checkedWord_eq_ok_iff,
    Prod.mk.injEq] at hdeclare
  obtain ⟨declared, hmembers, count, hcount, behind, hnext, rfl, rfl⟩ := hdeclare
  exact ⟨declared, count, behind, following, hmembers, hcount, by omega, hfollowing, rfl⟩

theorem bindsNothing_constants {next : UInt32} {buffers : List UniformBuffer}
    (h : constants shader next buffers = .ok items) : BindsNothing struct items := by
  induction buffers generalizing next items with
  | nil =>
    cases h
    exact bindsNothing_of_forall (by simp)
  | cons buffer rest ih =>
    obtain ⟨members, -, _, following, hmembers, -, -, hfollowing, rfl⟩ := constants_cons_eq_ok h
    refine BindsNothing.append (bindsNothing_of_forall fun item hitem name members => ?_)
      (ih hfollowing)
    rcases List.mem_cons.mp hitem with rfl | hitem
    · simp
    · obtain ⟨m, -, hdeclared⟩ := exists_eq_ok_of_mem_mapM hmembers hitem
      obtain ⟨_, -, rfl⟩ := declareConstant_eq_ok_iff.mp hdeclared
      simp

theorem resources_eq_ok (h : resources shader = .ok items) :
    ∃ constantItems views, constants shader 0 (buffersBySlot shader) = .ok constantItems ∧
      shader.readViews.mapM declareView = .ok views ∧
      items = globalItems shader ++ Hlsl.structures shader ++ constantItems ++ [.blank] ++ views ++
        [.blank] ++ fixedSampling shader ++ [.blank] := by
  unfold resources at h
  split at h
  · cases h
  · simp only [bind_eq_ok, pure_eq_ok] at h
    obtain ⟨constantItems, hconstants, views, hviews, rfl⟩ := h
    exact ⟨constantItems, views, hconstants, hviews, rfl⟩

theorem bindsNothing_resources (h : resources shader = .ok items) : BindsNothing struct items := by
  obtain ⟨constantItems, views, hconstants, hviews, rfl⟩ := resources_eq_ok h
  have hblank : BindsNothing struct [.blank] := bindsNothing_of_forall (by simp)
  have hviewItems : BindsNothing struct views := by
    refine bindsNothing_of_forall fun item hitem name members => ?_
    obtain ⟨view, -, hview⟩ := exists_eq_ok_of_mem_mapM hviews hitem
    unfold declareView at hview
    split at hview
    · cases hview
    · cases hview
      simp
  have hsampling : BindsNothing struct (fixedSampling shader) :=
    bindsNothing_flatMap fun pair _ => bindsNothing_samplingMacros _ _ _
  exact ((((((((bindsNothing_globalItems shader).append
    (Hlsl.bindsNothing_structures shader)).append (bindsNothing_constants hconstants)).append
    hblank).append hviewItems).append hblank).append hsampling).append hblank)

/-- The inputs of a shader are bound to the semantics that its interface gives them. -/
theorem annotations_source (h : source shader = .ok text)
    (hnames : (shader.input.map (·.name)).Nodup) (hv : v ∈ shader.input) (hused : v.isUsed = true) :
    ∃ semantics, (interfaces shader.stage).1.semantics shader.input = .ok semantics ∧
      text.annotations (interfaceName shader.stage "Input") v.name =
        (semantics.lookup v.name).toList := by
  simp only [source] at h
  split at h
  · cases h
  · simp only [bind_eq_ok, pure_eq_ok] at h
    obtain ⟨resourceItems, hresources, semantics, hsemantics, outputSemantics, -, input, hinput,
      output, houtput, rfl⟩ := h
    refine ⟨semantics, hsemantics, ?_⟩
    have hdeclare : ∀ v length d, declareVariable semantics v length = .ok d →
        d.name = v.name ∧ d.boundTo = semantics.lookup v.name := by
      intro v length d hd
      unfold declareVariable at hd
      split at hd
      · cases hd
      · rename_i hlookup
        cases hd
        exact ⟨rfl, hlookup.symm⟩
    have hopening : BindsNothing (interfaceName shader.stage "Input")
        [.comment s!"{shader.name} ({shader.stage} shader, Direct3D 9)", .blank] :=
      bindsNothing_of_forall (by simp)
    have hbefore := hopening.append (bindsNothing_resources hresources)
    have hafter := (bindsNothing_interfaceStruct houtput (interfaceName_ne shader.stage)).append
      (Hlsl.bindsNothing_entryPoint output (Hlsl.parameter input "input") shader.mainCode)
    refine .trans ?_ ((annotations_between hbefore hafter).trans
      (annotations_interfaceStruct hdeclare hinput hnames hv hused))
    simp only [List.append_assoc]

end Direct3D9

/-! ## Direct3D 11 -/

namespace Direct3D11

variable {shader : Shader} {text : Source} {v : Variable} {items : List Item}

theorem bindsNothing_declareViewAs {type? : Option String} {registerClass : String}
    {view : ViewBinding} {item : Item} (h : declareViewAs type? registerClass view = .ok item)
    (name : String) (members : List Declaration) : item ≠ .struct name members := by
  unfold declareViewAs at h
  split at h
  · cases h
  · cases h
    simp

theorem bindsNothing_resources (h : resources shader = .ok items) : BindsNothing struct items := by
  simp only [resources, bind_eq_ok, pure_eq_ok] at h
  obtain ⟨readViews, hreads, writeViews, hwrites, rfl⟩ := h
  have hblank : BindsNothing struct [.blank] := bindsNothing_of_forall (by simp)
  have hbuffers : BindsNothing struct (shader.uniformBuffers.flatMap declareBuffer) :=
    bindsNothing_flatMap fun buffer _ => bindsNothing_of_forall (by simp [declareBuffer])
  have hsamplers : BindsNothing struct (shader.samplers.map declareSampler) := by
    refine bindsNothing_of_forall fun item hitem name members => ?_
    obtain ⟨sampler, -, rfl⟩ := List.mem_map.mp hitem
    simp [declareSampler]
  have hreadItems : BindsNothing struct readViews := by
    refine bindsNothing_of_forall fun item hitem => ?_
    obtain ⟨view, -, hview⟩ := exists_eq_ok_of_mem_mapM hreads hitem
    exact bindsNothing_declareViewAs hview
  have hwriteItems : BindsNothing struct writeViews := by
    refine bindsNothing_of_forall fun item hitem => ?_
    obtain ⟨view, -, hview⟩ := exists_eq_ok_of_mem_mapM hwrites hitem
    unfold declareWriteView at hview
    split at hview
    · exact bindsNothing_declareViewAs hview
    · cases hview
  have hsampling : BindsNothing struct (fixedSampling shader) :=
    bindsNothing_flatMap fun pair _ => bindsNothing_samplingMacros _ _ _
  exact ((((((((bindsNothing_globalItems shader).append
    (Hlsl.bindsNothing_structures shader)).append hbuffers).append hsamplers).append
    hreadItems).append hwriteItems).append hblank).append hsampling).append hblank

/-- The inputs of a vertex or pixel shader are bound to their semantics. -/
theorem annotations_source (h : source shader = .ok text)
    (hstage : shader.stage = .vertex ∨ shader.stage = .pixel)
    (hnames : (shader.input.map (·.name)).Nodup) (hv : v ∈ shader.input) (hused : v.isUsed = true) :
    text.annotations (interfaceName shader.stage "Input") v.name = [semanticOf v] := by
  have hplain : body shader = plain shader := by
    rcases hstage with hstage | hstage <;> rw [body, hstage]
  simp only [source, hplain, plain, interface, bind_eq_ok, pure_eq_ok] at h
  obtain ⟨resourceItems, hresources, _, ⟨input, hinput, output, houtput, rfl⟩, rfl⟩ := h
  have hdeclare : ∀ v length d, declareVariable v length = .ok d →
      d.name = v.name ∧ d.boundTo = some (semanticOf v) := by
    intro v length d hd
    cases hd
    exact ⟨rfl, rfl⟩
  have hopening : BindsNothing (interfaceName shader.stage "Input")
      [.comment s!"{shader.name} ({shader.stage} shader, Direct3D 11)", .blank] :=
    bindsNothing_of_forall (by simp)
  have hbefore := hopening.append (bindsNothing_resources hresources)
  have hafter := (bindsNothing_interfaceStruct houtput (interfaceName_ne shader.stage)).append
    (Hlsl.bindsNothing_entryPoint output (Hlsl.parameter input "input") shader.mainCode)
  refine .trans ?_ ((annotations_between hbefore hafter).trans
    (annotations_interfaceStruct hdeclare hinput hnames hv hused))
  simp only [List.append_assoc]

end Direct3D11

end CrossShade
