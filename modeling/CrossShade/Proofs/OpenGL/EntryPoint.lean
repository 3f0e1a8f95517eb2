import CrossShade.Proofs.Source.Interfaces

/-!
# Entry points of GLSL texts

`main` copies the inputs of a stage into a structure, runs the code of the shader and copies the
outputs out of another one.  The structures, the globals and the copies are made in passes over the
same variables, each with a filter of its own, and still they fit together.

* `Copies` says how a variable is copied, and `CopiesSide` that one side of the stage is copied as a
  whole: every used variable once and in order, every member and every global.
* `filter_globals` finds the globals of a side in a text: those of its transfers, and no others.
* `interface_copied_once` is the conclusion.
-/

namespace CrossShade.OpenGL

open Source

/-! ## Sides -/

namespace Side

/-- The variables of a shader on a side. -/
def vars (shader : Shader) : Side → List Variable
  | input => shader.input
  | output => shader.output

/-- The role of the structure for a side. -/
def role : Side → String
  | input => "Input"
  | output => "Output"

/-- The local that holds the variables of a side. -/
def localName : Side → String
  | input => inputLocal
  | output => outputLocal

/-- How code reaches the member of the structure with a name. -/
def member (side : Side) (name : String) : String :=
  s!"{side.localName}.{name}"

theorem member_injective (side : Side) : Function.Injective side.member :=
  fun _ _ h => (String.append_right_inj _).mp h

/-- The qualifier of the globals on a side. -/
def direction : Side → String
  | input => "in"
  | output => "out"

theorem direction_injective : Function.Injective direction := by
  intro side other
  cases side <;> cases other <;> decide

/-- The end of an assignment that is in the structure. -/
def inner (a : Assignment) : Side → String
  | input => a.destination
  | output => a.value

/-- The end of an assignment that is outside of the structure. -/
def outer (a : Assignment) : Side → String
  | input => a.value
  | output => a.destination

/-- The name of the global for a variable, unless it is built in. -/
def global? (shader : Shader) (v : Variable) : Side → Option String
  | input => inputGlobal? v
  | output => outputGlobal? shader.stage v

/-- The transfer of a variable. -/
def transfer (shader : Shader) : Side → Variable → Option UInt32 → Except ShaderError Transfer
  | input => receive shader
  | output => pass shader

end Side

/-- The used variables on a side, each with its location. -/
def usedLocations (shader : Shader) (side : Side) : List (Variable × Option UInt32) :=
  ((side.vars shader).zip (locations shader.stage side (side.vars shader))).filter (·.1.isUsed)

/-- The line that declares the local of a side, if a variable there is used. -/
def declareLocal (shader : Shader) (side : Side) : List String :=
  if usedVariables (side.vars shader) = [] then []
  else [s!"    {interfaceName shader.stage side.role} {side.localName};"]

/-! ## Copies -/

/-- A text declares one global with a name and a direction.  It is for a variable, at a location. -/
def DeclaresGlobal (text : Source) (direction name : String) (v : Variable) (location : UInt32) :
    Prop :=
  ∃ declared, text.globals.filter (fun d => d.name = name ∧ direction ∈ d.qualifiers) = [declared] ∧
    declared.qualifiers.head? = some s!"layout(location = {location})" ∧
    typeName v.type = .ok declared.type ∧ declared.length = v.type.fixedLength?

/-- How a variable with its location is copied: an input into its member, from a built-in variable
or a global; an output from its member, into one of these. -/
inductive Copies (text : Source) (shader : Shader) :
    Side → Variable × Option UInt32 → Assignment → Prop
  | readBuiltin {v : Variable} {location : Option UInt32} {builtin type : String} :
    v.isSystemValue = true →
    builtinInput? shader.stage (v.semanticBase?.getD "") = some builtin →
    typeName v.type = .ok type →
    Copies text shader .input (v, location) ⟨s!"{inputLocal}.{v.name}", s!"{type}({builtin})"⟩
  | readGlobal {v : Variable} {location : UInt32} :
    v.isSystemValue = false →
    DeclaresGlobal text "in" s!"in_{v.name}" v location →
    Copies text shader .input (v, some location) ⟨s!"{inputLocal}.{v.name}", s!"in_{v.name}"⟩
  | writeBuiltin {v : Variable} {location : Option UInt32} {builtin : String} :
    builtinOutput? shader.stage (v.semanticBase?.getD "") = some builtin →
    Copies text shader .output (v, location) ⟨builtin, s!"{outputLocal}.{v.name}"⟩
  | writeGlobal {v : Variable} {location : UInt32} :
    builtinOutput? shader.stage (v.semanticBase?.getD "") = none →
    DeclaresGlobal text "out" s!"out_{v.name}" v location →
    Copies text shader .output (v, some location) ⟨s!"out_{v.name}", s!"{outputLocal}.{v.name}"⟩

/-- Some assignments copy a side of the stage as a whole. -/
structure CopiesSide (text : Source) (shader : Shader) (side : Side) (row : List Assignment) :
    Prop where
  /-- There is one assignment for every used variable, in order. -/
  copies : List.Forall₂ (Copies text shader side) (usedLocations shader side) row
  /-- No member is copied twice. -/
  once : (row.map (side.inner ·)).Nodup
  /-- If there is anything to copy, its structure is declared, and its members are copied, in
  order. -/
  members : row ≠ [] → ∃ members,
    (interfaceName shader.stage side.role, members) ∈ text.structs ∧
      row.map (side.inner ·) = members.map (side.member ·.name)
  /-- Every global that is declared for the side is copied. -/
  globals : ∀ d ∈ text.globals, side.direction ∈ d.qualifiers →
    ∃ a ∈ row, side.outer a = d.name

/-! ## Ends of assignments -/

section Ends

variable {text : Source} {shader : Shader} {side : Side} {pair : Variable × Option UInt32}
  {a : Assignment}

theorem Copies.inner_eq (h : Copies text shader side pair a) :
    side.inner a = side.member pair.1.name := by
  cases h <;> rfl

theorem Copies.outer_eq (h : Copies text shader side pair a) {name : String}
    (hname : side.global? shader pair.1 = some name) : side.outer a = name := by
  cases h with
  | readBuiltin hsystem => simp [Side.global?, inputGlobal?, hsystem] at hname
  | readGlobal hsystem =>
    simp only [Side.global?, inputGlobal?, hsystem] at hname
    exact Option.some.inj hname
  | writeBuiltin hbuiltin => simp [Side.global?, outputGlobal?, hbuiltin] at hname
  | writeGlobal hbuiltin =>
    simp only [Side.global?, outputGlobal?, hbuiltin] at hname
    exact Option.some.inj hname

end Ends

/-! ## Qualifiers -/

section Qualifiers

variable {shader : Shader} {v : Variable} {type name : String} {location : UInt32}
  {isVarying : Bool} {d : Declaration} {items : List Item}

/-- A layout is no direction. -/
theorem ne_direction {layout : String} (h : "layout".toList <+: layout.toList) (side : Side) :
    side.direction ≠ layout := by
  rintro rfl
  revert h
  cases side <;> decide

theorem isPrefix_append {start : String} (h : "layout".toList <+: start.toList) (rest : String) :
    "layout".toList <+: (start ++ rest).toList := by
  rw [String.toList_append]
  exact h.trans (List.prefix_append ..)

theorem ne_interpolationQualifier {word : String} (h : interpolationQualifier? v = some word)
    (side : Side) : side.direction ≠ word := by
  unfold interpolationQualifier? at h
  split at h
  · cases h
    cases side <;> decide
  · split at h <;> cases h <;> cases side <;> decide

/-- A global of a variable has one direction. -/
theorem direction_mem_iff {other : Side} (side : Side)
    (h : declareGlobal shader v type name location isVarying other.direction = .ok d) :
    side.direction ∈ d.qualifiers ↔ side = other := by
  simp only [declareGlobal, bind_eq_ok, pure_eq_ok] at h
  obtain ⟨length, -, rfl⟩ := h
  have hlayout : "layout".toList <+: (s!"layout(location = {location})").toList :=
    isPrefix_append (isPrefix_append (by decide) _) _
  have hinterpolation :
      side.direction ∉ if isVarying then (interpolationQualifier? v).toList else [] := by
    split
    · exact fun hmem => ne_interpolationQualifier (Option.mem_toList.mp hmem) side rfl
    · exact List.not_mem_nil
  simp only [List.cons_append, List.mem_cons, List.mem_append, List.not_mem_nil, or_false,
    ne_direction hlayout side, hinterpolation, false_or]
  exact Side.direction_injective.eq_iff

/-- Without a domain only a length that is a number can be declared. -/
theorem length?_memberLength {member : String} {memberType : ValueType} {length : MemberLength}
    (h : memberLength member memberType none = .ok length) :
    length.length? = memberType.fixedLength? := by
  cases memberType with
  | array element size =>
    cases size with
    | fixed _ =>
      cases h
      rfl
    | _ => cases h
  | _ =>
    cases h
    rfl

end Qualifiers

/-! ## Items that pass nothing -/

/-- No global among some items has a direction. -/
def PassesNothing (items : List Item) : Prop :=
  ∀ side : Side, (globals ⟨items⟩).filter (side.direction ∈ ·.qualifiers) = []

section PassesNothing

variable {shader : Shader} {items : List Item}

theorem passesNothing_of_globals (h : globals ⟨items⟩ = []) : PassesNothing items :=
  fun _ => by rw [h, List.filter_nil]

theorem PassesNothing.append {more : List Item} (h : PassesNothing items)
    (hmore : PassesNothing more) : PassesNothing (items ++ more) := by
  intro side
  rw [globals_append, List.filter_append, h side, hmore side, List.append_nil]

theorem passesNothing_flatten {α : Type} {declare : α → Except ShaderError (List Item)}
    (hdeclare : ∀ a items, declare a = .ok items → PassesNothing items) {list : List α}
    {lists : List (List Item)} (h : list.mapM declare = .ok lists) :
    PassesNothing lists.flatten := by
  have hall : ∀ items ∈ lists, PassesNothing items := by
    intro items hitems
    obtain ⟨a, -, hresult⟩ := exists_eq_ok_of_mem_mapM h hitems
    exact hdeclare a items hresult
  clear h
  induction lists with
  | nil => exact passesNothing_of_globals rfl
  | cons first rest ih =>
    obtain ⟨hfirst, hrest⟩ := List.forall_mem_cons.mp hall
    exact hfirst.append (ih hrest)

theorem passesNothing_of_forall (h : ∀ item ∈ items, PassesNothing [item]) :
    PassesNothing items := by
  induction items with
  | nil => exact passesNothing_of_globals rfl
  | cons first rest ih =>
    obtain ⟨hfirst, hrest⟩ := List.forall_mem_cons.mp h
    exact hfirst.append (ih hrest)

theorem passesNothing_of_mapM {α : Type} {declare : α → Except ShaderError Item}
    (hdeclare : ∀ a item, declare a = .ok item → PassesNothing [item]) {list : List α}
    (h : list.mapM declare = .ok items) : PassesNothing items := by
  refine passesNothing_of_forall fun item hitem => ?_
  obtain ⟨a, -, hresult⟩ := exists_eq_ok_of_mem_mapM h hitem
  exact hdeclare a item hresult

/-- What is bound to a set has no direction. -/
theorem passesNothing_declareOpaque {layout : String} (h : "layout".toList <+: layout.toList)
    (type name : String) : PassesNothing [declareOpaque layout type name] := by
  intro side
  have huniform : side.direction ≠ "uniform" := by cases side <;> decide
  refine List.filter_eq_nil_iff.mpr fun d hd => ?_
  obtain rfl : d = { qualifiers := [layout, "uniform"], type, name } := List.mem_singleton.mp hd
  simp [ne_direction h side, huniform]

theorem isPrefix_bindingLayout (binding : UInt32) :
    "layout".toList <+: (bindingLayout binding).toList :=
  isPrefix_append (isPrefix_append (by decide) _) _

theorem passesNothing_declareStorage {access : String} {binding : UInt32} {view : ViewBinding}
    {item : Item} (h : declareStorage access binding view = .ok item) : PassesNothing [item] := by
  obtain ⟨type, -, hpure⟩ := bind_eq_ok.mp h
  cases hpure
  exact passesNothing_of_globals rfl

theorem passesNothing_declareReadView (view : ViewBinding) (item : Item)
    (h : declareReadView view = .ok item) : PassesNothing [item] := by
  unfold declareReadView at h
  dsimp only at h
  split at h
  · exact passesNothing_declareStorage h
  · split at h
    · cases h
    · cases h
      exact passesNothing_declareOpaque (isPrefix_bindingLayout _) _ _

theorem passesNothing_declareWriteView (view : ViewBinding) (item : Item)
    (h : declareWriteView view = .ok item) : PassesNothing [item] := by
  unfold declareWriteView at h
  dsimp only at h
  split at h
  · exact passesNothing_declareStorage h
  · split at h
    · cases h
    · cases h
    · cases h
      refine passesNothing_declareOpaque (isPrefix_append ?_ _) _ _
      exact isPrefix_append (isPrefix_append (isPrefix_append (by decide) _) _) _

theorem passesNothing_declareStructure (s : Structure) (items : List Item)
    (h : declareStructure s = .ok items) : PassesNothing items := by
  obtain ⟨members, -, hpure⟩ := bind_eq_ok.mp h
  cases hpure
  exact passesNothing_of_globals rfl

theorem passesNothing_declareBlock (buffer : UniformBuffer) (items : List Item)
    (h : declareBlock buffer = .ok items) : PassesNothing items := by
  obtain ⟨members, -, hpure⟩ := bind_eq_ok.mp h
  cases hpure
  exact passesNothing_of_globals rfl

theorem passesNothing_samplePair (pair : FixedSampling) (items : List Item)
    (h : samplePair shader pair = .ok items) : PassesNothing items := by
  unfold samplePair at h
  split at h
  · cases h
    exact passesNothing_of_globals rfl
  · split at h
    · cases h
    · cases h
      exact passesNothing_of_globals rfl

theorem passesNothing_threadGroup (h : threadGroup shader = .ok items) : PassesNothing items := by
  unfold threadGroup at h
  split at h
  · obtain ⟨group, -, hpure⟩ := bind_eq_ok.mp h
    cases hpure
    exact passesNothing_of_globals rfl
  · cases h
    exact passesNothing_of_globals rfl

/-- Resources are declared apart from the interface. -/
theorem passesNothing_resources (h : resources shader = .ok items) : PassesNothing items := by
  obtain ⟨structures, blocks, readViews, writeViews, sampling, hstructures, hblocks, hreadViews,
    hwriteViews, hsampling, rfl⟩ := resources_eq_ok_iff.mp h
  have hblank : PassesNothing [.blank] := passesNothing_of_globals rfl
  have hcode : PassesNothing (globalItems shader) :=
    .append (passesNothing_of_forall (List.forall_mem_map.mpr fun _ _ =>
      passesNothing_of_globals rfl)) hblank
  have hsamplers : PassesNothing (shader.samplers.map declareSampler) :=
    passesNothing_of_forall (List.forall_mem_map.mpr fun _ _ =>
      passesNothing_declareOpaque (isPrefix_bindingLayout _) _ _)
  have hstructureItems := passesNothing_flatten passesNothing_declareStructure hstructures
  have hblockItems := passesNothing_flatten passesNothing_declareBlock hblocks
  have hreadItems := passesNothing_of_mapM passesNothing_declareReadView hreadViews
  have hwriteItems := passesNothing_of_mapM passesNothing_declareWriteView hwriteViews
  have hsamplingItems := passesNothing_flatten passesNothing_samplePair hsampling
  exact hcode.append hstructureItems |>.append hblockItems |>.append hsamplers
    |>.append hreadItems |>.append hwriteItems |>.append hblank |>.append hsamplingItems
    |>.append hblank

end PassesNothing

/-! ## Globals of a side -/

namespace StageInterface

/-- The structure for a side. -/
def struct? (interface : StageInterface) : Side → Option InterfaceStruct
  | .input => interface.input
  | .output => interface.output

/-- The transfers of a side. -/
def row (interface : StageInterface) : Side → List Transfer
  | .input => interface.received
  | .output => interface.passed

/-- The globals that the transfers of a side declare. -/
def passing (interface : StageInterface) (side : Side) : List Declaration :=
  (interface.row side).filterMap (·.global?)

end StageInterface

section Globals

variable {shader : Shader} {version : Version} {text : Source} {interface : StageInterface}
  {v : Variable} {location : Option UInt32} {transfer : Transfer} {d : Declaration}

theorem transfers_of_stageInterface (h : stageInterface shader = .ok interface) (side : Side) :
    transfers (side.transfer shader) shader.stage side (side.vars shader) =
      .ok (interface.row side) := by
  simp only [stageInterface, bind_eq_ok, pure_eq_ok] at h
  obtain ⟨input, -, output, -, received, hreceived, passed, hpassed, rfl⟩ := h
  cases side
  · exact hreceived
  · exact hpassed

/-- The used variables and their transfers stand side by side. -/
theorem forall₂_row (h : stageInterface shader = .ok interface) (side : Side) :
    List.Forall₂ (fun pair transfer => side.transfer shader pair.1 pair.2 = .ok transfer)
      (usedLocations shader side) (interface.row side) :=
  mapM_eq_ok_iff.mp (transfers_of_stageInterface h side)

theorem direction_mem_transfer {other : Side} (side : Side)
    (h : other.transfer shader v location = .ok transfer) (hd : transfer.global? = some d) :
    side.direction ∈ d.qualifiers ↔ side = other := by
  cases other with
  | input =>
    obtain ⟨type, -, ⟨-, builtin, -, rfl⟩ | ⟨-, first, declared, -, hdeclared, rfl⟩⟩ :=
      receive_cases h
    · cases hd
    · cases hd
      exact direction_mem_iff side hdeclared
  | output =>
    obtain ⟨type, -, ⟨builtin, -, rfl⟩ | ⟨-, first, declared, -, hdeclared, rfl⟩⟩ := pass_cases h
    · cases hd
    · cases hd
      exact direction_mem_iff side hdeclared

/-- The globals for a side have its direction and no other. -/
theorem filter_passing (h : stageInterface shader = .ok interface) (side other : Side) :
    (interface.passing other).filter (side.direction ∈ ·.qualifiers) =
      if side = other then interface.passing other else [] := by
  have hdirection : ∀ d ∈ interface.passing other,
      side.direction ∈ d.qualifiers ↔ side = other := by
    intro d hd
    obtain ⟨transfer, htransfer, hglobal⟩ := List.mem_filterMap.mp hd
    obtain ⟨pair, -, hpair⟩ := exists_mem_of_forall₂ (forall₂_row h other) htransfer
    exact direction_mem_transfer side hpair hglobal
  split
  · rename_i hsame
    exact List.filter_eq_self.mpr fun d hd => decide_eq_true ((hdirection d hd).mpr hsame)
  · rename_i hother
    exact List.filter_eq_nil_iff.mpr fun d hd hmem =>
      hother ((hdirection d hd).mp (of_decide_eq_true hmem))

theorem globals_interface (interface : StageInterface) :
    globals ⟨interface.items⟩ = interface.passing .input ++ interface.passing .output := by
  have hstruct : ∀ s : Option InterfaceStruct, globals ⟨InterfaceStruct.items s⟩ = [] := by
    intro s
    cases s <;> rfl
  have hpassed : ∀ list : List Declaration, globals ⟨list.map .global⟩ = list := by
    intro list
    rw [globals, List.filterMap_map]
    exact List.filterMap_some
  have hblank : globals ⟨[.blank]⟩ = [] := rfl
  rw [StageInterface.items, globals_append, globals_append, globals_append, hstruct, hstruct,
    hpassed, hblank, List.filterMap_append, List.append_nil]
  rfl

/-- The globals of a text with the direction of a side are those of its transfers. -/
theorem filter_globals (htext : source version shader = .ok text)
    (hinterface : stageInterface shader = .ok interface) (side : Side) :
    text.globals.filter (side.direction ∈ ·.qualifiers) = interface.passing side := by
  obtain ⟨resourceItems, found, group, hresources, hfound, hgroup, rfl⟩ := parts_of_source htext
  obtain rfl := Except.ok.inj (hfound.symm.trans hinterface)
  -- Of all that a text is made of, only the interface declares globals with a direction.
  have hprelude : PassesNothing prelude_ := passesNothing_of_globals rfl
  have hinterfaceGlobals : (globals ⟨found.items⟩).filter (side.direction ∈ ·.qualifiers) =
      found.passing side := by
    rw [globals_interface, List.filter_append, filter_passing hinterface,
      filter_passing hinterface]
    cases side
    · exact List.append_nil _
    · rfl
  simp only [globals_ofItems, globals_append, List.filter_append, hprelude side,
    passesNothing_resources hresources side, passesNothing_threadGroup hgroup side,
    hinterfaceGlobals]
  simp [globals, macroOf]

end Globals

/-! ## Names of globals -/

section Names

variable {shader : Shader} {version : Version} {text : Source} {interface : StageInterface}
  {v : Variable} {location : Option UInt32} {transfer : Transfer} {side : Side}

theorem map_name_global? (h : side.transfer shader v location = .ok transfer) :
    transfer.global?.map (·.name) = side.global? shader v := by
  cases side with
  | input => exact global_receive h
  | output => exact global_pass h

theorem eq_append_of_global? {name : String} (h : side.global? shader v = some name) :
    name = side.direction ++ "_" ++ v.name := by
  cases side with
  | input =>
    simp only [Side.global?, inputGlobal?] at h
    split at h <;> cases h
    rfl
  | output =>
    simp only [Side.global?, outputGlobal?] at h
    split at h <;> cases h
    rfl

theorem nodup_vars (hformed : shader.WellFormed) (side : Side) :
    ((side.vars shader).map (·.name)).Nodup := by
  cases side with
  | input => exact hformed.groupNames ("input", shader.input) (by simp [Shader.variableGroups])
  | output => exact hformed.groupNames ("output", shader.output) (by simp [Shader.variableGroups])

/-- No two globals of a side have the same name. -/
theorem nodup_passing (hformed : shader.WellFormed)
    (hinterface : stageInterface shader = .ok interface) (side : Side) :
    ((interface.passing side).map (·.name)).Nodup := by
  have hnames : (interface.passing side).map (·.name) =
      (usedVariables (side.vars shader)).filterMap (side.global? shader) :=
    map_name_globals (fun _ _ _ hresult => map_name_global? hresult)
      (transfers_of_stageInterface hinterface side)
  have hused : (usedVariables (side.vars shader)).Pairwise fun v w => v.name ≠ w.name :=
    (List.pairwise_map.mp (nodup_vars hformed side)).filter _
  rw [hnames]
  refine hused.filterMap _ fun v w hne first hfirst second hsecond hsame => hne ?_
  rw [eq_append_of_global? hfirst, eq_append_of_global? hsecond] at hsame
  exact String.append_right_inj _ |>.mp hsame

end Names

/-! ## Sides as a whole -/

section Copied

variable {shader : Shader} {version : Version} {text : Source} {interface : StageInterface}
  {v : Variable} {location : Option UInt32} {transfer : Transfer} {side : Side}

theorem declaresGlobal (side : Side) (hformed : shader.WellFormed)
    (htext : source version shader = .ok text) (hinterface : stageInterface shader = .ok interface)
    {type name : String} {first : UInt32} {isVarying : Bool} {declared : Declaration}
    (htype : typeName v.type = .ok type)
    (hdeclared : declareGlobal shader v type name first isVarying side.direction = .ok declared)
    (hmem : declared ∈ interface.passing side) :
    DeclaresGlobal text side.direction name v first := by
  have hname := name_declareGlobal hdeclared
  have honce : text.globals.filter (fun d => d.name = name ∧ side.direction ∈ d.qualifiers) =
      [declared] := by
    simp only [Bool.decide_and]
    rw [← List.filter_filter, filter_globals htext hinterface, ← hname]
    exact filter_name_eq_singleton (nodup_passing hformed hinterface side) hmem
  simp only [declareGlobal, bind_eq_ok, pure_eq_ok] at hdeclared
  obtain ⟨length, hlength, rfl⟩ := hdeclared
  exact ⟨_, honce, rfl, htype, length?_memberLength (Direct3D11.fault_eq_ok hlength)⟩

/-- Every transfer copies its variable. -/
theorem exists_copies (hformed : shader.WellFormed) (htext : source version shader = .ok text)
    (hinterface : stageInterface shader = .ok interface) (hmem : transfer ∈ interface.row side)
    (h : side.transfer shader v location = .ok transfer) :
    ∃ a, Copies text shader side (v, location) a ∧ a.line = transfer.copy := by
  have hpassing : ∀ declared, transfer.global? = some declared →
      declared ∈ interface.passing side :=
    fun declared hdeclared => List.mem_filterMap.mpr ⟨transfer, hmem, hdeclared⟩
  cases side with
  | input =>
    obtain ⟨type, htype, ⟨hsystem, builtin, hbuiltin, rfl⟩ |
      ⟨hsystem, first, declared, rfl, hdeclared, rfl⟩⟩ := receive_cases h
    · exact ⟨_, .readBuiltin hsystem hbuiltin htype, rfl⟩
    · exact ⟨_, .readGlobal hsystem (declaresGlobal .input hformed htext hinterface htype
        hdeclared (hpassing declared rfl)), rfl⟩
  | output =>
    obtain ⟨type, htype, ⟨builtin, hbuiltin, rfl⟩ |
      ⟨hbuiltin, first, declared, rfl, hdeclared, rfl⟩⟩ := pass_cases h
    · exact ⟨_, .writeBuiltin hbuiltin, rfl⟩
    · exact ⟨_, .writeGlobal hbuiltin (declaresGlobal .output hformed htext hinterface
        htype hdeclared (hpassing declared rfl)), rfl⟩

/-- There is a structure if a variable is used, and its members are the used variables. -/
theorem interfaceStruct_cases {role : String} {vars : List Variable} {s : Option InterfaceStruct}
    (h : interfaceStruct shader role none declareVariable vars = .ok s) :
    (usedVariables vars = [] ∧ s = none) ∨
      (usedVariables vars ≠ [] ∧ ∃ members, s = some ⟨interfaceName shader.stage role, members⟩ ∧
        members.map (·.name) = (usedVariables vars).map (·.name)) := by
  simp only [interfaceStruct, bind_eq_ok, pure_eq_ok] at h
  obtain ⟨members, hmembers, rfl⟩ := h
  have hdeclare : ∀ v length d, declareVariable v length = .ok d →
      d.name = v.name ∧ d.boundTo = none := by
    intro v length d hd
    simp only [declareVariable, bind_eq_ok, pure_eq_ok] at hd
    obtain ⟨type, -, rfl⟩ := hd
    exact ⟨rfl, rfl⟩
  have hdeclared := declared_interfaceMembers hdeclare hmembers
  have hnames : members.map (·.name) = (usedVariables vars).map (·.name) := by
    simpa [List.map_map, Function.comp_def] using congrArg (List.map (·.1)) hdeclared
  cases members with
  | nil => exact .inl ⟨List.map_eq_nil_iff.mp hnames.symm, rfl⟩
  | cons d rest =>
    refine .inr ⟨fun hnone => ?_, _, rfl, hnames⟩
    rw [hnone] at hnames
    cases hnames

theorem struct?_cases (h : stageInterface shader = .ok interface) (side : Side) :
    (usedVariables (side.vars shader) = [] ∧ interface.struct? side = none) ∨
      (usedVariables (side.vars shader) ≠ [] ∧ ∃ members,
        interface.struct? side = some ⟨interfaceName shader.stage side.role, members⟩ ∧
        members.map (·.name) = (usedVariables (side.vars shader)).map (·.name)) := by
  simp only [stageInterface, bind_eq_ok, pure_eq_ok] at h
  obtain ⟨input, hinput, output, houtput, received, -, passed, -, rfl⟩ := h
  cases side
  · exact interfaceStruct_cases hinput
  · exact interfaceStruct_cases houtput

theorem localLines_struct? (h : stageInterface shader = .ok interface) (side : Side) :
    localLines (interface.struct? side) side.localName = declareLocal shader side := by
  unfold declareLocal
  rcases struct?_cases h side with ⟨hnone, hs⟩ | ⟨hsome, members, hs, -⟩
  · rw [hs, if_pos hnone]
    rfl
  · rw [hs, if_neg hsome]
    rfl

theorem map_used (shader : Shader) (side : Side) (shown : Variable → String) :
    (usedLocations shader side).map (fun pair => shown pair.1) =
      (usedVariables (side.vars shader)).map shown := by
  have hused : (usedLocations shader side).map (·.1) = usedVariables (side.vars shader) :=
    map_fst_used ..
  rw [← hused, List.map_map]
  rfl

/-- The ends of the assignments in the structure are the members for the used variables. -/
theorem map_inner {row : List Assignment}
    (h : List.Forall₂ (Copies text shader side) (usedLocations shader side) row) :
    row.map (side.inner ·) = ((usedVariables (side.vars shader)).map (·.name)).map side.member := by
  rw [List.map_map, ← map_used shader side, ← List.forall₂_eq_eq_eq, List.forall₂_map_left_iff,
    List.forall₂_map_right_iff]
  exact h.flip.imp fun a pair hcopies => hcopies.inner_eq

/-- Every side of a stage is copied by the lines of its transfers. -/
theorem exists_copiesSide (hformed : shader.WellFormed) (htext : source version shader = .ok text)
    (hinterface : stageInterface shader = .ok interface)
    (hstructs : ∀ side, ∀ s ∈ interface.struct? side, (s.name, s.members) ∈ text.structs)
    (side : Side) :
    ∃ row, CopiesSide text shader side row ∧
      row.map (·.line) = (interface.row side).map (·.copy) := by
  obtain ⟨row, hcopies, hlines⟩ := exists_forall₂_map_eq (forall₂_row hinterface side)
    fun pair transfer hmem hpair => exists_copies hformed htext hinterface hmem hpair
  have hinner := map_inner hcopies
  refine ⟨row, ⟨hcopies, ?_, fun hrow => ?_, fun d hd hdirection => ?_⟩, hlines⟩
  · rw [hinner]
    exact ((nodup_vars hformed side).sublist (List.filter_sublist.map _)).map side.member_injective
  · have hused : usedVariables (side.vars shader) ≠ [] := by
      rintro hnone
      rw [hnone, List.map_nil, List.map_nil, List.map_eq_nil_iff] at hinner
      exact hrow hinner
    obtain ⟨-, members, hs, hnames⟩ :=
      (struct?_cases hinterface side).resolve_left fun hnone => hused hnone.1
    refine ⟨members, hstructs side _ hs, ?_⟩
    rw [hinner, ← hnames, List.map_map]
    rfl
  · -- The global was declared by a transfer, and the variable of that transfer is copied.
    have hpassing : d ∈ interface.passing side := by
      rw [← filter_globals htext hinterface side]
      exact List.mem_filter.mpr ⟨hd, decide_eq_true hdirection⟩
    obtain ⟨transfer, htransfer, hglobal⟩ := List.mem_filterMap.mp hpassing
    obtain ⟨pair, hpair, hresult⟩ :=
      exists_mem_of_forall₂ (forall₂_row hinterface side) htransfer
    obtain ⟨a, ha, hcopied⟩ := exists_mem_of_forall₂ hcopies.flip hpair
    have hname := map_name_global? hresult
    rw [hglobal] at hname
    exact ⟨a, ha, hcopied.outer_eq hname.symm⟩

end Copied

/-- In every GLSL text of a shader, `main` declares the local of the inputs if an input is used,
fills it, declares the local of the outputs if an output is used, runs the code of the shader and
empties it.  On each side the used variables are copied one by one and in order, from or to the
built-in variable of their system value or the one global that is declared for them.  Every member
of the structure is copied once, and every global with the direction of the side is copied. -/
theorem interface_copied_once {name : String} {stage : Stage} {additions : List Addition}
    {shader : Shader} {version : Version} {text : Source}
    (hbuild : Shader.build name stage additions = .ok shader)
    (htext : source version shader = .ok text) :
    ∃ inputs outputs : List Assignment,
      text.functions =
        [{ returns := "void"
           name := "main"
           body := declareLocal shader .input ++ inputs.map (·.line) ++
             declareLocal shader .output ++ shader.mainCode ++ outputs.map (·.line) }] ∧
      CopiesSide text shader .input inputs ∧ CopiesSide text shader .output outputs := by
  have hformed := Shader.wellFormed_of_build hbuild
  have hsource : Target.openGL.source version shader = .ok text := htext
  obtain ⟨structures, interfaces, functions, houtlined⟩ := exists_outlined hformed hsource
  have hfunctions := houtlined.functions_eq
  have hdeclared : ∀ s ∈ interfaces.reduceOption, (s.name, s.members) ∈ text.structs :=
    fun s hs => houtlined.interface_mem_structs hs
  cases houtlined.wiring with
  | plain hother => exact absurd rfl hother
  | @openGL interface hsupports hinterface =>
    have hstructs : ∀ side, ∀ s ∈ interface.struct? side,
        (s.name, s.members) ∈ text.structs := by
      intro side s hs
      refine hdeclared s (List.reduceOption_mem_iff.mpr ?_)
      rw [← Option.mem_def.mp hs]
      cases side <;> simp [StageInterface.struct?]
    obtain ⟨inputs, hinputs, hinputLines⟩ :=
      exists_copiesSide hformed htext hinterface hstructs .input
    obtain ⟨outputs, houtputs, houtputLines⟩ :=
      exists_copiesSide hformed htext hinterface hstructs .output
    refine ⟨inputs, outputs, ?_, hinputs, houtputs⟩
    rw [hfunctions, body_eq, hinputLines, houtputLines, ← localLines_struct? hinterface .input,
      ← localLines_struct? hinterface .output]
    rfl

/-- A vertex shader with variables of every sort: built in, passed by globals, and not used. -/
def banner : Shader where
  name := "Banner"
  stage := .vertex
  input :=
    [{ type := .vector .float 3, name := "place", semantic := "POSITION" },
      { type := .vector .float 3, name := "normal", semantic := "NORMAL", isUsed := false },
      { type := .scalar .uint, name := "corner", semantic := "SV_VertexID" },
      { type := .vector .float 2, name := "uv", semantic := "TEXCOORD0" }]
  output :=
    [{ type := .float4, name := "position", semantic := "SV_Position" },
      { type := .vector .float 3, name := "tint", isUsed := false },
      { type := .vector .float 2, name := "uv", semantic := "TEXCOORD0" }]
  mainCode := ["    OUTPUT(position) = float4(INPUT(place), 1.0);", "    OUTPUT(uv) = INPUT(uv);"]

theorem interface_copied_once_banner :
    Shader.build "Banner" .vertex banner.additions = .ok banner ∧
      ∃ text inputs outputs, source .v450 banner = .ok text ∧
        CopiesSide text banner .input inputs ∧ CopiesSide text banner .output outputs ∧
        text.functions.map (·.body) =
          [["    VS_Input stage_input;", "    stage_input.place = in_place;",
            "    stage_input.corner = uint(gl_VertexIndex);", "    stage_input.uv = in_uv;",
            "    VS_Output stage_output;", "    OUTPUT(position) = float4(INPUT(place), 1.0);",
            "    OUTPUT(uv) = INPUT(uv);", "    gl_Position = stage_output.position;",
            "    out_uv = stage_output.uv;"]] := by
  have hbuild : Shader.build "Banner" .vertex banner.additions = .ok banner := by decide +kernel
  have hbody : (source .v450 banner).map (fun text => text.functions.map (·.body)) = .ok
      [["    VS_Input stage_input;", "    stage_input.place = in_place;",
        "    stage_input.corner = uint(gl_VertexIndex);", "    stage_input.uv = in_uv;",
        "    VS_Output stage_output;", "    OUTPUT(position) = float4(INPUT(place), 1.0);",
        "    OUTPUT(uv) = INPUT(uv);", "    gl_Position = stage_output.position;",
        "    out_uv = stage_output.uv;"]] := by
    decide +kernel
  obtain ⟨text, htext, hlines⟩ := map_eq_ok.mp hbody
  obtain ⟨inputs, outputs, -, hinputs, houtputs⟩ := interface_copied_once hbuild htext
  exact ⟨hbuild, text, inputs, outputs, htext, hinputs, houtputs, hlines⟩

end CrossShade.OpenGL
