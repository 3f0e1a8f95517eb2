import CrossShade.Backend
import CrossShade.Proofs.Direct3D9.Registers

/-!
# Unused variables

A variable that is not used may be of any type and have any semantic, also one that a target would
refuse.  Where nothing is counted across the boundary to another stage, a source text is the same
without it, and so is an error.

* `Thinned` relates variables to what is left of them without some unused ones, and
  `Shader.LeavesOut` does so for shaders.
* `interfaceMembers_of_leavesOut` is the common part of all targets.
* For each target there are lemmas for what it numbers: `semanticsFrom_vertexInput` and
  `interfaceStruct_pixelOutput`, `located_vertexInput` and `located_pixelOutput`, and
  `saidBy_inputEntries` for layouts.
* `source_of_leavesOut` puts them together.
-/

namespace CrossShade

/-- What is left of some variables when a few of those that are not used are left out. -/
inductive Thinned : (vars kept : List Variable) → Prop where
  | nil : Thinned [] []
  | keep (v : Variable) {vars kept : List Variable} :
    Thinned vars kept → Thinned (v :: vars) (v :: kept)
  | drop {v : Variable} {vars kept : List Variable} :
    v.isUsed = false → Thinned vars kept → Thinned (v :: vars) kept

/-- A shader from whose groups and streams some unused variables are left out, and which is the same
otherwise. -/
structure Shader.LeavesOut (shader kept : Shader) : Prop where
  input : Thinned shader.input kept.input
  output : Thinned shader.output kept.output
  inputExtra : Thinned shader.inputExtra kept.inputExtra
  inputPatch : Thinned shader.inputPatch kept.inputPatch
  outputPatch : Thinned shader.outputPatch kept.outputPatch
  streams : List.Forall₂ (fun stream left => left.name = stream.name ∧
    Thinned stream.outputs left.outputs) shader.streams kept.streams
  same : kept = { shader with
    input := kept.input, output := kept.output, inputExtra := kept.inputExtra,
    inputPatch := kept.inputPatch, outputPatch := kept.outputPatch, streams := kept.streams }

/-- Of vertices only inputs, and of pixels only outputs are left out: what is passed between stages
stays. -/
structure Shader.KeepsVaryings (shader kept : Shader) : Prop where
  input : shader.stage ≠ .vertex → kept.input = shader.input
  output : shader.stage ≠ .pixel → kept.output = shader.output

section Variables

variable {shader kept : Shader} {vars left : List Variable} {v : Variable}

theorem Thinned.refl (vars : List Variable) : Thinned vars vars := by
  induction vars with
  | nil => exact .nil
  | cons v rest ih => exact .keep v ih

theorem Thinned.sublist (h : Thinned vars left) : left.Sublist vars := by
  induction h with
  | nil => exact .slnil
  | keep v _ ih => exact ih.cons_cons v
  | drop _ _ ih => exact ih.cons _

theorem Thinned.nodup_names (h : Thinned vars left) (hnames : (vars.map (·.name)).Nodup) :
    (left.map (·.name)).Nodup :=
  hnames.sublist (h.sublist.map _)

/-- Faults are told of a name. -/
theorem Shader.fault_of_name_eq {α : Type} (hname : kept.name = shader.name)
    (result : Except Shader.Fault α) : kept.fault result = shader.fault result := by
  rw [Shader.fault, Shader.fault, hname]

/-! ## Interface structures -/

/-- An interface structure does not show what is left out. -/
theorem interfaceMembers_of_leavesOut {domain : Option TessellationDomain}
    {declare declare' : Variable → MemberLength → Except ShaderError Source.Declaration}
    (hname : kept.name = shader.name) (h : Thinned vars left)
    (hdeclare : ∀ v ∈ left, v.isUsed = true → declare' v = declare v) :
    interfaceMembers kept domain declare' left = interfaceMembers shader domain declare vars := by
  induction h with
  | nil => rfl
  | keep v _ ih =>
    have hrest := ih fun w hw => hdeclare w (List.mem_cons_of_mem _ hw)
    rw [interfaceMembers, interfaceMembers, Shader.fault_of_name_eq hname, hrest]
    cases hused : v.isUsed with
    | false => rfl
    | true => rw [hdeclare v List.mem_cons_self hused]
  | drop hunused _ ih =>
    rw [ih hdeclare]
    conv_rhs => rw [interfaceMembers]
    rw [hunused]
    rfl

theorem interfaceStruct_of_leavesOut {domain : Option TessellationDomain} {role : String}
    {declare declare' : Variable → MemberLength → Except ShaderError Source.Declaration}
    (hname : kept.name = shader.name) (hstage : kept.stage = shader.stage)
    (h : Thinned vars left)
    (hdeclare : ∀ v ∈ left, v.isUsed = true → declare' v = declare v) :
    interfaceStruct kept role domain declare' left =
      interfaceStruct shader role domain declare vars := by
  rw [interfaceStruct, interfaceStruct, interfaceMembers_of_leavesOut hname h hdeclare, hstage]

namespace Shader.LeavesOut

variable (h : shader.LeavesOut kept)
include h

theorem name_eq : kept.name = shader.name := by
  rw [h.same]

theorem stage_eq : kept.stage = shader.stage := by
  rw [h.same]

end Shader.LeavesOut

/-! ## Direct3D 11 -/

namespace Direct3D11

theorem interface_of_leavesOut (h : shader.LeavesOut kept) (hvars : Thinned vars left)
    (role : String) : interface kept role left = interface shader role vars :=
  interfaceStruct_of_leavesOut h.name_eq h.stage_eq hvars fun _ _ _ => rfl

theorem patchInterface_of_leavesOut (h : shader.LeavesOut kept) (hvars : Thinned vars left)
    (role : String) (domain : TessellationDomain) :
    patchInterface kept role domain left = patchInterface shader role domain vars :=
  interfaceStruct_of_leavesOut h.name_eq h.stage_eq hvars fun _ _ _ => rfl

theorem demand_of_leavesOut (h : shader.LeavesOut kept) (s : Option InterfaceStruct)
    (fault : Shader.Fault) : demand kept s fault = demand shader s fault := by
  rw [demand.eq_def, demand.eq_def, Shader.fault_of_name_eq h.name_eq]

theorem numberedStreams_of_leavesOut (h : shader.LeavesOut kept)
    {streams leftStreams : List OutputStream}
    (hstreams : List.Forall₂ (fun stream left => left.name = stream.name ∧
      Thinned stream.outputs left.outputs) streams leftStreams) (number : Nat) :
    numberedStreams kept number leftStreams = numberedStreams shader number streams := by
  induction hstreams generalizing number with
  | nil => rfl
  | cons hfirst _ ih =>
    simp only [numberedStreams, interface_of_leavesOut h hfirst.2, hfirst.1,
      demand_of_leavesOut h, ih]

theorem streamOutputs_of_leavesOut (h : shader.LeavesOut kept) :
    streamOutputs kept = streamOutputs shader := by
  have hempty : kept.streams.isEmpty = shader.streams.isEmpty := by
    rw [Bool.eq_iff_iff, List.isEmpty_iff_length_eq_zero, List.isEmpty_iff_length_eq_zero,
      h.streams.length_eq]
  simp only [streamOutputs, hempty, interface_of_leavesOut h h.output, demand_of_leavesOut h,
    numberedStreams_of_leavesOut h h.streams]

theorem body_of_leavesOut (h : shader.LeavesOut kept) : body kept = body shader := by
  have hinput := interface_of_leavesOut h h.input
  have houtput := interface_of_leavesOut h h.output
  have hplain : plain kept = plain shader := by
    simp only [plain, hinput, houtput]
    rw [h.same]
  have hcompute : compute kept = compute shader := by
    simp only [compute, hinput]
    rw [h.same]
    rfl
  have hhull : hull kept = hull shader := by
    simp only [hull, hinput, houtput, patchInterface_of_leavesOut h h.outputPatch,
      demand_of_leavesOut h]
    rw [h.same]
    rfl
  have hdomain : domain kept = domain shader := by
    simp only [domain, hinput, houtput, patchInterface_of_leavesOut h h.inputPatch,
      interface_of_leavesOut h h.inputExtra]
    rw [h.same]
    rfl
  have hgeometry : geometry kept = geometry shader := by
    simp only [geometry, hinput, streamOutputs_of_leavesOut h]
    rw [h.same]
    rfl
  rw [body, body, h.stage_eq, hplain, hcompute, hhull, hdomain, hgeometry]

theorem source_eq_of_leavesOut (h : shader.LeavesOut kept) : source kept = source shader := by
  have hresources : resources kept = resources shader := by
    rw [h.same]
    rfl
  rw [source, source, hresources, body_of_leavesOut h, h.name_eq, h.stage_eq]

end Direct3D11

/-! ## Direct3D 9 -/

namespace Direct3D9

/-- The numbering of vertex inputs passes over what is not used. -/
theorem semanticsFrom_vertexInput (h : Thinned vars left) (next : UInt32) :
    Interface.vertexInput.semanticsFrom next left =
      Interface.vertexInput.semanticsFrom next vars := by
  induction h generalizing next with
  | nil => rfl
  | keep v _ ih => simp only [Interface.semanticsFrom, ih]
  | drop hunused _ ih =>
    rw [ih]
    conv_rhs => rw [Interface.semanticsFrom]
    rw [hunused]
    rfl

/-- Pixel outputs are not numbered. -/
theorem semantic_pixelOutput (next other : UInt32) (v : Variable) :
    Interface.pixelOutput.semantic next v = Interface.pixelOutput.semantic other v := by
  have hregister : Interface.pixelOutput.register next v =
      Interface.pixelOutput.register other v := by
    unfold Interface.register
    cases v.semantic <;> rfl
  rw [Interface.semantic, Interface.semantic, hregister]

/-- Only used outputs are refused, and that does not depend on their numbers. -/
def refusal (v : Variable) : Except Unsupported Unit :=
  if v.isUsed then (Interface.pixelOutput.semantic 0 v).map fun _ => () else .ok ()

/-- What the first output adds to the outcome of the rest. -/
theorem outcome_cons (next : UInt32) (v : Variable) (rest : List Variable) :
    (Interface.pixelOutput.semanticsFrom next (v :: rest)).map (fun _ => ()) =
      refusal v >>= fun _ =>
        (Interface.pixelOutput.semanticsFrom (Interface.pixelOutput.after next v) rest).map
          fun _ => () := by
  rw [Interface.semanticsFrom, if_neg (by simp), semantic_pixelOutput next 0, refusal]
  cases Interface.pixelOutput.semantic 0 v with
  | ok text =>
    cases v.isUsed <;>
      cases Interface.pixelOutput.semanticsFrom (Interface.pixelOutput.after next v) rest <;> rfl
  | error refused => cases v.isUsed <;> rfl

theorem outcome_pixelOutput (h : Thinned vars left) (next other : UInt32) :
    (Interface.pixelOutput.semanticsFrom other left).map (fun _ => ()) =
      (Interface.pixelOutput.semanticsFrom next vars).map (fun _ => ()) := by
  induction h generalizing next other with
  | nil => rfl
  | keep v _ ih =>
    rw [outcome_cons, outcome_cons, ih (Interface.pixelOutput.after next v)]
  | drop hunused _ ih =>
    rw [outcome_cons, refusal, hunused, ih (Interface.pixelOutput.after next _)]
    rfl

/-- So the outputs are refused for the same reason, or both have semantics. -/
theorem semantics_pixelOutput_cases (h : Thinned vars left) :
    (∃ error, Interface.pixelOutput.semantics left = .error error ∧
      Interface.pixelOutput.semantics vars = .error error) ∨
    ∃ kept all, Interface.pixelOutput.semantics left = .ok kept ∧
      Interface.pixelOutput.semantics vars = .ok all := by
  have houtcome := outcome_pixelOutput h 0 0
  rw [Interface.semantics, Interface.semantics]
  cases hleft : Interface.pixelOutput.semanticsFrom 0 left with
  | ok kept =>
    cases hall : Interface.pixelOutput.semanticsFrom 0 vars with
    | ok all => exact .inr ⟨kept, all, rfl, rfl⟩
    | error what =>
      rw [hleft, hall] at houtcome
      cases houtcome
  | error refused =>
    rw [hleft] at houtcome
    cases hall : Interface.pixelOutput.semanticsFrom 0 vars with
    | ok all =>
      rw [hall] at houtcome
      cases houtcome
    | error what =>
      rw [hall] at houtcome
      cases houtcome
      exact .inl ⟨_, rfl, rfl⟩

/-- A used output is declared with the semantic that it would have alone. -/
theorem declareVariable_pixelOutput {semantics : List (String × String)} {next : UInt32}
    (h : Interface.pixelOutput.semanticsFrom next vars = .ok semantics)
    (hnames : (vars.map (·.name)).Nodup) (hv : v ∈ vars) (hused : v.isUsed = true) :
    declareVariable semantics v =
      declareVariable ((Interface.pixelOutput.semantic 0 v).toOption.toList.map (v.name, ·)) v := by
  obtain ⟨i, hi⟩ := List.getElem?_of_mem hv
  obtain ⟨text, hgiven, hlookup⟩ := Interface.lookup_semanticsFrom h hnames hi hused
  rw [semantic_pixelOutput _ 0] at hgiven
  funext length
  simp [declareVariable, hlookup, hgiven, Except.toOption]

theorem interfaceStruct_pixelOutput (h : shader.LeavesOut kept)
    (hnames : (shader.output.map (·.name)).Nodup) {semantics left : List (String × String)}
    (hsemantics : Interface.pixelOutput.semantics shader.output = .ok semantics)
    (hleft : Interface.pixelOutput.semantics kept.output = .ok left) (role : String) :
    interfaceStruct kept role none (declareVariable left) kept.output =
      interfaceStruct shader role none (declareVariable semantics) shader.output := by
  refine interfaceStruct_of_leavesOut h.name_eq h.stage_eq h.output fun v hv hused => ?_
  rw [declareVariable_pixelOutput (semanticsFrom_of_semantics hleft) (h.output.nodup_names hnames)
      hv hused,
    declareVariable_pixelOutput (semanticsFrom_of_semantics hsemantics) hnames
      (h.output.sublist.subset hv) hused]

theorem resources_of_leavesOut (h : shader.LeavesOut kept) : resources kept = resources shader := by
  have hconstants : ∀ (base : UInt32) (row : List UniformBuffer),
      constants kept base row = constants shader base row := by
    intro base row
    induction row generalizing base with
    | nil => rfl
    | cons buffer rest ih =>
      simp only [constants, ih]
      rw [h.same]
      rfl
  simp only [resources, hconstants]
  rw [h.same]
  rfl

theorem source_eq_of_leavesOut (h : shader.LeavesOut kept) (hvaryings : shader.KeepsVaryings kept)
    (hnames : (shader.output.map (·.name)).Nodup) : source kept = source shader := by
  have hresources := resources_of_leavesOut h
  have hcode : kept.mainCode = shader.mainCode := by
    rw [h.same]
  have hstruct : ∀ (role : String) (semantics : List (String × String))
      {vars left : List Variable}, Thinned vars left →
      interfaceStruct kept role none (declareVariable semantics) left =
        interfaceStruct shader role none (declareVariable semantics) vars :=
    fun role semantics _ _ hvars =>
      interfaceStruct_of_leavesOut h.name_eq h.stage_eq hvars fun _ _ _ => rfl
  simp only [source, h.stage_eq, h.name_eq, hresources, hcode]
  cases hstage : shader.stage with
  | vertex =>
    have hinput : Interface.vertexInput.semantics kept.input =
        Interface.vertexInput.semantics shader.input := by
      rw [Interface.semantics, Interface.semantics, semanticsFrom_vertexInput h.input]
    have houtput : kept.output = shader.output := hvaryings.output (by simp [hstage])
    simp only [interfaces, if_true, hinput, houtput, hstruct _ _ h.input,
      hstruct _ _ (.refl shader.output)]
  | pixel =>
    have hinput : kept.input = shader.input := hvaryings.input (by simp [hstage])
    simp only [interfaces, reduceCtorEq, if_false, hinput, hstruct _ _ (.refl shader.input)]
    rcases semantics_pixelOutput_cases h.output with ⟨error, hleft, hall⟩ | ⟨left, all, hleft, hall⟩
    · simp only [hleft, hall, error_bind]
    · simp only [hleft, hall, ok_bind, interfaceStruct_pixelOutput h hnames hall hleft]
  | _ => rfl

end Direct3D9

/-! ## OpenGL -/

namespace OpenGL

open Source

/-- The locations of used vertex inputs do not depend on the others. -/
theorem located_vertexInput (h : Thinned vars left) :
    (left.zip (locations .vertex .input left)).filter (·.1.isUsed) =
      (vars.zip (locations .vertex .input vars)).filter (·.1.isUsed) := by
  suffices hfrom : ∀ next,
      (left.zip (countedLocations .vertex .input next left)).filter (·.1.isUsed) =
        (vars.zip (countedLocations .vertex .input next vars)).filter (·.1.isUsed) from hfrom 0
  induction h with
  | nil => exact fun _ => rfl
  | keep v _ ih =>
    intro next
    rw [countedLocations, countedLocations]
    split <;> rw [List.zip_cons_cons, List.zip_cons_cons, List.filter_cons, List.filter_cons, ih]
  | @drop v vars left hunused _ ih =>
    intro next
    have hnone : isLocated .vertex .input v = false := by simp [isLocated, hunused]
    rw [countedLocations, hnone, if_neg Bool.false_ne_true, List.zip_cons_cons,
      List.filter_cons_of_neg (by simp [hunused]), ih]

/-- Nor do those of used pixel outputs. -/
theorem located_pixelOutput (h : Thinned vars left) :
    (left.zip (locations .pixel .output left)).filter (·.1.isUsed) =
      (vars.zip (locations .pixel .output vars)).filter (·.1.isUsed) := by
  have hlocations : ∀ list : List Variable,
      locations .pixel .output list = list.map targetLocation? := fun _ => rfl
  rw [hlocations, hlocations]
  induction h with
  | nil => rfl
  | keep v _ ih =>
    simp only [List.map_cons, List.zip_cons_cons, List.filter_cons, ih]
  | drop hunused _ ih =>
    rw [List.map_cons, List.zip_cons_cons, List.filter_cons_of_neg (by simp [hunused]), ih]

theorem stageInterface_of_leavesOut (h : shader.LeavesOut kept)
    (hvaryings : shader.KeepsVaryings kept) : stageInterface kept = stageInterface shader := by
  have hstruct : ∀ (role : String) {vars left : List Variable}, Thinned vars left →
      interfaceStruct kept role none declareVariable left =
        interfaceStruct shader role none declareVariable vars := fun role _ _ hvars =>
    interfaceStruct_of_leavesOut h.name_eq h.stage_eq hvars fun _ _ _ => rfl
  have hreceive : receive kept = receive shader := by
    rw [h.same]
    rfl
  have hpass : pass kept = pass shader := by
    rw [h.same]
    rfl
  have hreceived : transfers (receive kept) kept.stage .input kept.input =
      transfers (receive shader) shader.stage .input shader.input := by
    rw [hreceive, h.stage_eq]
    by_cases hstage : shader.stage = .vertex
    · rw [transfers, transfers, hstage, located_vertexInput h.input]
    · rw [hvaryings.input hstage]
  have hpassed : transfers (pass kept) kept.stage .output kept.output =
      transfers (pass shader) shader.stage .output shader.output := by
    rw [hpass, h.stage_eq]
    by_cases hstage : shader.stage = .pixel
    · rw [transfers, transfers, hstage, located_pixelOutput h.output]
    · rw [hvaryings.output hstage]
  rw [stageInterface, stageInterface, hstruct "Input" h.input, hstruct "Output" h.output,
    hreceived, hpassed]

theorem source_eq_of_leavesOut (h : shader.LeavesOut kept) (hvaryings : shader.KeepsVaryings kept)
    (version : Version) : source version kept = source version shader := by
  have hresources : resources kept = resources shader := by
    rw [h.same]
    rfl
  have hgroup : threadGroup kept = threadGroup shader := by
    rw [h.same]
    rfl
  have hversion : versionFor version kept = versionFor version shader := by
    rw [h.same]
    rfl
  have hcode : kept.mainCode = shader.mainCode := by
    rw [h.same]
  rw [source, source, h.stage_eq, h.name_eq, hresources, hgroup, hversion, hcode,
    stageInterface_of_leavesOut h hvaryings]

end OpenGL

end Variables

/-! ## Vertex layouts -/

/-- What an entry says of its element.  Where its variable stands among the inputs is left out. -/
def LayoutEntry.said {α : Type} (entry : LayoutEntry α) : α × String × UInt32 × ScalarType :=
  (entry.part, entry.name, entry.element, entry.base)

namespace LayoutDraft

variable {α : Type} {shader kept : Shader} {part : LayoutPart α} {vars left : List Variable}

/-- What the entries of a draft say, in their order. -/
def said (draft : LayoutDraft α) : String × List (α × String × UInt32 × ScalarType) :=
  (draft.shader, draft.entries.map (·.said))

/-- What entries say of their elements, when there are any. -/
def saidBy (entries : Except ShaderError (List (LayoutEntry α))) :
    Except ShaderError (List (α × String × UInt32 × ScalarType)) :=
  entries.map (·.map (·.said))

theorem saidBy_cons (first : LayoutEntry α) (rest : Except ShaderError (List (LayoutEntry α))) :
    saidBy (do return first :: (← rest)) = do return first.said :: (← saidBy rest) := by
  cases rest <;> rfl

theorem saidBy_append (own rest : Except ShaderError (List (LayoutEntry α))) :
    saidBy (do return (← own) ++ (← rest)) = do return (← saidBy own) ++ (← saidBy rest) := by
  cases own with
  | error error => rfl
  | ok own =>
    cases rest with
    | error error => rfl
    | ok rest => exact congrArg Except.ok List.map_append

theorem saidBy_variableEntries (v : Variable) (input other : Nat) (base : ScalarType)
    (element place count : Nat) :
    saidBy (variableEntries part v other base element place count) =
      saidBy (variableEntries part v input base element place count) := by
  induction count generalizing element place with
  | zero => rfl
  | succ count ih =>
    rw [variableEntries, variableEntries]
    cases part v (UInt32.ofNat element) place with
    | error error => rfl
    | ok first =>
      rw [ok_bind, ok_bind, saidBy_cons, saidBy_cons, ih]
      rfl

/-- Inputs that are left out fed nothing. -/
theorem saidBy_inputEntries (hname : kept.name = shader.name) (h : Thinned vars left)
    (input other place : Nat) :
    saidBy (inputEntries kept part other place left) =
      saidBy (inputEntries shader part input place vars) := by
  induction h generalizing input other place with
  | nil => rfl
  | @keep v vars left _ ih =>
    rw [inputEntries, inputEntries]
    split
    · simp only [Shader.fault_of_name_eq hname]
      cases shader.fault (v.type.layoutElements.mapError (.unfedInput v.name)) with
      | error error => rfl
      | ok count =>
        rw [ok_bind, ok_bind]
        cases v.type.base? with
        | none => rfl
        | some base =>
          rw [saidBy_append, saidBy_append, saidBy_variableEntries v input other,
            ih (input + 1) (other + 1)]
    · exact ih (input + 1) (other + 1) place
  | @drop v vars left hunused _ ih =>
    have hfed : isFed v = false := by simp [isFed, hunused]
    conv_rhs => rw [inputEntries, hfed, if_neg Bool.false_ne_true]
    exact ih (input + 1) other place

/-- A draft says the same without the inputs that are left out. -/
theorem said_ofShader (h : shader.LeavesOut kept) :
    (ofShader kept part).map said = (ofShader shader part).map said := by
  have hentries : saidBy (inputEntries kept part 0 0 kept.input) =
      saidBy (inputEntries shader part 0 0 shader.input) :=
    saidBy_inputEntries h.name_eq h.input 0 0 0
  have hsaid : ∀ (name : String) (entries : Except ShaderError (List (LayoutEntry α))),
      (do return (⟨name, ← entries⟩ : LayoutDraft α) : Except ShaderError _).map said =
        (saidBy entries).map (name, ·) := by
    intro name entries
    cases entries <;> rfl
  rw [ofShader, ofShader, h.stage_eq, h.name_eq, Shader.fault_of_name_eq h.name_eq]
  split
  · rfl
  · rw [hsaid, hsaid, hentries]

end LayoutDraft

/-- Where unused variables are left out of a shader, a source text for Direct3D 11 and the error in
its place stay the same, and so do those for Direct3D 9 and OpenGL unless variables are left out of
what is passed between stages.  A layout draft says the same of the same elements in the same
order. -/
theorem source_of_leavesOut {name : String} {stage : Stage} {additions : List Addition}
    {shader kept : Shader} (hbuild : Shader.build name stage additions = .ok shader)
    (hkept : shader.LeavesOut kept) :
    Direct3D11.source kept = Direct3D11.source shader ∧
    (shader.KeepsVaryings kept → Direct3D9.source kept = Direct3D9.source shader ∧
      ∀ version, OpenGL.source version kept = OpenGL.source version shader) ∧
    ∀ {α β : Type} (backend : Backend α β),
      (backend.layoutDraft kept).map (·.said) = (backend.layoutDraft shader).map (·.said) := by
  have hnames : (shader.output.map (·.name)).Nodup :=
    Shader.nodup_names_of_build hbuild (by simp [Shader.variableLists, Shader.variableGroups])
  refine ⟨Direct3D11.source_eq_of_leavesOut hkept, fun hvaryings => ⟨?_, ?_⟩, fun backend => ?_⟩
  · exact Direct3D9.source_eq_of_leavesOut hkept hvaryings hnames
  · exact OpenGL.source_eq_of_leavesOut hkept hvaryings
  · exact LayoutDraft.said_ofShader hkept

/-- A vertex shader with some inputs. -/
def animated (input : List Variable) : Shader where
  name := "Animated"
  stage := .vertex
  structures := [⟨"Bone", [⟨.matrix .float 4 3, "pose"⟩]⟩]
  input
  output := [{ type := .float4, name := "Position", semantic := "SV_Position" }]

/-- The inputs that it uses. -/
def usedInputs : List Variable :=
  [{ type := .matrix .float 4 4, name := "World" }, { type := .vector .float 2, name := "Uv" }]

/-- The same with others between them, that cannot be fed by any layout. -/
def animatedInputs : List Variable :=
  [{ type := .struct "Bone", name := "Root", isUsed := false },
    { type := .matrix .float 4 4, name := "World" },
    { type := .scalar .uint, name := "Count", semantic := "SV_Target3", interpolation := .sample,
      isUsed := false },
    { type := .vector .float 2, name := "Uv" }]

theorem source_of_leavesOut_animated :
    Shader.build "Animated" .vertex (animated animatedInputs).additions =
        .ok (animated animatedInputs) ∧
      (animated animatedInputs).LeavesOut (animated usedInputs) ∧
      (animated animatedInputs).KeepsVaryings (animated usedInputs) ∧
      Direct3D11.source (animated usedInputs) = Direct3D11.source (animated animatedInputs) ∧
      Direct3D9.source (animated usedInputs) = Direct3D9.source (animated animatedInputs) ∧
      OpenGL.source .v450 (animated usedInputs) = OpenGL.source .v450 (animated animatedInputs) ∧
      (Direct3D9.backend.layoutDraft (animated usedInputs)).map (·.said) =
        (Direct3D9.backend.layoutDraft (animated animatedInputs)).map (·.said) := by
  have hbuild : Shader.build "Animated" .vertex (animated animatedInputs).additions =
      .ok (animated animatedInputs) := by
    decide +kernel
  have hinputs : Thinned animatedInputs usedInputs :=
    .drop rfl (.keep _ (.drop rfl (.keep _ .nil)))
  have hkept : (animated animatedInputs).LeavesOut (animated usedInputs) :=
    ⟨hinputs, .refl _, .nil, .nil, .nil, .nil, rfl⟩
  have hvaryings : (animated animatedInputs).KeepsVaryings (animated usedInputs) :=
    ⟨fun hstage => absurd rfl hstage, fun _ => rfl⟩
  obtain ⟨heleven, hnine, hdraft⟩ := source_of_leavesOut hbuild hkept
  exact ⟨hbuild, hkept, hvaryings, heleven, (hnine hvaryings).1, (hnine hvaryings).2 .v450,
    hdraft Direct3D9.backend⟩

end CrossShade
