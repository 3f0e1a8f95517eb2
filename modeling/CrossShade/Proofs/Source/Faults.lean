import CrossShade.Proofs.Direct3D9.Registers
import CrossShade.Proofs.Shader.Building
import CrossShade.Proofs.Source.Programs

/-!
# Faults that validation rules out

Two errors of the generators are not about what a target can express: that an array is sized by
tessellation factors where no domain is known, and that a variable has no semantic in a list that
was made for it.  No shader that was built meets them.

* `ShaderError.IsInternal` are these errors.
* For each target, `avoids_source` puts together what the parts of a text avoid: properties of the
  stage, resources and the structures of groups.
* `source_avoids_isInternal` is the conclusion, together with fixed sampling, where every pair has
  its macros.
-/

namespace CrossShade

open Source

/-- A fault that tells of an array without a domain to size it. -/
def Shader.Fault.IsSizing (fault : Fault) : Prop :=
  ∃ var type, fault = .needsDomain var type

/-- An error that tells of the generator and not of the shader: it meets an array that it cannot
size, or a variable that it has given no semantic. -/
inductive ShaderError.IsInternal : ShaderError → Prop
  | needsDomain (shader var : String) (type : ValueType) :
    IsInternal (.malformed shader (.needsDomain var type))
  | noSemantic (target : Target) (var : String) : IsInternal (.unsupported target (.noSemantic var))

@[simp] theorem ShaderError.isInternal_malformed_iff {shader : String} {fault : Shader.Fault} :
    (ShaderError.malformed shader fault).IsInternal ↔ fault.IsSizing := by
  constructor
  · rintro ⟨_, var, type⟩
    exact ⟨var, type, rfl⟩
  · rintro ⟨var, type, rfl⟩
    exact .needsDomain shader var type

@[simp] theorem ShaderError.isInternal_unsupported_iff {target : Target} {what : Unsupported} :
    (ShaderError.unsupported target what).IsInternal ↔ ∃ var, what = .noSemantic var := by
  constructor
  · rintro ⟨⟩
    exact ⟨_, rfl⟩
  · rintro ⟨var, rfl⟩
    exact .noSemantic target var

@[simp] theorem ShaderError.not_isInternal_stageUnsupported {target : Target} {stage : Stage} :
    ¬(ShaderError.stageUnsupported target stage).IsInternal := nofun

/-! ## Facts about a stage -/

namespace Shader

variable {shader : Shader}

/-- A fault of a shader is internal if it is about sizes. -/
@[simp] theorem avoids_fault_iff {α : Type} {result : Except Fault α} :
    Avoids ShaderError.IsInternal (shader.fault result) ↔ Avoids Fault.IsSizing result := by
  simp only [fault, avoids_mapError_iff, ShaderError.isInternal_malformed_iff]

theorem avoids_readProperty {α : Type} (key : String) (stages : List Stage)
    (read? : String → Option α) : Avoids Fault.IsSizing (shader.readProperty key stages read?) := by
  refine avoids_bind_iff.mpr ⟨avoids_require (.inr nofun), fun _ _ => ?_⟩
  split
  · exact avoids_error_iff.mpr nofun
  · split
    · exact avoids_error_iff.mpr nofun
    · exact avoids_ok _

@[simp] theorem avoids_readCount (key : String) (stages : List Stage) :
    Avoids Fault.IsSizing (shader.readCount key stages) := by
  simp [readCount, avoids_readProperty, avoids_require, Fault.IsSizing]

@[simp] theorem avoids_readControlPoints (key : String) (stages : List Stage) :
    Avoids Fault.IsSizing (shader.readControlPoints key stages) := by
  simp [readControlPoints, avoids_require, Fault.IsSizing]

@[simp] theorem avoids_readWord {α : Type} (key : String) (stages : List Stage)
    (read : String → Except UnknownKeyword α) :
    Avoids Fault.IsSizing (shader.readWord key stages read) :=
  avoids_readProperty key stages _

@[simp] theorem avoids_instanceCount : Avoids Fault.IsSizing shader.instanceCount := by
  unfold instanceCount
  split <;> simp [requireStage, avoids_require, Fault.IsSizing]

@[simp] theorem avoids_maxTessFactor : Avoids Fault.IsSizing shader.maxTessFactor := by
  unfold maxTessFactor
  split <;> simp [requireStage, avoids_readProperty, avoids_require, Fault.IsSizing]

@[simp] theorem avoids_threadGroup : Avoids Fault.IsSizing shader.threadGroup := by
  simp [threadGroup, threadCountX, threadCountY, threadCountZ]

end Shader

/-! ## Direct3D 9 -/

namespace Direct3D9

variable {shader : Shader} {vars : List Variable}

theorem Interface.avoids_semantics (interface : Interface) (vars : List Variable) :
    Avoids ShaderError.IsInternal (interface.semantics vars) := by
  have hgiven : ∀ next v, Avoids (fun what => ∃ var, what = Unsupported.noSemantic var)
      (interface.semantic next v) := by
    intro next v
    refine avoids_bind_iff.mpr ⟨?_, fun semantic _ => ?_⟩
    · unfold register
      dsimp only
      repeat' split
      all_goals simp
    · unfold interpolated
      repeat' split
      all_goals simp
  simp only [semantics, avoids_mapError_iff, ShaderError.isInternal_unsupported_iff]
  generalize (0 : UInt32) = next
  induction vars generalizing next with
  | nil => exact avoids_ok []
  | cons v rest ih =>
    rw [semanticsFrom]
    split
    · exact ih next
    · split
      · simp [ih]
      · rename_i what hwhat
        split
        · exact avoids_error_iff.mpr (hgiven next v what hwhat)
        · exact ih _

theorem avoids_constants (base : UInt32) (buffers : List UniformBuffer) :
    Avoids ShaderError.IsInternal (constants shader base buffers) := by
  induction buffers generalizing base with
  | nil => exact avoids_ok []
  | cons buffer rest ih =>
    have hdeclare : Avoids (fun fault => (Shader.Fault.unsized fault).IsSizing)
        (declareConstants shader.structures base buffer) := avoids_of_forall nofun _
    simp [constants, avoids_mapError_iff, hdeclare, ih]

theorem avoids_resources (shader : Shader) :
    Avoids ShaderError.IsInternal (resources shader) := by
  have hview : ∀ view ∈ shader.readViews, Avoids ShaderError.IsInternal (declareView view) := by
    intro view _
    unfold declareView
    split <;> simp [refuse]
  unfold resources
  split
  · simp [refuse]
  · simp [avoids_constants, avoids_mapM hview]

/-- Every used variable has a semantic in the list that is made for its group. -/
theorem avoids_interface (hformed : shader.WellFormed) (hvars : vars ⊆ shader.stageVariables)
    (hnames : (vars.map (·.name)).Nodup) {interface : Interface} {role : String}
    {semantics : List (String × String)} (h : interface.semantics vars = .ok semantics) :
    Avoids ShaderError.IsInternal
      (interfaceStruct shader role none (declareVariable semantics) vars) := by
  refine avoids_interfaceStruct (fun v hv _ => hformed.factors v (hvars hv)) ?_
  intro v hv hused length
  obtain ⟨i, hi⟩ := List.getElem?_of_mem hv
  obtain ⟨text, -, hlookup⟩ :=
    Interface.lookup_semanticsFrom (semanticsFrom_of_semantics h) hnames hi hused
  rw [declareVariable, hlookup]
  exact avoids_ok _

theorem avoids_source (hformed : shader.WellFormed) :
    Avoids ShaderError.IsInternal (source shader) := by
  have hinputNames := hformed.groupNames ("input", shader.input) (by simp [Shader.variableGroups])
  have houtputNames :=
    hformed.groupNames ("output", shader.output) (by simp [Shader.variableGroups])
  simp only [source]
  split
  · simp
  · simp only [avoids_bind_iff]
    refine ⟨avoids_resources shader, fun _ _ => ⟨Interface.avoids_semantics _ _, fun _ hinput =>
      ⟨Interface.avoids_semantics _ _, fun _ houtput => ⟨?_, fun _ _ => ⟨?_, fun _ _ => ?_⟩⟩⟩⟩⟩
    · exact avoids_interface hformed shader.input_subset hinputNames hinput
    · exact avoids_interface hformed shader.output_subset houtputNames houtput
    · exact avoids_pure _

end Direct3D9

/-! ## Direct3D 11 -/

namespace Direct3D11

variable {shader : Shader} {vars : List Variable} {role : String}

theorem avoids_resources (shader : Shader) :
    Avoids ShaderError.IsInternal (resources shader) := by
  have hview : ∀ type? letter view,
      Avoids ShaderError.IsInternal (declareViewAs type? letter view) := by
    intro type? letter view
    unfold declareViewAs
    split <;> simp [refuse]
  have hwrite : ∀ view, Avoids ShaderError.IsInternal (declareWriteView shader.stage view) := by
    intro view
    unfold declareWriteView
    split
    · exact hview _ _ view
    · simp [refuse]
  simp only [resources, avoids_bind_iff]
  refine ⟨avoids_mapM fun view _ => ?_, fun _ _ => ⟨avoids_mapM fun view _ => hwrite view,
    fun _ _ => avoids_pure _⟩⟩
  exact hview view.kind.hlslRead? "t" view

theorem avoids_interface (hformed : shader.WellFormed) (hvars : vars ⊆ shader.stageVariables)
    (role : String) : Avoids ShaderError.IsInternal (interface shader role vars) :=
  avoids_interfaceStruct (fun v hv _ => hformed.factors v (hvars hv)) fun _ _ _ _ => avoids_ok _

theorem avoids_patchInterface (domain : TessellationDomain) :
    Avoids ShaderError.IsInternal (patchInterface shader role domain vars) :=
  avoids_interfaceStruct (fun _ _ hnone => nomatch hnone) fun _ _ _ _ => avoids_ok _

theorem avoids_demand {s : Option InterfaceStruct} {fault : Shader.Fault}
    (h : ¬fault.IsSizing) : Avoids ShaderError.IsInternal (demand shader s fault) := by
  cases s with
  | none => simpa [demand] using h
  | some found => exact avoids_ok found

theorem avoids_numberedStreams (hformed : shader.WellFormed) {streams : List OutputStream}
    (hstreams : streams ⊆ shader.streams) (number : Nat) :
    Avoids ShaderError.IsInternal (numberedStreams shader number streams) := by
  induction streams generalizing number with
  | nil => exact avoids_ok []
  | cons stream rest ih =>
    obtain ⟨hstream, hrest⟩ := List.cons_subset.mp hstreams
    have hvars : stream.outputs ⊆ shader.stageVariables := fun v hv =>
      List.mem_append_right _ (List.mem_flatMap.mpr ⟨stream, hstream, hv⟩)
    simp [numberedStreams, avoids_interface hformed hvars, avoids_demand, Shader.Fault.IsSizing,
      ih hrest]

theorem avoids_streamOutputs (hformed : shader.WellFormed) :
    Avoids ShaderError.IsInternal (streamOutputs shader) := by
  unfold streamOutputs
  split
  · simp [avoids_interface hformed shader.output_subset, avoids_demand, Shader.Fault.IsSizing]
  · exact avoids_numberedStreams hformed (fun _ h => h) 0

theorem avoids_body (hformed : shader.WellFormed) :
    Avoids ShaderError.IsInternal (body shader) := by
  have hinput := avoids_interface hformed shader.input_subset
  have houtput := avoids_interface hformed shader.output_subset
  have hextra := avoids_interface hformed shader.inputExtra_subset
  unfold body
  split
  · simp [plain, hinput, houtput]
  · simp [plain, hinput, houtput]
  · simp [compute, hinput]
  · simp [hull, hinput, houtput, avoids_patchInterface, avoids_demand, Shader.Fault.IsSizing,
      Shader.tessellationDomain, Shader.partitioning, Shader.outputTopology,
      Shader.inputControlPoints, Shader.outputControlPoints]
  · simp [domain, hinput, houtput, hextra, avoids_patchInterface, Shader.tessellationDomain,
      Shader.inputControlPoints]
  · have hinstances : Avoids ShaderError.IsInternal (instanceAttribute shader) := by
      unfold instanceAttribute
      split <;> simp
    simp [geometry, hinput, avoids_streamOutputs hformed, hinstances, Shader.maxVertexCount,
      Shader.inputPrimitive, Shader.outputPrimitive]

theorem avoids_source (hformed : shader.WellFormed) :
    Avoids ShaderError.IsInternal (source shader) := by
  simp [source, avoids_resources, avoids_body hformed]

end Direct3D11

/-! ## OpenGL -/

namespace OpenGL

variable {shader : Shader} {vars : List Variable}

theorem avoids_typeName (type : ValueType) : Avoids ShaderError.IsInternal (typeName type) := by
  rw [typeName, avoids_mapError_iff]
  exact avoids_of_forall (by simp) _

theorem avoids_declare (type : ValueType) (name : String) :
    Avoids ShaderError.IsInternal (declare type name) := by
  simp [declare, avoids_typeName]

theorem avoids_blockMembers (buffer : String) (index : Nat) (position : UInt32)
    (members : List UniformMember) :
    Avoids ShaderError.IsInternal (blockMembers buffer index position members) := by
  induction members generalizing index position with
  | nil => exact avoids_ok []
  | cons member rest ih =>
    rw [blockMembers]
    split
    · simp [refuse]
    · refine avoids_bind_iff.mpr ⟨avoids_declare _ _, fun _ _ => ?_⟩
      split
      · simp [refuse]
      · simp [ih]

theorem avoids_declareReadView (view : ViewBinding) :
    Avoids ShaderError.IsInternal (declareReadView view) := by
  unfold declareReadView
  split
  · simp [declareStorage, avoids_typeName]
  · split <;> simp [refuse]

theorem avoids_declareWriteView (view : ViewBinding) :
    Avoids ShaderError.IsInternal (declareWriteView view) := by
  unfold declareWriteView
  split
  · simp [declareStorage, avoids_typeName]
  · split <;> simp [refuse]

theorem avoids_samplePair (pair : FixedSampling) :
    Avoids ShaderError.IsInternal (samplePair shader pair) := by
  unfold samplePair
  split
  · exact avoids_ok []
  · split <;> simp [refuse]

theorem avoids_resources (shader : Shader) :
    Avoids ShaderError.IsInternal (resources shader) := by
  simp [resources, declareStructure, declareBlock, avoids_mapM, avoids_declare,
    avoids_blockMembers, avoids_declareReadView, avoids_declareWriteView, avoids_samplePair]

theorem avoids_transfers
    {transfer : Variable → Option UInt32 → Except ShaderError Transfer} {stage : Stage}
    {side : Side}
    (h : ∀ v ∈ vars, ∀ location, Avoids ShaderError.IsInternal (transfer v location)) :
    Avoids ShaderError.IsInternal (transfers transfer stage side vars) := by
  refine avoids_mapM fun pair hpair => ?_
  exact h _ (List.of_mem_zip (List.mem_filter.mp hpair).1).1 _

theorem avoids_declareGlobal {v : Variable} (hsized : ¬v.type.IsFactorArray)
    {type name direction : String} {location : UInt32} {isVarying : Bool} :
    Avoids ShaderError.IsInternal
      (declareGlobal shader v type name location isVarying direction) := by
  obtain ⟨length, hlength⟩ : ∃ length, memberLength v.name v.type none = .ok length :=
    exists_memberLength v.name fun _ => hsized
  simp [declareGlobal, hlength]

theorem avoids_receive {v : Variable} (hsized : ¬v.type.IsFactorArray) (location : Option UInt32) :
    Avoids ShaderError.IsInternal (receive shader v location) := by
  refine avoids_bind_iff.mpr ⟨avoids_typeName _, fun type _ => ?_⟩
  dsimp only
  split
  · split <;> simp [refuse]
  · split
    · simp [refuse]
    · simp [avoids_declareGlobal hsized]

theorem avoids_pass {v : Variable} (hsized : ¬v.type.IsFactorArray) (location : Option UInt32) :
    Avoids ShaderError.IsInternal (pass shader v location) := by
  refine avoids_bind_iff.mpr ⟨avoids_typeName _, fun type _ => ?_⟩
  dsimp only
  split
  · simp
  · split
    · simp [refuse]
    · simp [avoids_declareGlobal hsized]

theorem avoids_stageInterface (hformed : shader.WellFormed) :
    Avoids ShaderError.IsInternal (stageInterface shader) := by
  have hinput := fun v hv => hformed.factors v (shader.input_subset hv)
  have houtput := fun v hv => hformed.factors v (shader.output_subset hv)
  have hdeclare : ∀ v length, Avoids ShaderError.IsInternal (declareVariable v length) := by
    simp [declareVariable, avoids_typeName]
  simp only [stageInterface, avoids_bind_iff]
  refine ⟨?_, fun _ _ => ⟨?_, fun _ _ => ⟨?_, fun _ _ => ⟨?_, fun _ _ => avoids_pure _⟩⟩⟩⟩
  · exact avoids_interfaceStruct (fun v hv _ => hinput v hv) fun v _ _ => hdeclare v
  · exact avoids_interfaceStruct (fun v hv _ => houtput v hv) fun v _ _ => hdeclare v
  · exact avoids_transfers fun v hv => avoids_receive (hinput v hv)
  · exact avoids_transfers fun v hv => avoids_pass (houtput v hv)

theorem avoids_source (hformed : shader.WellFormed) (version : Version) :
    Avoids ShaderError.IsInternal (source version shader) := by
  have hthreads : Avoids ShaderError.IsInternal (threadGroup shader) := by
    unfold threadGroup
    split <;> simp
  simp only [source]
  split
  · simp
  · simp [avoids_resources, avoids_stageInterface hformed, hthreads]

/-- No pair is passed over: its view is declared. -/
theorem samplePair_ne_nil (hformed : shader.WellFormed) {pair : FixedSampling}
    (hpair : pair ∈ shader.fixedSampling) : samplePair shader pair ≠ .ok [] := by
  intro h
  obtain ⟨_, _, hmacros⟩ := areSamplingMacros_of_samplePair hformed hpair h
  cases hmacros

end OpenGL

/-- No text of a shader that was built fails for an array that cannot be sized or for a variable
without a semantic.  OpenGL texts pass over no pair of fixed sampling: its view is found, and each
pair has its macros, in order. -/
theorem source_avoids_isInternal {name : String} {stage : Stage} {additions : List Addition}
    {shader : Shader} (hbuild : Shader.build name stage additions = .ok shader) :
    (∀ (target : Target) (version : OpenGL.Version) (error : ShaderError),
      target.source version shader = .error error → ¬error.IsInternal) ∧
    (∀ pair ∈ shader.fixedSampling,
      shader.readView? pair.view ≠ none ∧ OpenGL.samplePair shader pair ≠ .ok []) ∧
    ∀ version text, OpenGL.source version shader = .ok text →
      ∃ macros, List.Forall₂ AreSamplingMacros shader.fixedSampling macros ∧
        macros.flatten <:+: text.content := by
  have hformed := Shader.wellFormed_of_build hbuild
  refine ⟨?_, ?_, ?_⟩
  · intro target version
    cases target with
    | direct3D9 => exact Direct3D9.avoids_source hformed
    | direct3D11 => exact Direct3D11.avoids_source hformed
    | openGL => exact OpenGL.avoids_source hformed version
  · intro pair hpair
    have hmade := OpenGL.samplePair_ne_nil hformed hpair
    refine ⟨fun hnone => hmade ?_, hmade⟩
    rw [OpenGL.samplePair, hnone]
  · intro version text htext
    obtain ⟨parts, hcontent, hparts⟩ := OpenGL.exists_sourceParts hformed htext
    refine ⟨parts.resources.sampling, hparts.resources.sampling, ?_⟩
    rw [hcontent]
    exact (List.suffix_append _ _).isInfix.trans
      ((List.suffix_append _ _).isInfix.trans (List.prefix_append _ _).isInfix)

/-- A pixel shader with a fixed sampler and a mode of interpolation that Direct3D 9 does not
have. -/
def glaze : Shader where
  name := "Glaze"
  stage := .pixel
  input := [{ type := .vector .float 2, name := "place", interpolation := .sample }]
  output := [{ type := .float4, name := "color", semantic := "SV_Target" }]
  samplers := [⟨"smooth", 0, false⟩]
  readViews := [⟨"gloss", 0, .texture2D, .float4⟩]
  fixedSampling := [⟨"gloss", "smooth"⟩]
  mainCode := ["OUTPUT(color) = SAMPLE_gloss(INPUT(place));"]

theorem source_avoids_isInternal_glaze :
    Shader.build "Glaze" .pixel glaze.additions = .ok glaze ∧
      (∃ error, Target.direct3D9.source .v450 glaze = .error error ∧ ¬error.IsInternal) ∧
      OpenGL.samplePair glaze ⟨"gloss", "smooth"⟩ ≠ .ok [] ∧
      ∃ text macros, OpenGL.source .v450 glaze = .ok text ∧
        List.Forall₂ AreSamplingMacros glaze.fixedSampling macros ∧
        macros.flatten <:+: text.content := by
  have hbuild : Shader.build "Glaze" .pixel glaze.additions = .ok glaze := by decide +kernel
  have herror : Target.direct3D9.source .v450 glaze =
      .error (.unsupported .direct3D9 (.interpolation "Sample" "place")) := by decide +kernel
  obtain ⟨text, htext⟩ : ∃ text, OpenGL.source .v450 glaze = .ok text :=
    exists_of_isOk (by decide +kernel)
  obtain ⟨hexternal, hsampled, hmacros⟩ := source_avoids_isInternal hbuild
  obtain ⟨macros, hpairs, hinfix⟩ := hmacros .v450 text htext
  exact ⟨hbuild, ⟨_, herror, hexternal _ _ _ herror⟩, (hsampled _ (by decide)).2, text, macros,
    htext, hpairs, hinfix⟩

end CrossShade
