import CrossShade.Proofs.Source.Groups

/-!
# Programs in source texts

What follows the resources in a source text: the structures by which variables are passed, globals
and macros, and the functions that hold the code of the shader.

* `Wiring` enumerates how functions are made of structures and of code.
* `ProgramParts` and `SourceParts` are the lists of items of a text, and `Of` says whose they are.
* For each target, `exists_sourceParts` finds them in every finished text.
-/

namespace CrossShade

open Source

/-! ## Functions -/

/-- A function that returns a structure, if there is one, and fills it in a local. -/
def Hlsl.returning (name result : String) (attributes : List String)
    (output : Option InterfaceStruct) (parameters code : List String) : Function where
  attributes := attributes
  returns := (output.map (·.name)).getD "void"
  name := name
  parameters := parameters
  body := Hlsl.returningBody (output.map fun s => (s.name, result)) code

theorem Hlsl.entryPoint_eq (attributes : List String) (output : Option InterfaceStruct)
    (parameters code : List String) : Hlsl.entryPoint attributes output parameters code =
      .function (Hlsl.returning "main" "output" attributes output parameters code) := by
  cases output <;> rfl

/-- The parameter for the control points of a patch, which a hull or a domain shader takes in. -/
def Direct3D11.patchParameter (opening : String) (input : Option InterfaceStruct)
    (points : UInt32) : List String :=
  match input with
  | some s => [s!"{opening}{s.name}, {points}> input"]
  | none => []

/-- The parameter for the vertices that a geometry shader takes in. -/
def Direct3D11.primitiveParameters (input : Option InterfaceStruct)
    (primitive : GeometryPrimitive) : List String :=
  match input with
  | some s => [s!"{primitive.hlsl} {s.name} input[{primitive.vertexCount}]"]
  | none => []

/-- The functions of a text, beside the structures that they are made with: one for each group of
variables that has one. -/
inductive Wiring (shader : Shader) :
    Target → (interfaces : List (Option InterfaceStruct)) → List Function → Prop
  | plain {target : Target} {input output : Option InterfaceStruct} :
    target ≠ .openGL → shader.stage = .vertex ∨ shader.stage = .pixel →
    Wiring shader target [input, output]
      [Hlsl.returning "main" "output" [] output (Hlsl.parameter input "input") shader.mainCode]
  | compute {input : Option InterfaceStruct} (attributes : List String) :
    shader.stage = .compute →
    Wiring shader .direct3D11 [input]
      [Hlsl.returning "main" "output" attributes none (Hlsl.parameter input "input")
        shader.mainCode]
  | hull {input output : Option InterfaceStruct} {patch : InterfaceStruct} (points : UInt32)
      (attributes : List String) :
    shader.stage = .hull →
    Wiring shader .direct3D11 [input, output, some patch]
      [Hlsl.returning Direct3D11.patchFunction "patch" [] (some patch)
          (Direct3D11.patchParameter "InputPatch<" input points ++ [Direct3D11.primitiveParameter])
          shader.patchCode,
        Hlsl.returning "main" "output" attributes output
          (Direct3D11.patchParameter "InputPatch<" input points ++
            ["uint controlPointId : SV_OutputControlPointID", Direct3D11.primitiveParameter])
          shader.mainCode]
  | domain {input patch extra output : Option InterfaceStruct} (points : UInt32)
      (attributes : List String) :
    shader.stage = .domain →
    Wiring shader .direct3D11 [input, patch, extra, output]
      [Hlsl.returning "main" "output" attributes output
        (Direct3D11.patchParameter "OutputPatch<" input points ++ Hlsl.parameter patch "patch" ++
          Hlsl.parameter extra "extra")
        shader.mainCode]
  | geometry {input : Option InterfaceStruct} {streams : List Direct3D11.StreamOutput}
      (primitive : GeometryPrimitive) (topology : StreamTopology) (attributes : List String) :
    shader.stage = .geometry → streams.map (·.suffix) = shader.streamSuffixes →
    Wiring shader .direct3D11 (input :: streams.map fun stream => some stream.vertex)
      [{ attributes
         returns := "void"
         name := "main"
         parameters := Direct3D11.primitiveParameters input primitive ++ streams.map fun stream =>
           s!"inout {topology.hlsl}<{stream.vertex.name}> {stream.parameterName}"
         body := streams.map (fun stream => Hlsl.zeroed stream.vertex.name stream.localName) ++
           shader.mainCode }]
  | openGL {interface : OpenGL.StageInterface} :
    OpenGL.supports shader.stage = true → OpenGL.stageInterface shader = .ok interface →
    Wiring shader .openGL [interface.input, interface.output]
      [{ returns := "void", name := "main", body := interface.body shader.mainCode }]

/-! ## Parts -/

/-- An interface structure in a text. -/
def InterfaceStruct.item (s : InterfaceStruct) : Item :=
  .struct s.name s.members

/-- The thread group of a compute shader as an OpenGL text has it. -/
def OpenGL.localSizes (group : Shader.ThreadGroup) : String :=
  s!"local_size_x = {group.x}, local_size_y = {group.y}, local_size_z = {group.z}"

/-- The item defines a macro. -/
def Source.Item.Defines (name : String) (item : Item) : Prop :=
  ∃ parameters body, item = .define name parameters body

/-- The macros by which code writes to a stream. -/
def Direct3D11.streamMacroNames (suffix : String) : List String :=
  [s!"OUTPUT{suffix}", s!"APPEND{suffix}", s!"RESTART_STRIP{suffix}"]

/-- The macros by which code reaches the variables of its stage. -/
def Target.macroNames (target : Target) (shader : Shader) : List String :=
  match shader.stage with
  | .vertex | .pixel => ["INPUT", "OUTPUT"]
  | .compute => if target = .openGL then ["INPUT", "OUTPUT"] else ["INPUT"]
  | .hull => ["INPUT", "OUTPUT", "PATCH", "CONTROL_POINT_ID", "PRIMITIVE_ID"]
  | .domain => ["INPUT", "PATCH", "EXTRA", "OUTPUT"]
  | .geometry => "INPUT" :: shader.streamSuffixes.flatMap Direct3D11.streamMacroNames

/-- The global by which an OpenGL text takes in a variable, unless it is built in. -/
def OpenGL.inputGlobal? (v : Variable) : Option String :=
  if v.isSystemValue then none else some s!"in_{v.name}"

/-- The global by which an OpenGL text passes a variable on, unless it is built in. -/
def OpenGL.outputGlobal? (stage : Stage) (v : Variable) : Option String :=
  if (builtinOutput? stage (v.semanticBase?.getD "")).isSome then none else some s!"out_{v.name}"

/-- The globals by which an OpenGL text passes the variables that are used. -/
def OpenGL.globalNames (shader : Shader) : List String :=
  (shader.input.filter (·.isUsed)).filterMap inputGlobal? ++
    (shader.output.filter (·.isUsed)).filterMap (outputGlobal? shader.stage)

/-- What follows the resources in a source text. -/
structure ProgramParts where
  interfaces : List (Option InterfaceStruct)
  passed : List Declaration := []
  macros : List Item
  threads : List Item := []
  functions : List Function

/-- These parts in their order. -/
def ProgramParts.items (parts : ProgramParts) : List Item :=
  parts.interfaces.reduceOption.map InterfaceStruct.item ++ parts.passed.map .global ++
    parts.macros ++ parts.threads ++ parts.functions.map .function

/-- The parts are those of a shader.  Only OpenGL passes variables as globals too, and declares the
threads of a compute shader in a line of their own. -/
structure ProgramParts.Of (target : Target) (shader : Shader) (parts : ProgramParts) : Prop where
  interfaces : List.Forall₂ (target.Passes shader) (target.interfaceGroups shader)
    parts.interfaces
  passed : parts.passed.map (·.name) = if target = .openGL then OpenGL.globalNames shader else []
  macros : List.Forall₂ Item.Defines (target.macroNames shader) parts.macros
  noThreads : ¬(target = .openGL ∧ shader.stage = .compute) → parts.threads = []
  threads : target = .openGL ∧ shader.stage = .compute → ∃ group,
    shader.threadGroup = .ok group ∧
      parts.threads = [.verbatim s!"layout({OpenGL.localSizes group}) in;"]
  wiring : Wiring shader target parts.interfaces parts.functions

/-- What an OpenGL text begins with. -/
def Target.opening (target : Target) (version : OpenGL.Version) (shader : Shader) : List Item :=
  if target = .openGL then
    .verbatim s!"#version {OpenGL.versionFor version shader}" ::
      OpenGL.prelude_.filter (·.speaks)
  else []

/-- A source text without comments and empty lines. -/
structure SourceParts where
  opening : List Item
  resources : ResourceParts
  program : ProgramParts

/-- These parts in their order. -/
def SourceParts.items (parts : SourceParts) : List Item :=
  parts.opening ++ parts.resources.items ++ parts.program.items

/-- The parts are those of a shader. -/
structure SourceParts.Of (target : Target) (version : OpenGL.Version) (shader : Shader)
    (parts : SourceParts) : Prop where
  opening : parts.opening = target.opening version shader
  resources : parts.resources.Of target shader
  program : parts.program.Of target shader

section Parts

variable {shader : Shader} {text : Source} {items : List Item} {version : OpenGL.Version}

theorem filter_interfaceItems (list : List (Option InterfaceStruct)) :
    (list.flatMap InterfaceStruct.items).filter (·.speaks) =
      list.reduceOption.map InterfaceStruct.item := by
  induction list with
  | nil => rfl
  | cons s rest ih =>
    rw [List.flatMap_cons, List.filter_append, ih]
    cases s <;> rfl

theorem interfaceGroups_plain {target : Target}
    (hstage : shader.stage = .vertex ∨ shader.stage = .pixel) :
    target.interfaceGroups shader = [⟨"Input", shader.input⟩, ⟨"Output", shader.output⟩] := by
  rcases hstage with hstage | hstage <;> rw [Target.interfaceGroups, hstage]

theorem isPlain_definitions {names : List String} (h : List.Forall₂ Item.Defines names items) :
    ∀ item ∈ items, item.isPlain = true := by
  intro item hitem
  obtain ⟨name, -, parameters, body, rfl⟩ := exists_mem_of_forall₂ h hitem
  rfl

theorem defines_interfaceMacros {target : Target}
    (hstage : shader.stage = .vertex ∨ shader.stage = .pixel) :
    List.Forall₂ Item.Defines (target.macroNames shader)
      (Hlsl.interfaceMacros.filter (·.speaks)) := by
  have hnames : target.macroNames shader = ["INPUT", "OUTPUT"] := by
    rcases hstage with hstage | hstage <;> rw [Target.macroNames, hstage]
  rw [hnames]
  exact .cons ⟨_, _, rfl⟩ (.cons ⟨_, _, rfl⟩ .nil)

namespace Direct3D9

theorem declares_of_declareVariable {semantics : List (String × String)} (v : Variable)
    (length : MemberLength) (d : Declaration) (h : declareVariable semantics v length = .ok d) :
    Target.direct3D9.Declares v.name v.type length.length? d := by
  unfold declareVariable at h
  split at h
  · cases h
  · cases h
    exact ⟨rfl, rfl, rfl⟩

theorem stage_of_supports {stage : Stage} (h : supports stage = true) :
    stage = .vertex ∨ stage = .pixel := by
  cases stage <;> simp_all [supports]

/-- What a source text is made of. -/
theorem exists_sourceParts (hformed : shader.WellFormed) (h : source shader = .ok text) :
    ∃ parts : SourceParts, text.content = parts.items ∧ parts.Of .direct3D9 version shader := by
  simp only [source] at h
  split at h
  · cases h
  · rename_i hsupports
    have hstage : shader.stage = .vertex ∨ shader.stage = .pixel :=
      stage_of_supports (by simpa using hsupports)
    simp only [bind_eq_ok, pure_eq_ok] at h
    obtain ⟨resourceItems, hresources, _, -, _, -, input, hinput, output, houtput, rfl⟩ := h
    obtain ⟨resources, hfilter, hof⟩ := exists_resourceParts hformed hresources
    refine ⟨⟨[], resources, ⟨[input, output], [], Hlsl.interfaceMacros.filter (·.speaks), [], _⟩⟩,
      ?_, ⟨rfl, hof, ?_, rfl, defines_interfaceMacros hstage, fun _ => rfl, by simp,
        .plain (by decide) hstage⟩⟩
    · rw [content_ofItems]
      simp only [List.filter_append, hfilter, SourceParts.items, ProgramParts.items,
        ← filter_interfaceItems, Hlsl.entryPoint_eq]
      simp
    · rw [interfaceGroups_plain hstage]
      exact .cons (passes_of_interfaceStruct declares_of_declareVariable
        (hformed.sizes_stage shader.input_subset) hinput) (.cons (passes_of_interfaceStruct
          declares_of_declareVariable (hformed.sizes_stage shader.output_subset) houtput) .nil)

end Direct3D9

namespace Direct3D11

theorem declares_of_declareVariable (v : Variable) (length : MemberLength) (d : Declaration)
    (h : declareVariable v length = .ok d) :
    Target.direct3D11.Declares v.name v.type length.length? d := by
  cases h
  exact ⟨rfl, rfl, rfl⟩

theorem passes_of_interface {role : String} {vars : List Variable} {s : Option InterfaceStruct}
    (hformed : shader.WellFormed) (hvars : vars ⊆ shader.stageVariables)
    (h : interface shader role vars = .ok s) :
    Target.direct3D11.Passes shader ⟨role, vars⟩ s :=
  passes_of_interfaceStruct declares_of_declareVariable (hformed.sizes_stage hvars) h

theorem passes_of_patchInterface {role : String} {vars : List Variable}
    {s : Option InterfaceStruct} {domain : TessellationDomain} (hformed : shader.WellFormed)
    (hdomain : shader.tessellationDomain = .ok domain) (hvars : vars ⊆ shader.patchVariables)
    (h : patchInterface shader role domain vars = .ok s) :
    Target.direct3D11.Passes shader ⟨role, vars⟩ s :=
  passes_of_interfaceStruct declares_of_declareVariable (hformed.sizes_patch hdomain hvars) h

theorem fault_eq_ok {α : Type} {result : Except Shader.Fault α} {value : α}
    (h : shader.fault result = .ok value) : result = .ok value :=
  mapError_eq_ok.mp h

theorem demand_eq_ok {s : Option InterfaceStruct} {fault : Shader.Fault} {found : InterfaceStruct}
    (h : demand shader s fault = .ok found) : s = some found := by
  cases s with
  | none => cases h
  | some known => cases h; rfl

theorem exists_plainParts (hformed : shader.WellFormed)
    (hstage : shader.stage = .vertex ∨ shader.stage = .pixel) (h : plain shader = .ok items) :
    ∃ parts : ProgramParts, items.filter (·.speaks) = parts.items ∧
      parts.Of .direct3D11 shader := by
  simp only [plain, bind_eq_ok, pure_eq_ok] at h
  obtain ⟨input, hinput, output, houtput, rfl⟩ := h
  refine ⟨⟨[input, output], [], Hlsl.interfaceMacros.filter (·.speaks), [], _⟩, ?_,
    ⟨?_, rfl, defines_interfaceMacros hstage, fun _ => rfl, by simp, .plain (by decide) hstage⟩⟩
  · simp only [ProgramParts.items, ← filter_interfaceItems, Hlsl.entryPoint_eq]
    simp
  · rw [interfaceGroups_plain hstage]
    exact .cons (passes_of_interface hformed shader.input_subset hinput)
      (.cons (passes_of_interface hformed shader.output_subset houtput) .nil)

theorem exists_computeParts (hformed : shader.WellFormed) (hstage : shader.stage = .compute)
    (h : compute shader = .ok items) :
    ∃ parts : ProgramParts, items.filter (·.speaks) = parts.items ∧
      parts.Of .direct3D11 shader := by
  simp only [compute, bind_eq_ok, pure_eq_ok] at h
  obtain ⟨group, -, input, hinput, rfl⟩ := h
  refine ⟨⟨[input], [], [macroOf "INPUT" ["x"] "input.x"], [], _⟩, ?_,
    ⟨?_, rfl, ?_, fun _ => rfl, by simp,
      .compute [s!"numthreads({group.x}, {group.y}, {group.z})"] hstage⟩⟩
  · simp only [ProgramParts.items, ← filter_interfaceItems, Hlsl.entryPoint_eq]
    simp [List.filter_cons, macroOf]
  · rw [Target.interfaceGroups, hstage]
    exact .cons (passes_of_interface hformed shader.input_subset hinput) .nil
  · rw [Target.macroNames, hstage]
    exact .cons ⟨_, _, rfl⟩ .nil

/-- A hull shader has a structure for patch constants, which its patch function returns. -/
theorem hull_eq_ok (h : hull shader = .ok items) :
    ∃ domain points attributes input output patch,
      shader.tessellationDomain = .ok domain ∧
      interface shader "Input" shader.input = .ok input ∧
      interface shader "Output" shader.output = .ok output ∧
      patchInterface shader "OutputPatch" domain shader.outputPatch = .ok (some patch) ∧
      items = InterfaceStruct.items input ++ InterfaceStruct.items output ++
        InterfaceStruct.items (some patch) ++
        [indexedInputMacro, macroOf "OUTPUT" ["x"] "output.x", macroOf "PATCH" ["x"] "patch.x",
          .define "CONTROL_POINT_ID" none "controlPointId",
          .define "PRIMITIVE_ID" none "primitiveId", .blank,
          .function (Hlsl.returning patchFunction "patch" [] (some patch)
            (patchParameter "InputPatch<" input points ++ [primitiveParameter]) shader.patchCode),
          .blank,
          Hlsl.entryPoint attributes output (patchParameter "InputPatch<" input points ++
            ["uint controlPointId : SV_OutputControlPointID", primitiveParameter])
            shader.mainCode] := by
  simp only [hull, bind_eq_ok, pure_eq_ok] at h
  obtain ⟨domain, hdomain, partitioning, -, topology, -, points, -, outputPoints, -, factor, -,
    input, hinput, output, houtput, _, hpatch, patch, hdemand, rfl⟩ := h
  rw [demand_eq_ok hdemand] at hpatch
  exact ⟨domain, points, _, input, output, patch, fault_eq_ok hdomain, hinput, houtput, hpatch, rfl⟩

theorem exists_hullParts (hformed : shader.WellFormed) (hstage : shader.stage = .hull)
    (h : hull shader = .ok items) :
    ∃ parts : ProgramParts, items.filter (·.speaks) = parts.items ∧
      parts.Of .direct3D11 shader := by
  obtain ⟨domain, points, attributes, input, output, patch, hdomain, hinput, houtput, hpatch,
    rfl⟩ := hull_eq_ok h
  refine ⟨⟨[input, output, some patch], [],
    [indexedInputMacro, macroOf "OUTPUT" ["x"] "output.x", macroOf "PATCH" ["x"] "patch.x",
      .define "CONTROL_POINT_ID" none "controlPointId", .define "PRIMITIVE_ID" none "primitiveId"],
    [], _⟩, ?_, ⟨?_, rfl, ?_, fun _ => rfl, by simp,
      .hull points attributes hstage⟩⟩
  · simp only [ProgramParts.items, ← filter_interfaceItems, Hlsl.entryPoint_eq]
    simp [List.filter_cons, macroOf, indexedInputMacro]
  · rw [Target.interfaceGroups, hstage]
    exact .cons (passes_of_interface hformed shader.input_subset hinput)
      (.cons (passes_of_interface hformed shader.output_subset houtput)
        (.cons (passes_of_patchInterface hformed hdomain (List.subset_append_right ..) hpatch)
          .nil))
  · simp [Target.macroNames, hstage, Item.Defines, macroOf, indexedInputMacro]

/-- A domain shader takes in what is left of a patch, what the hull shader said of it and more. -/
theorem domain_eq_ok (h : domain shader = .ok items) :
    ∃ kind points attributes input patch extra output,
      shader.tessellationDomain = .ok kind ∧
      interface shader "Input" shader.input = .ok input ∧
      patchInterface shader "InputPatch" kind shader.inputPatch = .ok patch ∧
      interface shader "InputExtra" shader.inputExtra = .ok extra ∧
      interface shader "Output" shader.output = .ok output ∧
      items = InterfaceStruct.items input ++ InterfaceStruct.items patch ++
        InterfaceStruct.items extra ++ InterfaceStruct.items output ++
        [indexedInputMacro, macroOf "PATCH" ["x"] "patch.x", macroOf "EXTRA" ["x"] "extra.x",
          macroOf "OUTPUT" ["x"] "output.x", .blank,
          Hlsl.entryPoint attributes output (patchParameter "OutputPatch<" input points ++
            Hlsl.parameter patch "patch" ++ Hlsl.parameter extra "extra") shader.mainCode] := by
  simp only [domain, bind_eq_ok, pure_eq_ok] at h
  obtain ⟨kind, hkind, points, -, input, hinput, patch, hpatch, extra, hextra, output, houtput,
    rfl⟩ := h
  exact ⟨kind, points, _, input, patch, extra, output, fault_eq_ok hkind, hinput, hpatch, hextra,
    houtput, rfl⟩

theorem exists_domainParts (hformed : shader.WellFormed) (hstage : shader.stage = .domain)
    (h : domain shader = .ok items) :
    ∃ parts : ProgramParts, items.filter (·.speaks) = parts.items ∧
      parts.Of .direct3D11 shader := by
  obtain ⟨kind, points, attributes, input, patch, extra, output, hkind, hinput, hpatch, hextra,
    houtput, rfl⟩ := domain_eq_ok h
  refine ⟨⟨[input, patch, extra, output], [],
    [indexedInputMacro, macroOf "PATCH" ["x"] "patch.x", macroOf "EXTRA" ["x"] "extra.x",
      macroOf "OUTPUT" ["x"] "output.x"], [], _⟩, ?_, ⟨?_, rfl, ?_, fun _ => rfl, by simp,
      .domain points attributes hstage⟩⟩
  · simp only [ProgramParts.items, ← filter_interfaceItems, Hlsl.entryPoint_eq]
    simp [List.filter_cons, macroOf, indexedInputMacro]
  · rw [Target.interfaceGroups, hstage]
    exact .cons (passes_of_interface hformed shader.input_subset hinput)
      (.cons (passes_of_patchInterface hformed hkind (List.subset_append_left ..) hpatch)
        (.cons (passes_of_interface hformed shader.inputExtra_subset hextra)
          (.cons (passes_of_interface hformed shader.output_subset houtput) .nil)))
  · simp [Target.macroNames, hstage, Item.Defines, macroOf, indexedInputMacro]

/-- The streams of a geometry shader with their structures, in order. -/
theorem passes_numberedStreams (hformed : shader.WellFormed) {streams : List OutputStream}
    (hstreams : streams ⊆ shader.streams) {number : Nat} {outputs : List StreamOutput}
    (h : numberedStreams shader number streams = .ok outputs) :
    List.Forall₂ (Target.direct3D11.Passes shader)
        ((streams.zipIdx number).map fun (stream, number) =>
          ⟨s!"Output{number}", stream.outputs⟩)
        (outputs.map fun output => some output.vertex) ∧
      outputs.map (·.suffix) = (streams.zipIdx number).map fun (_, number) => toString number := by
  induction streams generalizing number outputs with
  | nil =>
    cases h
    exact ⟨.nil, rfl⟩
  | cons stream rest ih =>
    simp only [numberedStreams, bind_eq_ok, pure_eq_ok] at h
    obtain ⟨_, hvertex, vertex, hdemand, following, hfollowing, rfl⟩ := h
    rw [demand_eq_ok hdemand] at hvertex
    obtain ⟨hstream, hrest⟩ := List.cons_subset.mp hstreams
    obtain ⟨hpasses, hsuffixes⟩ := ih hrest hfollowing
    have hvars : stream.outputs ⊆ shader.stageVariables := fun v hv =>
      List.mem_append_right _ (List.mem_flatMap.mpr ⟨stream, hstream, hv⟩)
    exact ⟨.cons (passes_of_interface hformed hvars hvertex) hpasses,
      congrArg (toString number :: ·) hsuffixes⟩

/-- The groups that a geometry shader puts out all have structures. -/
theorem passes_streamOutputs (hformed : shader.WellFormed) {outputs : List StreamOutput}
    (h : streamOutputs shader = .ok outputs) :
    List.Forall₂ (Target.direct3D11.Passes shader) shader.streamGroups
        (outputs.map fun output => some output.vertex) ∧
      outputs.map (·.suffix) = shader.streamSuffixes := by
  unfold streamOutputs at h
  unfold Shader.streamGroups Shader.streamSuffixes
  split at h
  · rename_i hempty
    rw [if_pos hempty, if_pos hempty]
    simp only [bind_eq_ok, pure_eq_ok] at h
    obtain ⟨_, hvertex, vertex, hdemand, rfl⟩ := h
    rw [demand_eq_ok hdemand] at hvertex
    exact ⟨.cons (passes_of_interface hformed shader.output_subset hvertex) .nil, rfl⟩
  · rename_i hsome
    rw [if_neg hsome, if_neg hsome]
    exact passes_numberedStreams hformed (fun _ hmem => hmem) h

/-- The macros for streams, each by its suffix. -/
theorem defines_streamMacros (streams : List StreamOutput) :
    List.Forall₂ Item.Defines ((streams.map (·.suffix)).flatMap streamMacroNames)
      (streams.flatMap (·.macros)) := by
  induction streams with
  | nil => exact .nil
  | cons stream rest ih =>
    exact .cons ⟨_, _, rfl⟩ (.cons ⟨_, _, rfl⟩ (.cons ⟨_, _, rfl⟩ ih))

/-- A geometry shader appends to its streams, which it takes as parameters. -/
theorem geometry_eq_ok (h : geometry shader = .ok items) :
    ∃ (primitive : GeometryPrimitive) (topology : StreamTopology) (attributes : List String)
      (input : Option InterfaceStruct) (streams : List StreamOutput),
      shader.outputPrimitive = .ok topology ∧
      interface shader "Input" shader.input = .ok input ∧
      streamOutputs shader = .ok streams ∧
      items = InterfaceStruct.items input ++
        streams.flatMap (fun stream => InterfaceStruct.items (some stream.vertex)) ++
        indexedInputMacro :: streams.flatMap (·.macros) ++
        [.blank, .function {
          attributes
          returns := "void"
          name := "main"
          parameters := primitiveParameters input primitive ++ streams.map fun stream =>
            s!"inout {topology.hlsl}<{stream.vertex.name}> {stream.parameterName}"
          body := streams.map (fun stream => Hlsl.zeroed stream.vertex.name stream.localName) ++
            shader.mainCode }] := by
  simp only [geometry, bind_eq_ok, pure_eq_ok] at h
  obtain ⟨count, -, primitive, -, topology, htopology, input, hinput, streams, hstreams, instances,
    -, rfl⟩ := h
  exact ⟨primitive, topology, _, input, streams, fault_eq_ok htopology, hinput, hstreams, rfl⟩

theorem exists_geometryParts (hformed : shader.WellFormed) (hstage : shader.stage = .geometry)
    (h : geometry shader = .ok items) :
    ∃ parts : ProgramParts, items.filter (·.speaks) = parts.items ∧
      parts.Of .direct3D11 shader := by
  obtain ⟨primitive, topology, attributes, input, streams, -, hinput, hstreams, rfl⟩ :=
    geometry_eq_ok h
  obtain ⟨hpasses, hsuffixes⟩ := passes_streamOutputs hformed hstreams
  have hmacros : List.Forall₂ Item.Defines (Target.direct3D11.macroNames shader)
      (indexedInputMacro :: streams.flatMap (·.macros)) := by
    rw [Target.macroNames, hstage, ← hsuffixes]
    exact .cons ⟨_, _, rfl⟩ (defines_streamMacros streams)
  refine ⟨⟨input :: streams.map fun stream => some stream.vertex, [],
    indexedInputMacro :: streams.flatMap (·.macros), [], _⟩, ?_,
    ⟨?_, rfl, hmacros, fun _ => rfl, by simp,
      .geometry primitive topology attributes hstage hsuffixes⟩⟩
  · have hlocals : (streams.flatMap fun stream => InterfaceStruct.items (some stream.vertex)) =
        (streams.map fun stream => some stream.vertex).flatMap InterfaceStruct.items :=
      (List.flatMap_map ..).symm
    simp only [ProgramParts.items, ← filter_interfaceItems, hlocals, List.filter_append,
      filter_plain (isPlain_definitions hmacros)]
    simp
  · rw [Target.interfaceGroups, hstage]
    exact .cons (passes_of_interface hformed shader.input_subset hinput) hpasses

/-- A text declares the resources of the shader, and then comes what its stage needs. -/
theorem exists_body (h : source shader = .ok text) :
    ∃ (resources : ResourceParts) (items : List Item), resources.Of .direct3D11 shader ∧
      body shader = .ok items ∧ text.content = resources.items ++ items.filter (·.speaks) := by
  simp only [source, bind_eq_ok, pure_eq_ok] at h
  obtain ⟨resourceItems, hresources, items, hbody, rfl⟩ := h
  obtain ⟨resources, hfilter, hof⟩ := exists_resourceParts hresources
  refine ⟨resources, items, hof, hbody, ?_⟩
  rw [content_ofItems, List.filter_append, List.filter_append, hfilter]
  rfl

theorem exists_sourceParts (hformed : shader.WellFormed) (h : source shader = .ok text) :
    ∃ parts : SourceParts, text.content = parts.items ∧ parts.Of .direct3D11 version shader := by
  obtain ⟨resources, items, hof, hbody, hcontent⟩ := exists_body h
  have hprogram : ∃ parts : ProgramParts, items.filter (·.speaks) = parts.items ∧
      parts.Of .direct3D11 shader := by
    unfold body at hbody
    cases hstage : shader.stage with
    | vertex => exact exists_plainParts hformed (.inl hstage) (by simpa [hstage] using hbody)
    | pixel => exact exists_plainParts hformed (.inr hstage) (by simpa [hstage] using hbody)
    | compute => exact exists_computeParts hformed hstage (by simpa [hstage] using hbody)
    | hull => exact exists_hullParts hformed hstage (by simpa [hstage] using hbody)
    | domain => exact exists_domainParts hformed hstage (by simpa [hstage] using hbody)
    | geometry => exact exists_geometryParts hformed hstage (by simpa [hstage] using hbody)
  obtain ⟨program, hitems, hprogramOf⟩ := hprogram
  refine ⟨⟨[], resources, program⟩, ?_, ⟨rfl, hof, hprogramOf⟩⟩
  rw [hcontent, hitems]
  rfl

end Direct3D11

namespace OpenGL

theorem declares_of_declareVariable (v : Variable) (length : MemberLength) (d : Declaration)
    (h : declareVariable v length = .ok d) :
    Target.openGL.Declares v.name v.type length.length? d := by
  simp only [declareVariable, bind_eq_ok, pure_eq_ok] at h
  obtain ⟨spelling, hspelling, rfl⟩ := h
  exact ⟨rfl, toOption_glsl hspelling, rfl⟩

/-- Both structures are there when there is something to show. -/
theorem passes_of_stageInterface (hformed : shader.WellFormed) {interface : StageInterface}
    (h : stageInterface shader = .ok interface) :
    Target.openGL.Passes shader ⟨"Input", shader.input⟩ interface.input ∧
      Target.openGL.Passes shader ⟨"Output", shader.output⟩ interface.output := by
  simp only [stageInterface, bind_eq_ok, pure_eq_ok] at h
  obtain ⟨input, hinput, output, houtput, received, -, passed, -, rfl⟩ := h
  exact ⟨passes_of_interfaceStruct declares_of_declareVariable
      (hformed.sizes_stage shader.input_subset) hinput,
    passes_of_interfaceStruct declares_of_declareVariable
      (hformed.sizes_stage shader.output_subset) houtput⟩

theorem interfaceGroups_of_supports (h : supports shader.stage = true) :
    Target.openGL.interfaceGroups shader =
      [⟨"Input", shader.input⟩, ⟨"Output", shader.output⟩] := by
  unfold Target.interfaceGroups
  cases hstage : shader.stage <;> simp_all [supports]

theorem defines_macros (h : supports shader.stage = true) (input output : String) :
    List.Forall₂ Item.Defines (Target.openGL.macroNames shader)
      [macroOf "INPUT" ["x"] input, macroOf "OUTPUT" ["x"] output] := by
  have hnames : Target.openGL.macroNames shader = ["INPUT", "OUTPUT"] := by
    unfold Target.macroNames
    cases hstage : shader.stage <;> simp_all [supports]
  rw [hnames]
  exact .cons ⟨_, _, rfl⟩ (.cons ⟨_, _, rfl⟩ .nil)

/-! The globals of variables that are passed. -/

theorem length_countedLocations (stage : Stage) (side : Side) (vars : List Variable)
    (next : UInt32) : (countedLocations stage side next vars).length = vars.length := by
  induction vars generalizing next with
  | nil => rfl
  | cons v rest ih =>
    rw [countedLocations]
    split <;> rw [List.length_cons, List.length_cons, ih]

/-- Every variable has a location or none. -/
theorem length_locations (stage : Stage) (side : Side) (vars : List Variable) :
    (locations stage side vars).length = vars.length := by
  unfold locations
  split
  · exact List.length_map _
  · exact length_countedLocations ..

theorem name_declareGlobal {v : Variable} {type name direction : String} {location : UInt32}
    {isVarying : Bool} {d : Declaration}
    (h : declareGlobal shader v type name location isVarying direction = .ok d) :
    d.name = name := by
  simp only [declareGlobal, bind_eq_ok, pure_eq_ok] at h
  obtain ⟨length, -, rfl⟩ := h
  rfl

theorem global_receive {v : Variable} {location : Option UInt32} {transfer : Transfer}
    (h : receive shader v location = .ok transfer) :
    transfer.global?.map (·.name) = inputGlobal? v := by
  unfold inputGlobal?
  obtain ⟨type, -, ⟨hsystem, builtin, -, rfl⟩ | ⟨hsystem, first, declared, -, hdeclared, rfl⟩⟩ :=
    receive_cases h
  · rw [if_pos hsystem]
    rfl
  · rw [hsystem]
    exact congrArg some (name_declareGlobal hdeclared)

theorem global_pass {v : Variable} {location : Option UInt32} {transfer : Transfer}
    (h : pass shader v location = .ok transfer) :
    transfer.global?.map (·.name) = outputGlobal? shader.stage v := by
  unfold outputGlobal?
  obtain ⟨type, -, ⟨builtin, hbuiltin, rfl⟩ | ⟨hbuiltin, first, declared, -, hdeclared, rfl⟩⟩ :=
    pass_cases h
  · rw [hbuiltin]
    rfl
  · rw [hbuiltin]
    exact congrArg some (name_declareGlobal hdeclared)

theorem map_fst_used (stage : Stage) (side : Side) (vars : List Variable) :
    ((vars.zip (locations stage side vars)).filter (·.1.isUsed)).map (·.1) =
      vars.filter (·.isUsed) := by
  conv => rhs; rw [← List.map_fst_zip (length_locations stage side vars).ge]
  exact List.filter_map.symm

/-- The globals of transfers are those of the variables that are used. -/
theorem map_name_globals {transfer : Variable → Option UInt32 → Except ShaderError Transfer}
    {global? : Variable → Option String} {stage : Stage} {side : Side} {vars : List Variable}
    {list : List Transfer}
    (hglobal : ∀ v location result, transfer v location = .ok result →
      result.global?.map (·.name) = global? v)
    (h : transfers transfer stage side vars = .ok list) :
    (list.filterMap (·.global?)).map (·.name) = (vars.filter (·.isUsed)).filterMap global? := by
  have hnames : list.map (fun result => result.global?.map (·.name)) =
      ((vars.zip (locations stage side vars)).filter (·.1.isUsed)).map fun pair => global? pair.1 :=
    map_eq_map_of_mapM_eq_ok (fun pair result hresult => hglobal _ _ result hresult) h
  have hall : ∀ row : List Transfer, (row.filterMap (·.global?)).map (·.name) =
      (row.map fun result => result.global?.map (·.name)).filterMap id := by
    intro row
    rw [List.map_filterMap, List.filterMap_map]
    rfl
  rw [hall, hnames, ← map_fst_used stage side, List.filterMap_map, List.filterMap_map]
  rfl

theorem map_name_passed {interface : StageInterface} (h : stageInterface shader = .ok interface) :
    ((interface.received ++ interface.passed).filterMap (·.global?)).map (·.name) =
      globalNames shader := by
  simp only [stageInterface, bind_eq_ok, pure_eq_ok] at h
  obtain ⟨input, -, output, -, received, hreceived, passed, hpassed, rfl⟩ := h
  rw [List.filterMap_append, List.map_append, globalNames]
  congr 1
  · exact map_name_globals (fun _ _ _ hresult => global_receive hresult) hreceived
  · exact map_name_globals (fun _ _ _ hresult => global_pass hresult) hpassed

theorem filter_threadGroup (h : threadGroup shader = .ok items) :
    (¬shader.stage = .compute → items.filter (·.speaks) = []) ∧
      (shader.stage = .compute → ∃ group, shader.threadGroup = .ok group ∧
        items.filter (·.speaks) = [.verbatim s!"layout({localSizes group}) in;"]) := by
  unfold threadGroup at h
  split at h
  · rename_i hstage
    simp only [bind_eq_ok, pure_eq_ok] at h
    obtain ⟨group, hgroup, rfl⟩ := h
    exact ⟨fun hother => absurd hstage hother,
      fun _ => ⟨group, Direct3D11.fault_eq_ok hgroup, rfl⟩⟩
  · rename_i hstage
    cases h
    exact ⟨fun _ => rfl, fun hcompute => absurd hcompute hstage⟩

theorem supports_of_source (h : source version shader = .ok text) :
    supports shader.stage = true := by
  simp only [source] at h
  split at h
  · cases h
  · simpa using ‹¬(!supports shader.stage) = true›

theorem exists_sourceParts (hformed : shader.WellFormed) (h : source version shader = .ok text) :
    ∃ parts : SourceParts, text.content = parts.items ∧ parts.Of .openGL version shader := by
  have hsupports := supports_of_source h
  obtain ⟨resourceItems, interface, group, hresources, hinterface, hgroup, rfl⟩ := parts_of_source h
  obtain ⟨resources, hfilter, hof⟩ := exists_resourceParts hformed hresources
  obtain ⟨hinput, houtput⟩ := passes_of_stageInterface hformed hinterface
  obtain ⟨hnoThreads, hthreads⟩ := filter_threadGroup hgroup
  refine ⟨⟨_, resources, ⟨[interface.input, interface.output],
    (interface.received ++ interface.passed).filterMap (·.global?),
    [macroOf "INPUT" ["x"] s!"{inputLocal}.x", macroOf "OUTPUT" ["x"] s!"{outputLocal}.x"],
    group.filter (·.speaks), _⟩⟩, ?_, ⟨rfl, hof, ?_, ?_, defines_macros hsupports _ _,
      fun h => hnoThreads fun hcompute => h ⟨rfl, hcompute⟩, fun h => hthreads h.2,
      .openGL hsupports hinterface⟩⟩
  · have hglobals : ∀ list : List Declaration,
        (list.map Item.global).filter (·.speaks) = list.map .global :=
      filter_speaks_map Item.speaks_global
    rw [content_ofItems]
    simp only [SourceParts.items, ProgramParts.items, List.filter_append, hfilter,
      StageInterface.items, hglobals, ← filter_interfaceItems]
    simp [List.filter_cons, macroOf]
  · rw [interfaceGroups_of_supports hsupports]
    exact .cons hinput (.cons houtput .nil)
  · exact map_name_passed hinterface

end OpenGL

/-- Every source text of a shader that keeps all rules is made of the parts of that shader. -/
theorem Target.exists_sourceParts {target : Target} (hformed : shader.WellFormed)
    (h : target.source version shader = .ok text) :
    ∃ parts : SourceParts, text.content = parts.items ∧ parts.Of target version shader :=
  match target with
  | .direct3D9 => Direct3D9.exists_sourceParts hformed h
  | .direct3D11 => Direct3D11.exists_sourceParts hformed h
  | .openGL => OpenGL.exists_sourceParts hformed h

end Parts

end CrossShade
