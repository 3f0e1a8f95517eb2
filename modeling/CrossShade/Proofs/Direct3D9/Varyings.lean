import CrossShade.Proofs.Direct3D9.Registers

/-!
# Varyings of shader model three

A vertex shader and the pixel shader behind it are described and annotated apart from each other.
That a value is passed on in the register in which it is expected is due to the numbering: between
stages it counts the variables without a semantic, used or not, and nothing else.

* `runStart_counted` gives the number of an unnamed variable by the unnamed variables before it, and
  `lookup_of_unnamed` its annotation.
* `lookup_of_named` says that a semantic of its own is kept.
* `varyings_agree` puts two interfaces next to each other.
-/

namespace CrossShade.Direct3D9

/-- The variables that are numbered between stages. -/
def unnamed (vars : List Variable) : List Variable :=
  vars.filter (·.semantic.isNone)

/-- What both sides of a boundary say about a variable that is numbered. -/
def nameAndType (v : Variable) : String × ValueType :=
  (v.name, v.type)

/-- How many registers such a variable takes. -/
def registersOf (key : String × ValueType) : Nat :=
  (registers { name := key.1, type := key.2 }).toNat

/-- How many registers are taken before the variable with a name. -/
def registersBefore (name : String) (keys : List (String × ValueType)) : Nat :=
  runStart registersOf keys ((keys.map Prod.fst).idxOf name)

section Numbering

variable {interface : Interface} {vars : List Variable} {v : Variable}
  {semantics : List (String × String)}

theorem Interface.counted_of_varying (hvarying : interface.isVarying = true) (v : Variable) :
    interface.counted v = if v.semantic.isNone then registersOf (nameAndType v) else 0 := by
  have hother : interface ≠ .vertexInput := by
    rintro rfl
    cases hvarying
  simp [counted, hother, registersOf, nameAndType, registers]

/-- The number of a variable depends on the names and types of the unnamed variables only. -/
theorem runStart_counted {i : Nat} (hvarying : interface.isVarying = true)
    (hnames : (vars.map (·.name)).Nodup) (hi : vars[i]? = some v) (hnone : v.semantic = none) :
    runStart interface.counted vars i =
      registersBefore v.name ((unnamed vars).map nameAndType) := by
  have hskip : ∀ x : Variable, x.semantic.isNone = false → interface.counted x = 0 := by
    intro x hx
    simp [Interface.counted_of_varying hvarying, hx]
  obtain ⟨k, hk, hstart⟩ := exists_runStart_filter hskip hi (by simp [hnone])
  have hkeys : runStart interface.counted (unnamed vars) k =
      runStart registersOf ((unnamed vars).map nameAndType) k := by
    rw [runStart_map]
    refine runStart_congr (fun x hx => ?_) k
    rw [Interface.counted_of_varying hvarying, if_pos (List.of_mem_filter hx)]
  -- names are distinct, so the variable is where its name is
  have hdistinct : ((unnamed vars).map (·.name)).Nodup :=
    hnames.sublist (List.filter_sublist.map _)
  have hname : ((unnamed vars).map (·.name))[k]? = some v.name := by
    rw [List.getElem?_map, unnamed, hk, Option.map_some]
  obtain ⟨hbound, hget⟩ := List.getElem?_eq_some_iff.mp hname
  have hindex : ((unnamed vars).map (·.name)).idxOf v.name = k := by
    rw [← hget]
    exact hdistinct.idxOf_getElem k hbound
  rw [registersBefore, List.map_map]
  change _ = runStart registersOf _ (((unnamed vars).map (·.name)).idxOf v.name)
  rw [hindex, ← hkeys]
  exact hstart

theorem lookup_of_unnamed (hvarying : interface.isVarying = true)
    (h : interface.semantics vars = .ok semantics) (hnames : (vars.map (·.name)).Nodup)
    (hv : v ∈ vars) (hused : v.isUsed = true) (hnone : v.semantic = none) :
    let n := UInt32.ofNat (registersBefore v.name ((unnamed vars).map nameAndType))
    semantics.lookup v.name = some (s!"TEXCOORD{n}" ++ interface.ending v) := by
  obtain ⟨i, hi⟩ := List.getElem?_of_mem hv
  obtain ⟨text, hgiven, hlookup⟩ :=
    Interface.lookup_semanticsFrom (semanticsFrom_of_semantics h) hnames hi hused
  rw [runStart_counted hvarying hnames hi hnone, UInt32.zero_add] at hgiven
  rw [hlookup, Interface.semantic_of_unnamed hnone hgiven]

/-- A semantic of its own stays as it is. -/
theorem lookup_of_named (h : interface.semantics vars = .ok semantics)
    (hnames : (vars.map (·.name)).Nodup) (hv : v ∈ vars) (hused : v.isUsed = true) {text : String}
    (hsome : v.semantic = some text) (huser : v.isSystemValue = false) :
    semantics.lookup v.name = some (text ++ interface.ending v) := by
  obtain ⟨i, hi⟩ := List.getElem?_of_mem hv
  obtain ⟨given, hgiven, hlookup⟩ :=
    Interface.lookup_semanticsFrom (semanticsFrom_of_semantics h) hnames hi hused
  obtain ⟨register, hregister, hinterpolated⟩ := bind_eq_ok.mp hgiven
  have hsame : register = text := by
    simp only [Interface.register, hsome, huser, Bool.false_eq_true, if_false] at hregister
    exact (Except.ok.inj hregister).symm
  rw [hlookup, Interface.interpolated_eq_ok hinterpolated, hsame]

end Numbering

/-- The vertex shader says nothing about where a value is taken. -/
theorem Interface.ending_vertexOutput (v : Variable) : vertexOutput.ending v = "" :=
  if_neg fun h => by cases h.1

/-- The pixel shader does so for a value that is not the system's. -/
theorem Interface.ending_pixelInput {v : Variable} (huser : v.isSystemValue = false) :
    pixelInput.ending v = if v.interpolation = .centroid then "_centroid" else "" := by
  simp [ending, huser]

theorem isSystemValue_of_unnamed {v : Variable} (hnone : v.semantic = none) :
    v.isSystemValue = false := by
  simp [Variable.isSystemValue, hnone]

/-- Where the outputs of one shader and the inputs of another have the same unnamed variables, by
name and type and in this order, a variable that both use has the same register on both sides: an
unnamed one the same number, and one with a semantic that is not a system value this semantic.  The
pixel shader adds where it takes the value. -/
theorem varyings_agree {name pixelName : String} {stage pixelStage : Stage}
    {additions pixelAdditions : List Addition} {shader pixelShader : Shader}
    {outputs inputs : List Variable} {given expected : List (String × String)}
    (hshader : Shader.build name stage additions = .ok shader)
    (hpixel : Shader.build pixelName pixelStage pixelAdditions = .ok pixelShader)
    (houtputs : outputs ∈ shader.variableLists) (hinputs : inputs ∈ pixelShader.variableLists)
    (hsame : (unnamed outputs).map nameAndType = (unnamed inputs).map nameAndType)
    (hgiven : Interface.vertexOutput.semantics outputs = .ok given)
    (hexpected : Interface.pixelInput.semantics inputs = .ok expected)
    {v w : Variable} (hv : v ∈ outputs) (hw : w ∈ inputs)
    (hused : v.isUsed = true) (hused' : w.isUsed = true) :
    let n := UInt32.ofNat (registersBefore v.name ((unnamed outputs).map nameAndType))
    let mark := if w.interpolation = .centroid then "_centroid" else ""
    (v.semantic = none → w.semantic = none → v.name = w.name →
      given.lookup v.name = some s!"TEXCOORD{n}" ∧
        expected.lookup w.name = some (s!"TEXCOORD{n}" ++ mark)) ∧
    (∀ text, v.semantic = some text → w.semantic = some text → v.isSystemValue = false →
      given.lookup v.name = some text ∧ expected.lookup w.name = some (text ++ mark)) := by
  have hnames := Shader.nodup_names_of_build hshader houtputs
  have hnames' := Shader.nodup_names_of_build hpixel hinputs
  intro n mark
  constructor
  · intro hnone hnone' hname
    constructor
    · rw [lookup_of_unnamed rfl hgiven hnames hv hused hnone, Interface.ending_vertexOutput,
        String.append_empty]
    · rw [lookup_of_unnamed rfl hexpected hnames' hw hused' hnone', ← hsame, ← hname,
        Interface.ending_pixelInput (isSystemValue_of_unnamed hnone')]
  · intro text hsome hsome' huser
    have huser' : w.isSystemValue = false := by
      rw [Variable.isSystemValue, hsome', ← hsome]
      exact huser
    constructor
    · rw [lookup_of_named hgiven hnames hv hused hsome huser, Interface.ending_vertexOutput,
        String.append_empty]
    · rw [lookup_of_named hexpected hnames' hw hused' hsome' huser',
        Interface.ending_pixelInput huser']

/-- A variable that is numbered in between, although neither side can pass it. -/
def cornerIndex : Variable :=
  { type := .scalar .uint, name := "Corner", isUsed := false }

/-- What a vertex shader passes on. -/
def passedOutputs : List Variable :=
  [{ type := .float4, name := "Position", semantic := "SV_Position" },
    { type := .matrix .float 3 3, name := "Basis" }, cornerIndex,
    { type := .float4, name := "Tint", semantic := "COLOR1" },
    { type := .vector .float 2, name := "Uv" }]

/-- What a pixel shader takes of it. -/
def takenInputs : List Variable :=
  [{ type := .float4, name := "Shade", semantic := "COLOR1", interpolation := .centroid },
    { type := .matrix .float 3 3, name := "Basis", isUsed := false }, cornerIndex,
    { type := .vector .float 2, name := "Uv", interpolation := .centroid }]

theorem varyings_agree_takenInputs :
    let vertex : Shader := { name := "Passing", stage := .vertex, output := passedOutputs }
    let pixel : Shader := { name := "Taking", stage := .pixel, input := takenInputs }
    let given := [("Position", "POSITION"), ("Basis", "TEXCOORD0"), ("Tint", "COLOR1"),
      ("Uv", "TEXCOORD4")]
    let expected := [("Shade", "COLOR1_centroid"), ("Basis", "TEXCOORD0"),
      ("Uv", "TEXCOORD4_centroid")]
    Shader.build "Passing" .vertex vertex.additions = .ok vertex ∧
      Shader.build "Taking" .pixel pixel.additions = .ok pixel ∧
      Interface.vertexOutput.semantics passedOutputs = .ok given ∧
      Interface.pixelInput.semantics takenInputs = .ok expected ∧
      given.lookup "Uv" = some "TEXCOORD4" ∧ expected.lookup "Uv" = some "TEXCOORD4_centroid" ∧
      given.lookup "Tint" = some "COLOR1" ∧ expected.lookup "Shade" = some "COLOR1_centroid" := by
  intro vertex pixel given expected
  have hvertex : Shader.build "Passing" .vertex vertex.additions = .ok vertex := by decide +kernel
  have hpixel : Shader.build "Taking" .pixel pixel.additions = .ok pixel := by decide +kernel
  have hgiven : Interface.vertexOutput.semantics passedOutputs = .ok given := by decide +kernel
  have hexpected : Interface.pixelInput.semantics takenInputs = .ok expected := by decide +kernel
  have houtputs : passedOutputs ∈ vertex.variableLists := by decide +kernel
  have hinputs : takenInputs ∈ pixel.variableLists := by decide +kernel
  have hsame : (unnamed passedOutputs).map nameAndType = (unnamed takenInputs).map nameAndType := by
    decide +kernel
  have hagree := @varyings_agree _ _ _ _ _ _ _ _ _ _ _ _ hvertex hpixel houtputs hinputs hsame
    hgiven hexpected
  have huv := (hagree (v := { type := .vector .float 2, name := "Uv" })
    (w := { type := .vector .float 2, name := "Uv", interpolation := .centroid })
    (by decide +kernel) (by decide +kernel) rfl rfl).1 rfl rfl rfl
  have htint := (hagree (v := { type := .float4, name := "Tint", semantic := "COLOR1" })
    (w := { type := .float4, name := "Shade", semantic := "COLOR1", interpolation := .centroid })
    (by decide +kernel) (by decide +kernel) rfl rfl).2 "COLOR1" rfl rfl (by decide +kernel)
  exact ⟨hvertex, hpixel, hgiven, hexpected, huv.1, huv.2, htint.1, htint.2⟩

end CrossShade.Direct3D9
