import CrossShade.Shader.Fault

/-!
# Validation

The rules that every shader has to keep, checked in a fixed order; the first broken rule is the one
reported.  A check is a computation that either ends well or gives a fault, and checks are put
together with `checkAll` for lists and one after the other.
-/

namespace CrossShade

/-- A check fails with a fault or passes. -/
abbrev Check := Except Shader.Fault Unit

/-- Passes if a condition holds. -/
def require (condition : Bool) (fault : Shader.Fault) : Check :=
  if condition then .ok () else .error fault

/-- Checks every element of a list in order. -/
def checkAll {α : Type} (check : α → Check) : List α → Check
  | [] => .ok ()
  | x :: rest => do
    check x
    checkAll check rest

/-- The first element that stands somewhere before, or is among those seen already. -/
def firstRepeated? {α : Type} [DecidableEq α] (seen : List α) : List α → Option α
  | [] => none
  | x :: rest => if x ∈ seen then some x else firstRepeated? (x :: seen) rest

/-- Passes if no name occurs twice. -/
def requireDistinct (names : List String) (fault : String → Shader.Fault) : Check :=
  match firstRepeated? [] names with
  | none => .ok ()
  | some name => .error (fault name)

/-- The rule that a type breaks beside the declared structures. -/
def brokenRule? (structures : List Structure) (type : ValueType) : Option TypeRule :=
  if type.arraySize? = some (.fixed 0) then some .zeroLength
  else if type.arraySize?.isSome && type.element.arraySize?.isSome then some .nestedArray
  else
    match type.structureName? with
    | none => none
    | some name =>
      if structures.any (·.name == name) then none else some (.unknownStructure name)

/-- Passes if a type breaks no rule. -/
def requireType (structures : List Structure) (type : ValueType)
    (fault : TypeRule → Shader.Fault) : Check :=
  match brokenRule? structures type with
  | none => .ok ()
  | some rule => .error (fault rule)

/-- Checks names and slots of a category, entry by entry; the name of an entry counts first. -/
def checkBindings (category : BindingCategory) :
    (seen : List (String × UInt32)) → List (String × UInt32) → Check
  | _, [] => .ok ()
  | seen, (name, slot) :: rest => do
    require (!seen.any (·.1 == name)) (.duplicateBinding category name)
    require (!seen.any (·.2 == slot)) (.slotTwice category slot)
    checkBindings category ((name, slot) :: seen) rest

namespace Shader

/-- The profile is not one of another stage. -/
def checkProfile (shader : Shader) : Check :=
  match Stage.ofProfile? shader.profile with
  | none => .ok ()
  | some meant => require (meant = shader.stage) (.profileStage shader.profile meant shader.stage)

/-- The groups of variables with the names that faults give them. -/
def variableGroups (shader : Shader) : List (String × List Variable) :=
  [("input", shader.input), ("output", shader.output), ("input_extra", shader.inputExtra),
    ("input_patch", shader.inputPatch), ("output_patch", shader.outputPatch)]

/-- Names are distinct within each group, within each stream and among streams. -/
def checkVariableNames (shader : Shader) : Check := do
  checkAll (fun (group, vars) =>
    requireDistinct (vars.map (·.name)) fun name => .duplicateVariable name group)
    shader.variableGroups
  checkAll (fun stream : OutputStream =>
    requireDistinct (stream.outputs.map (·.name)) fun name =>
      .duplicateStreamVariable name stream.name)
    shader.streams
  requireDistinct (shader.streams.map (·.name)) .duplicateStream

/-- Whether a shader declares a part that is not for every stage. -/
def declares (shader : Shader) : StagePart → Bool
  | .streams => !shader.streams.isEmpty
  | .inputPatch => !shader.inputPatch.isEmpty
  | .outputPatch => !shader.outputPatch.isEmpty
  | .patchCode => !shader.patchCode.isEmpty

/-- Only parts that the stage has are declared, and no plain outputs beside streams. -/
def checkStageParts (shader : Shader) : Check := do
  checkAll (fun part : StagePart =>
    require (!shader.declares part || part.stage = shader.stage) (.notAllowed part shader.stage))
    [.streams, .inputPatch, .outputPatch, .patchCode]
  require
    (!(shader.stage = .geometry && !shader.streams.isEmpty && !shader.output.isEmpty))
    .outputsAndStreams

/-- The variables that are passed with patches. -/
def patchVariables (shader : Shader) : List Variable :=
  shader.inputPatch ++ shader.outputPatch

/-- The variables that are passed with vertices and pixels. -/
def stageVariables (shader : Shader) : List Variable :=
  shader.input ++ shader.output ++ shader.inputExtra ++ shader.streams.flatMap (·.outputs)

/-- The types of variables are possible, and only patches are sized by tessellation factors. -/
def checkVariableTypes (shader : Shader) : Check := do
  checkAll (fun v : Variable => requireType shader.structures v.type (.variableType v.name))
    shader.patchVariables
  checkAll (fun v : Variable => do
    requireType shader.structures v.type (.variableType v.name)
    require (!v.type.arraySize?.any (·.needsDomain)) (.factorsOutsidePatch v.name))
    shader.stageVariables

/-- The members of structures are distinct and of possible types. -/
def checkStructures (shader : Shader) : Check :=
  checkAll (fun s : Structure => do
    requireDistinct (s.members.map (·.name)) fun name => .duplicateField name s.name
    checkAll (fun field : Field =>
      requireType shader.structures field.type (.fieldType field.name s.name))
      s.members)
    shader.structures

/-- The members of a buffer are of possible types, and their offsets grow in steps of sixteen. -/
def checkMembers (structures : List Structure) (buffer : String) :
    (before : Option UInt32) → List UniformMember → Check
  | _, [] => .ok ()
  | before, member :: rest => do
    requireType structures member.type (.memberType member.name buffer)
    require (member.offset % 16 = 0 && before.all (· < member.offset))
      (.memberOffset member.name buffer member.offset)
    checkMembers structures buffer (some member.offset) rest

/-- The members of uniform buffers are distinct and in order. -/
def checkUniformBuffers (shader : Shader) : Check :=
  checkAll (fun buffer : UniformBuffer => do
    requireDistinct (buffer.members.map (·.name)) fun name => .duplicateMember name buffer.name
    checkMembers shader.structures buffer.name none buffer.members)
    shader.uniformBuffers

/-- Within each category names and slots are distinct. -/
def checkSlots (shader : Shader) : Check := do
  checkBindings .uniformBuffer [] (shader.uniformBuffers.map fun b => (b.name, b.slot))
  checkBindings .sampler [] (shader.samplers.map fun s => (s.name, s.slot))
  checkBindings .readView [] (shader.readViews.map fun v => (v.name, v.slot))
  checkBindings .writeView [] (shader.writeViews.map fun v => (v.name, v.slot))

/-- The elements of views are of possible types. -/
def checkViews (shader : Shader) : Check :=
  checkAll (fun view : ViewBinding =>
    requireType shader.structures view.element (.viewType view.name))
    (shader.readViews ++ shader.writeViews)

/-- Fixed sampling is between declared views and samplers, with one sampler for a view. -/
def checkFixedSampling (shader : Shader) : Check := do
  checkAll (fun pair : FixedSampling => do
    require (shader.readViews.any (·.name == pair.view)) (.unknownFixedView pair.view)
    require (shader.samplers.any (·.name == pair.sampler)) (.unknownFixedSampler pair.sampler))
    shader.fixedSampling
  requireDistinct (shader.fixedSampling.map (·.view)) .viewFixedTwice

/-- All rules, in the order in which they are checked. -/
def validate (shader : Shader) : Check := do
  shader.checkProfile
  shader.checkVariableNames
  shader.checkStageParts
  requireDistinct (shader.structures.map (·.name)) .duplicateStructure
  shader.checkVariableTypes
  shader.checkStructures
  shader.checkUniformBuffers
  shader.checkSlots
  shader.checkViews
  shader.checkFixedSampling

end Shader

/-! ## What it means that a check passes -/

@[simp] theorem require_eq_ok {condition : Bool} {fault : Shader.Fault} :
    require condition fault = .ok () ↔ condition = true := by
  unfold require
  split <;> simp_all

theorem checkAll_eq_ok {α : Type} {check : α → Check} {list : List α} :
    checkAll check list = .ok () ↔ ∀ x ∈ list, check x = .ok () := by
  induction list with
  | nil => simp [checkAll]
  | cons x rest ih =>
    cases outcome : check x with
    | error fault => simp [checkAll, outcome, bind, Except.bind]
    | ok _ => simp [checkAll, outcome, bind, Except.bind, ih]

theorem firstRepeated?_eq_none {α : Type} [DecidableEq α] {seen list : List α} :
    firstRepeated? seen list = none ↔ list.Nodup ∧ ∀ x ∈ list, x ∉ seen := by
  induction list generalizing seen with
  | nil => simp [firstRepeated?]
  | cons x rest ih =>
    by_cases member : x ∈ seen
    · simp [firstRepeated?, member]
    · simp only [firstRepeated?, member, if_false, ih, List.nodup_cons, List.mem_cons, not_or]
      constructor
      · rintro ⟨distinct, apart⟩
        exact ⟨⟨fun inRest => (apart x inRest).1 rfl, distinct⟩,
          fun y inList => inList.elim (fun same => same ▸ member) fun inRest => (apart y inRest).2⟩
      · rintro ⟨⟨fresh, distinct⟩, apart⟩
        exact ⟨distinct, fun y inRest =>
          ⟨fun same => fresh (same ▸ inRest), apart y (Or.inr inRest)⟩⟩

theorem requireDistinct_eq_ok {names : List String} {fault : String → Shader.Fault} :
    requireDistinct names fault = .ok () ↔ names.Nodup := by
  unfold requireDistinct
  split
  · rename_i none
    simpa using (firstRepeated?_eq_none.mp none).1
  · rename_i name found
    simp only [reduceCtorEq, false_iff]
    intro distinct
    have fresh := firstRepeated?_eq_none.mpr ⟨distinct, fun x _ => List.not_mem_nil (a := x)⟩
    simp [fresh] at found

end CrossShade
