import CrossShade.Proofs.Outcome
import CrossShade.Proofs.UniformBuffer.Sizing
import CrossShade.Shader.Validation

/-!
# Well-formed shaders

What it means that a shader keeps all rules, and that validation decides it.

* `Shader.WellFormed` states the rules, without an order and without faults.
* Every check has its lemma that says when it passes, from `brokenRule?_eq_none_iff` for a single
  type up to `Shader.checkFixedSampling_eq_ok_iff`.
* `Shader.validate_eq_ok_iff` puts them together.
-/

namespace CrossShade

/-- A type that can be declared beside some structures: no array of arrays, not of length zero, and
made of no other structure than a declared one. -/
structure ValueType.IsPossible (structures : List Structure) (type : ValueType) : Prop where
  notNested : ∀ element inner outer, type ≠ .array (.array element inner) outer
  notEmpty : ∀ element, type ≠ .array element (.fixed 0)
  declared : ∀ name, type.structure? = some name → ∃ s ∈ structures, s.name = name

/-- A type whose length is a count of tessellation factors. -/
def ValueType.IsFactorArray (type : ValueType) : Prop :=
  ∃ element size, type = .array element size ∧ size.needsDomain = true

/-- The offsets of a buffer are multiples of sixteen, and each is greater than the one before it. -/
structure UniformBuffer.InOrder (buffer : UniformBuffer) : Prop where
  aligned : ∀ member ∈ buffer.members, 16 ∣ member.offset.toNat
  increasing : (buffer.members.map (·.offset)).Pairwise (· < ·)

namespace Shader

/-- The bindings of a category with their slots. -/
def bindings (shader : Shader) : BindingCategory → List (String × UInt32)
  | .uniformBuffer => shader.uniformBuffers.map fun buffer => (buffer.name, buffer.slot)
  | .sampler => shader.samplers.map fun sampler => (sampler.name, sampler.slot)
  | .readView => shader.readViews.map fun view => (view.name, view.slot)
  | .writeView => shader.writeViews.map fun view => (view.name, view.slot)

/-- Every type that a shader declares something with. -/
def declaredTypes (shader : Shader) : List ValueType :=
  (shader.patchVariables ++ shader.stageVariables).map (·.type) ++
    (shader.structures.flatMap (·.members)).map (·.type) ++
    (shader.uniformBuffers.flatMap (·.members)).map (·.type) ++
    (shader.readViews ++ shader.writeViews).map (·.element)

/-- A shader that keeps all rules. -/
structure WellFormed (shader : Shader) : Prop where
  /-- What stands in the profile before its first underscore is not for another stage. -/
  profile : ∀ stage : Stage, stage.profileLetters =
    String.ofList (shader.profile.toList.takeWhile (· ≠ '_')) → stage = shader.stage
  groupNames : ∀ group ∈ shader.variableGroups, (group.2.map (·.name)).Nodup
  streamVariableNames : ∀ stream ∈ shader.streams, (stream.outputs.map (·.name)).Nodup
  streamNames : (shader.streams.map (·.name)).Nodup
  structureNames : (shader.structures.map (·.name)).Nodup
  fieldNames : ∀ structure_ ∈ shader.structures, (structure_.members.map (·.name)).Nodup
  memberNames : ∀ buffer ∈ shader.uniformBuffers, (buffer.members.map (·.name)).Nodup
  bindingNames : ∀ category, ((shader.bindings category).map (·.1)).Nodup
  bindingSlots : ∀ category, ((shader.bindings category).map (·.2)).Nodup
  streams : shader.streams ≠ [] → shader.stage = .geometry ∧ shader.output = []
  inputPatch : shader.inputPatch ≠ [] → shader.stage = .domain
  outputPatch : shader.outputPatch ≠ [] → shader.stage = .hull
  patchCode : shader.patchCode ≠ [] → shader.stage = .hull
  types : ∀ type ∈ shader.declaredTypes, type.IsPossible shader.structures
  /-- Only patches are sized by tessellation factors. -/
  factors : ∀ v ∈ shader.stageVariables, ¬v.type.IsFactorArray
  offsets : ∀ buffer ∈ shader.uniformBuffers, buffer.InOrder
  fixedDeclared : ∀ pair ∈ shader.fixedSampling,
    (∃ view ∈ shader.readViews, view.name = pair.view) ∧
      ∃ sampler ∈ shader.samplers, sampler.name = pair.sampler
  fixedOnce : (shader.fixedSampling.map (·.view)).Nodup

end Shader

/-! ## Single checks -/

/-- Of two checks both have to pass. -/
@[simp] theorem check_then_eq_ok {first second : Check} :
    (first >>= fun _ => second) = .ok () ↔ first = .ok () ∧ second = .ok () := by
  cases first <;> simp

/-- A condition that holds has no fault, and one that does not has no other than its own. -/
theorem avoids_require {bad : Shader.Fault → Prop} {condition : Bool} {fault : Shader.Fault}
    (h : condition = true ∨ ¬bad fault) : Avoids bad (require condition fault) := by
  unfold require
  split
  · exact avoids_ok ()
  · rename_i hcondition
    exact avoids_error_iff.mpr (h.resolve_left hcondition)

namespace ValueType

variable {type : ValueType}

theorem isArrayOfArrays_iff : (type.arraySize?.isSome && type.element.arraySize?.isSome) = true ↔
    ∃ element inner outer, type = .array (.array element inner) outer := by
  cases type with
  | array element size => cases element <;> simp [arraySize?, ValueType.element]
  | _ => simp [arraySize?]

theorem arraySize?_eq_some_iff {size : ArraySize} :
    type.arraySize? = some size ↔ ∃ element, type = .array element size := by
  cases type <;> simp [arraySize?]

/-- Apart from arrays of arrays, a type is made of the structure that its elements are. -/
theorem structureName?_eq_structure?
    (h : ¬∃ element inner outer, type = .array (.array element inner) outer) :
    type.structureName? = type.structure? := by
  cases type with
  | array element size =>
    cases element with
    | array inner outer => exact absurd ⟨inner, outer, size, rfl⟩ h
    | _ => rfl
  | _ => rfl

end ValueType

theorem brokenRule?_eq_none_iff {structures : List Structure} {type : ValueType} :
    brokenRule? structures type = none ↔ type.IsPossible structures := by
  have hdeclared : ∀ name, structures.any (·.name == name) = true ↔
      ∃ s ∈ structures, s.name = name := by
    simp [List.any_eq_true]
  unfold brokenRule?
  split
  · rename_i hempty
    obtain ⟨element, rfl⟩ := ValueType.arraySize?_eq_some_iff.mp hempty
    simp only [reduceCtorEq, false_iff]
    intro h
    exact h.notEmpty element rfl
  · rename_i hempty
    split
    · rename_i hnested
      obtain ⟨element, inner, outer, rfl⟩ := ValueType.isArrayOfArrays_iff.mp hnested
      simp only [reduceCtorEq, false_iff]
      intro h
      exact h.notNested element inner outer rfl
    · rename_i hnested
      rw [ValueType.arraySize?_eq_some_iff] at hempty
      rw [ValueType.isArrayOfArrays_iff] at hnested
      rw [ValueType.structureName?_eq_structure? hnested]
      have hpossible : type.IsPossible structures ↔
          ∀ name, type.structure? = some name → ∃ s ∈ structures, s.name = name := by
        constructor
        · exact ValueType.IsPossible.declared
        · intro h
          exact ⟨fun element inner outer heq => hnested ⟨element, inner, outer, heq⟩,
            fun element heq => hempty ⟨element, heq⟩, h⟩
      rw [hpossible]
      cases hmade : type.structure? with
      | none => simp
      | some name =>
        simp only [Option.some.injEq, forall_eq', ← hdeclared name]
        split <;> simp_all

theorem requireType_eq_ok_iff {structures : List Structure} {type : ValueType}
    {fault : TypeRule → Shader.Fault} :
    requireType structures type fault = .ok () ↔ type.IsPossible structures := by
  rw [← brokenRule?_eq_none_iff, requireType]
  split <;> simp_all

/-- Names and slots are distinct, and none was seen before. -/
theorem checkBindings_eq_ok_iff {category : BindingCategory}
    {seen entries : List (String × UInt32)} :
    checkBindings category seen entries = .ok () ↔
      (entries.map (·.1)).Nodup ∧ (entries.map (·.2)).Nodup ∧
        ∀ entry ∈ entries, ∀ earlier ∈ seen, entry.1 ≠ earlier.1 ∧ entry.2 ≠ earlier.2 := by
  induction entries generalizing seen with
  | nil => simp [checkBindings]
  | cons entry rest ih =>
    obtain ⟨name, slot⟩ := entry
    simp only [checkBindings, check_then_eq_ok, require_eq_ok, ih, Bool.not_eq_true',
      List.any_eq_false, beq_iff_eq, List.map_cons, List.nodup_cons, List.mem_map, not_exists,
      not_and, List.mem_cons, forall_eq_or_imp]
    constructor
    · rintro ⟨hname, hslot, hnames, hslots, happart⟩
      refine ⟨⟨fun other hother => (happart other hother).1.1, hnames⟩,
        ⟨fun other hother => (happart other hother).1.2, hslots⟩, ?_, ?_⟩
      · intro earlier hearlier
        exact ⟨Ne.symm (hname earlier hearlier), Ne.symm (hslot earlier hearlier)⟩
      · intro other hother
        exact (happart other hother).2
    · rintro ⟨⟨hname, hnames⟩, ⟨hslot, hslots⟩, hentry, hrest⟩
      refine ⟨fun earlier hearlier => Ne.symm (hentry earlier hearlier).1,
        fun earlier hearlier => Ne.symm (hentry earlier hearlier).2, hnames, hslots, ?_⟩
      intro other hother
      exact ⟨⟨hname other hother, hslot other hother⟩, hrest other hother⟩

namespace Stage

theorem profileLetters_injective : Function.Injective profileLetters := by
  intro first second h
  cases first <;> cases second <;> first | rfl | exact absurd h (by decide)

/-- A profile is for the stage whose letters it begins with. -/
theorem ofProfile?_eq_some_iff {profile : String} {stage : Stage} :
    ofProfile? profile = some stage ↔
      stage.profileLetters = String.ofList (profile.toList.takeWhile (· ≠ '_')) := by
  unfold ofProfile?
  constructor
  · intro h
    simpa using List.find?_some h
  · intro h
    cases hfound : all.find? (·.profileLetters ==
        String.ofList (profile.toList.takeWhile (· ≠ '_'))) with
    | none =>
      have hnot := List.find?_eq_none.mp hfound stage (mem_all stage)
      simp [h] at hnot
    | some other =>
      have hother := List.find?_some hfound
      rw [beq_iff_eq, ← h] at hother
      exact congrArg some (profileLetters_injective hother)

end Stage

namespace Shader

/-- An offset is in line if it is a multiple of sixteen and greater than the one before it. -/
theorem inLine_iff {before : Option UInt32} {offset : UInt32} :
    (offset % 16 = 0 && before.all (· < offset)) = true ↔
      16 ∣ offset.toNat ∧ ∀ least ∈ before, least < offset := by
  have haligned : offset % 16 = 0 ↔ 16 ∣ offset.toNat := by
    rw [← UInt32.toNat_inj, UInt32.toNat_mod, Nat.dvd_iff_mod_eq_zero]
    rfl
  rw [Bool.and_eq_true, decide_eq_true_eq, haligned]
  cases before <;> simp

/-- Types are possible, offsets are multiples of sixteen and grow from `before` on. -/
theorem checkMembers_eq_ok_iff {structures : List Structure} {buffer : String}
    {before : Option UInt32} {members : List UniformMember} :
    checkMembers structures buffer before members = .ok () ↔
      (∀ member ∈ members, member.type.IsPossible structures) ∧
      (∀ member ∈ members, 16 ∣ member.offset.toNat) ∧
      (members.map (·.offset)).Pairwise (· < ·) ∧
      ∀ member ∈ members, ∀ least ∈ before, least < member.offset := by
  induction members generalizing before with
  | nil => simp [checkMembers]
  | cons member rest ih =>
    simp only [checkMembers, check_then_eq_ok, requireType_eq_ok_iff, require_eq_ok, ih,
      inLine_iff, List.forall_mem_cons, List.map_cons, List.pairwise_cons, List.forall_mem_map]
    constructor
    · rintro ⟨htype, ⟨hoffset, hleast⟩, htypes, hoffsets, hgrow, hafter⟩
      have hnext : ∀ later ∈ rest, member.offset < later.offset :=
        fun later hlater => hafter later hlater member.offset rfl
      refine ⟨⟨htype, htypes⟩, ⟨hoffset, hoffsets⟩, ⟨hnext, hgrow⟩, hleast, ?_⟩
      intro later hlater least hmem
      exact UInt32.lt_trans (hleast least hmem) (hnext later hlater)
    · rintro ⟨⟨htype, htypes⟩, ⟨hoffset, hoffsets⟩, ⟨hnext, hgrow⟩, hleast, -⟩
      refine ⟨htype, ⟨hoffset, hleast⟩, htypes, hoffsets, hgrow, ?_⟩
      rintro later hlater least ⟨⟩
      exact hnext later hlater

/-! ## The checks of a shader -/

variable {shader : Shader}

theorem checkProfile_eq_ok_iff :
    shader.checkProfile = .ok () ↔ ∀ stage : Stage, stage.profileLetters =
      String.ofList (shader.profile.toList.takeWhile (· ≠ '_')) → stage = shader.stage := by
  unfold checkProfile
  split
  · rename_i hnone
    simp only [true_iff]
    intro stage hstage
    exact absurd (Stage.ofProfile?_eq_some_iff.mpr hstage) (by simp [hnone])
  · rename_i meant hmeant
    have hletters := Stage.ofProfile?_eq_some_iff.mp hmeant
    rw [require_eq_ok, decide_eq_true_eq]
    constructor
    · intro h stage hstage
      rw [← h]
      exact Stage.profileLetters_injective (hstage.trans hletters.symm)
    · intro h
      exact h meant hletters

theorem checkVariableNames_eq_ok_iff :
    shader.checkVariableNames = .ok () ↔
      (∀ group ∈ shader.variableGroups, (group.2.map (·.name)).Nodup) ∧
      (∀ stream ∈ shader.streams, (stream.outputs.map (·.name)).Nodup) ∧
      (shader.streams.map (·.name)).Nodup := by
  simp only [checkVariableNames, check_then_eq_ok, checkAll_eq_ok, requireDistinct_eq_ok]

/-- A part passes if it is not declared or the stage may declare it. -/
private theorem part_eq_true_iff {part : StagePart} :
    (!shader.declares part || part.stage = shader.stage) = true ↔
      (shader.declares part = true → shader.stage = part.stage) := by
  cases shader.declares part <;> simp [eq_comm]

theorem checkStageParts_eq_ok_iff :
    shader.checkStageParts = .ok () ↔
      (shader.streams ≠ [] → shader.stage = .geometry ∧ shader.output = []) ∧
      (shader.inputPatch ≠ [] → shader.stage = .domain) ∧
      (shader.outputPatch ≠ [] → shader.stage = .hull) ∧
      (shader.patchCode ≠ [] → shader.stage = .hull) := by
  simp only [checkStageParts, check_then_eq_ok, checkAll_eq_ok, List.forall_mem_cons,
    require_eq_ok, part_eq_true_iff]
  simp only [declares, StagePart.stage, Bool.not_eq_true', List.isEmpty_eq_false_iff,
    Bool.and_eq_false_iff, decide_eq_false_iff_not]
  constructor
  · rintro ⟨⟨hstreams, hinput, houtput, hcode, -⟩, hplain⟩
    refine ⟨?_, hinput, houtput, hcode⟩
    intro hsome
    have hstage := hstreams hsome
    refine ⟨hstage, ?_⟩
    simpa [hstage, hsome] using hplain
  · rintro ⟨hstreams, hinput, houtput, hcode⟩
    refine ⟨⟨fun hsome => (hstreams hsome).1, hinput, houtput, hcode, by simp⟩, ?_⟩
    by_cases hsome : shader.streams = []
    · simp [hsome]
    · simp [(hstreams hsome).2]

theorem checkVariableTypes_eq_ok_iff :
    shader.checkVariableTypes = .ok () ↔
      (∀ v ∈ shader.patchVariables ++ shader.stageVariables,
        v.type.IsPossible shader.structures) ∧
      ∀ v ∈ shader.stageVariables, ¬v.type.IsFactorArray := by
  have hfactors : ∀ type : ValueType,
      (!type.arraySize?.any (·.needsDomain)) = true ↔ ¬type.IsFactorArray := by
    intro type
    cases type <;> simp [ValueType.arraySize?, ValueType.IsFactorArray]
  simp only [checkVariableTypes, check_then_eq_ok, checkAll_eq_ok, requireType_eq_ok_iff,
    require_eq_ok, hfactors, List.forall_mem_append]
  constructor
  · rintro ⟨hpatch, hstage⟩
    exact ⟨⟨hpatch, fun v hv => (hstage v hv).1⟩, fun v hv => (hstage v hv).2⟩
  · rintro ⟨⟨hpatch, hstage⟩, hnone⟩
    exact ⟨hpatch, fun v hv => ⟨hstage v hv, hnone v hv⟩⟩

theorem checkStructures_eq_ok_iff :
    shader.checkStructures = .ok () ↔
      (∀ structure_ ∈ shader.structures, (structure_.members.map (·.name)).Nodup) ∧
      ∀ field ∈ shader.structures.flatMap (·.members), field.type.IsPossible shader.structures := by
  simp only [checkStructures, check_then_eq_ok, checkAll_eq_ok, requireDistinct_eq_ok,
    requireType_eq_ok_iff, List.mem_flatMap, forall_exists_index, and_imp]
  constructor
  · intro h
    exact ⟨fun s hs => (h s hs).1, fun field s hs hfield => (h s hs).2 field hfield⟩
  · rintro ⟨hnames, htypes⟩ s hs
    exact ⟨hnames s hs, fun field hfield => htypes field s hs hfield⟩

theorem checkUniformBuffers_eq_ok_iff :
    shader.checkUniformBuffers = .ok () ↔
      (∀ buffer ∈ shader.uniformBuffers, (buffer.members.map (·.name)).Nodup) ∧
      (∀ member ∈ shader.uniformBuffers.flatMap (·.members),
        member.type.IsPossible shader.structures) ∧
      ∀ buffer ∈ shader.uniformBuffers, buffer.InOrder := by
  have hnone : ∀ offset : UInt32, ∀ least ∈ (none : Option UInt32), least < offset := by simp
  simp only [checkUniformBuffers, check_then_eq_ok, checkAll_eq_ok, requireDistinct_eq_ok,
    checkMembers_eq_ok_iff, List.mem_flatMap, forall_exists_index, and_imp]
  constructor
  · intro h
    refine ⟨fun b hb => (h b hb).1, fun member b hb hmember => (h b hb).2.1 member hmember, ?_⟩
    intro b hb
    exact ⟨(h b hb).2.2.1, (h b hb).2.2.2.1⟩
  · rintro ⟨hnames, htypes, horder⟩ b hb
    exact ⟨hnames b hb, fun member hmember => htypes member b hb hmember, (horder b hb).aligned,
      (horder b hb).increasing, fun member _ => hnone member.offset⟩

theorem checkSlots_eq_ok_iff :
    shader.checkSlots = .ok () ↔
      (∀ category, ((shader.bindings category).map (·.1)).Nodup) ∧
      ∀ category, ((shader.bindings category).map (·.2)).Nodup := by
  have hall : ∀ P : BindingCategory → Prop, (∀ category, P category) ↔
      P .uniformBuffer ∧ P .sampler ∧ P .readView ∧ P .writeView := by
    intro P
    constructor
    · intro h
      exact ⟨h _, h _, h _, h _⟩
    · rintro ⟨hbuffer, hsampler, hread, hwrite⟩ category
      cases category <;> assumption
  have hfresh : ∀ category entries, checkBindings category [] entries = .ok () ↔
      (entries.map (·.1)).Nodup ∧ (entries.map (·.2)).Nodup := by
    simp [checkBindings_eq_ok_iff]
  rw [← forall_and, hall]
  simp only [checkSlots, check_then_eq_ok, hfresh, bindings]

theorem checkViews_eq_ok_iff :
    shader.checkViews = .ok () ↔
      ∀ view ∈ shader.readViews ++ shader.writeViews,
        view.element.IsPossible shader.structures := by
  simp only [checkViews, checkAll_eq_ok, requireType_eq_ok_iff]

theorem checkFixedSampling_eq_ok_iff :
    shader.checkFixedSampling = .ok () ↔
      (∀ pair ∈ shader.fixedSampling, (∃ view ∈ shader.readViews, view.name = pair.view) ∧
        ∃ sampler ∈ shader.samplers, sampler.name = pair.sampler) ∧
      (shader.fixedSampling.map (·.view)).Nodup := by
  simp only [checkFixedSampling, check_then_eq_ok, checkAll_eq_ok, require_eq_ok,
    requireDistinct_eq_ok, List.any_eq_true, beq_iff_eq]

/-- Validation accepts the shaders that keep all rules, and no others. -/
theorem validate_eq_ok_iff : shader.validate = .ok () ↔ shader.WellFormed := by
  have htypes : (∀ type ∈ shader.declaredTypes, type.IsPossible shader.structures) ↔
      (∀ v ∈ shader.patchVariables ++ shader.stageVariables,
        v.type.IsPossible shader.structures) ∧
      (∀ field ∈ shader.structures.flatMap (·.members),
        field.type.IsPossible shader.structures) ∧
      (∀ member ∈ shader.uniformBuffers.flatMap (·.members),
        member.type.IsPossible shader.structures) ∧
      ∀ view ∈ shader.readViews ++ shader.writeViews,
        view.element.IsPossible shader.structures := by
    simp only [declaredTypes, List.forall_mem_append, List.forall_mem_map, and_assoc]
  simp only [validate, check_then_eq_ok, checkProfile_eq_ok_iff, checkVariableNames_eq_ok_iff,
    checkStageParts_eq_ok_iff, requireDistinct_eq_ok, checkVariableTypes_eq_ok_iff,
    checkStructures_eq_ok_iff, checkUniformBuffers_eq_ok_iff, checkSlots_eq_ok_iff,
    checkViews_eq_ok_iff, checkFixedSampling_eq_ok_iff]
  constructor
  · rintro ⟨hprofile, ⟨hgroups, houtputs, hstreams⟩, ⟨hgeometry, hinput, houtput, hcode⟩,
      hstructures, ⟨hvariables, hfactors⟩, ⟨hfields, hfieldTypes⟩,
      ⟨hmembers, hmemberTypes, horder⟩, ⟨hnames, hslots⟩, hviews, hfixed, honce⟩
    exact {
      profile := hprofile
      groupNames := hgroups
      streamVariableNames := houtputs
      streamNames := hstreams
      structureNames := hstructures
      fieldNames := hfields
      memberNames := hmembers
      bindingNames := hnames
      bindingSlots := hslots
      streams := hgeometry
      inputPatch := hinput
      outputPatch := houtput
      patchCode := hcode
      types := htypes.mpr ⟨hvariables, hfieldTypes, hmemberTypes, hviews⟩
      factors := hfactors
      offsets := horder
      fixedDeclared := hfixed
      fixedOnce := honce }
  · intro h
    obtain ⟨hvariables, hfieldTypes, hmemberTypes, hviews⟩ := htypes.mp h.types
    exact ⟨h.profile, ⟨h.groupNames, h.streamVariableNames, h.streamNames⟩,
      ⟨h.streams, h.inputPatch, h.outputPatch, h.patchCode⟩, h.structureNames,
      ⟨hvariables, h.factors⟩, ⟨h.fieldNames, hfieldTypes⟩,
      ⟨h.memberNames, hmemberTypes, h.offsets⟩, ⟨h.bindingNames, h.bindingSlots⟩, hviews,
      h.fixedDeclared, h.fixedOnce⟩

end Shader

end CrossShade
