import CrossShade.Proofs.Source.Resources

/-!
# Groups of variables

A source text passes variables in structures, one for each group of them that has something to show.

* `Target.interfaceGroups` are the groups for which a target has structures, and `Shader.shown`
  what of a group a structure shows.
* `Target.Passes` says which structure, if any, a group gets; `passes_of_interfaceStruct` says that
  this is the one that is made for it.
-/

namespace CrossShade

open Source

/-- Variables that are passed in one structure, with the role of that structure. -/
structure InterfaceGroup where
  role : String
  vars : List Variable

/-- The name of the structure for a group. -/
def Shader.structureName (shader : Shader) (group : InterfaceGroup) : String :=
  interfaceName shader.stage group.role

/-- What a geometry shader puts out: each of its streams or, without streams, its outputs. -/
def Shader.streamGroups (shader : Shader) : List InterfaceGroup :=
  if shader.streams.isEmpty then [⟨"Output", shader.output⟩]
  else shader.streams.zipIdx.map fun (stream, number) => ⟨s!"Output{number}", stream.outputs⟩

/-- What the streams are told apart by: their numbers, or nothing if there is only one. -/
def Shader.streamSuffixes (shader : Shader) : List String :=
  if shader.streams.isEmpty then [""]
  else shader.streams.zipIdx.map fun (_, number) => toString number

/-- The groups for which a target has structures. -/
def Target.interfaceGroups (target : Target) (shader : Shader) : List InterfaceGroup :=
  match shader.stage with
  | .vertex | .pixel => [⟨"Input", shader.input⟩, ⟨"Output", shader.output⟩]
  | .compute =>
    if target = .openGL then [⟨"Input", shader.input⟩, ⟨"Output", shader.output⟩]
    else [⟨"Input", shader.input⟩]
  | .hull =>
    [⟨"Input", shader.input⟩, ⟨"Output", shader.output⟩, ⟨"OutputPatch", shader.outputPatch⟩]
  | .domain =>
    [⟨"Input", shader.input⟩, ⟨"InputPatch", shader.inputPatch⟩,
      ⟨"InputExtra", shader.inputExtra⟩, ⟨"Output", shader.output⟩]
  | .geometry => ⟨"Input", shader.input⟩ :: shader.streamGroups

/-- The length of a variable, if it is an array: a number or, where it is sized by tessellation
factors, how many the domain of the shader has. -/
def Shader.lengthOf (shader : Shader) (v : Variable) : Option UInt32 :=
  v.type.arraySize?.bind (·.resolve shader.tessellationDomain.toOption)

/-- The variables that a structure shows: those that are used and not of length zero. -/
def Shader.shown (shader : Shader) (vars : List Variable) : List Variable :=
  vars.filter fun v => v.isUsed && shader.lengthOf v ≠ some 0

/-- The structure shows the variables of a group, one by one, each with its length. -/
structure Target.Shows (target : Target) (shader : Shader) (group : InterfaceGroup)
    (s : InterfaceStruct) : Prop where
  name : s.name = shader.structureName group
  nonempty : shader.shown group.vars ≠ []
  members : List.Forall₂ (fun v => target.Declares v.name v.type (shader.lengthOf v))
    (shader.shown group.vars) s.members

/-- A group has a structure if there is something to show. -/
def Target.Passes (target : Target) (shader : Shader) (group : InterfaceGroup) :
    Option InterfaceStruct → Prop
  | none => shader.shown group.vars = []
  | some s => target.Shows shader group s

/-- With some domain, or none, variables are of the length that they have in the shader, and no
array is declared to be empty. -/
def Shader.Sizes (shader : Shader) (domain : Option TessellationDomain) (vars : List Variable) :
    Prop :=
  ∀ v ∈ vars, (∀ element, v.type ≠ .array element (.fixed 0)) ∧
    v.type.arraySize?.bind (·.resolve domain) = shader.lengthOf v

section Groups

variable {shader : Shader} {target : Target} {role : String} {vars : List Variable} {v : Variable}
  {domain : Option TessellationDomain}

theorem Shader.WellFormed.ne_empty (h : shader.WellFormed)
    (hv : v ∈ shader.patchVariables ++ shader.stageVariables) (element : ValueType) :
    v.type ≠ .array element (.fixed 0) := by
  refine (h.types v.type ?_).notEmpty element
  simp only [Shader.declaredTypes, List.mem_append]
  exact .inl (.inl (.inl (List.mem_map_of_mem (List.mem_append.mpr (List.mem_append.mp hv)))))

/-- Outside patches lengths do not depend on the domain. -/
theorem Shader.WellFormed.sizes_stage (h : shader.WellFormed)
    (hvars : vars ⊆ shader.stageVariables) : shader.Sizes none vars := by
  intro v hv
  refine ⟨h.ne_empty (List.mem_append_right _ (hvars hv)), ?_⟩
  have hfactors := h.factors v (hvars hv)
  unfold Shader.lengthOf
  cases htype : v.type with
  | array element size =>
    cases size with
    | fixed length => rfl
    | outerFactors => exact absurd ⟨element, _, htype, rfl⟩ hfactors
    | innerFactors => exact absurd ⟨element, _, htype, rfl⟩ hfactors
  | _ => rfl

theorem Shader.WellFormed.sizes_patch (h : shader.WellFormed) {known : TessellationDomain}
    (hdomain : shader.tessellationDomain = .ok known) (hvars : vars ⊆ shader.patchVariables) :
    shader.Sizes (some known) vars := by
  intro v hv
  refine ⟨h.ne_empty (List.mem_append_left _ (hvars hv)), ?_⟩
  rw [Shader.lengthOf, hdomain]
  rfl

theorem Shader.input_subset (shader : Shader) : shader.input ⊆ shader.stageVariables :=
  fun _ hv => by simp [stageVariables, hv]

theorem Shader.output_subset (shader : Shader) : shader.output ⊆ shader.stageVariables :=
  fun _ hv => by simp [stageVariables, hv]

theorem Shader.inputExtra_subset (shader : Shader) : shader.inputExtra ⊆ shader.stageVariables :=
  fun _ hv => by simp [stageVariables, hv]

/-- Only arrays sized by tessellation factors need a domain to have a length. -/
theorem exists_memberLength {type : ValueType} (name : String)
    (hdomain : domain = none → ¬type.IsFactorArray) :
    ∃ length, memberLength name type domain = .ok length := by
  unfold memberLength
  split
  · exact ⟨_, rfl⟩
  · exact ⟨_, rfl⟩
  · rename_i size hfixed hsize
    obtain ⟨element, rfl⟩ := ValueType.arraySize?_eq_some_iff.mp hsize
    cases domain with
    | none =>
      refine absurd ⟨element, size, rfl, ?_⟩ (hdomain rfl)
      cases size with
      | fixed length => exact absurd rfl (hfixed length)
      | outerFactors => rfl
      | innerFactors => rfl
    | some known => cases size <;> exact ⟨_, rfl⟩

/-- A member is left out for a length of zero only, and is declared with the length otherwise. -/
theorem memberLength_eq_ok {name : String} {type : ValueType} {length : MemberLength}
    (hsome : ∀ element, type ≠ .array element (.fixed 0))
    (h : memberLength name type domain = .ok length) :
    (length = .omitted ↔ type.arraySize?.bind (·.resolve domain) = some 0) ∧
      (length ≠ .omitted → length.length? = type.arraySize?.bind (·.resolve domain)) := by
  unfold memberLength at h
  split at h
  · rename_i hsize
    cases h
    simp [hsize, MemberLength.length?]
  · rename_i fixed hsize
    cases h
    obtain ⟨element, rfl⟩ := ValueType.arraySize?_eq_some_iff.mp hsize
    have hne : fixed ≠ 0 := fun hzero => hsome element (hzero ▸ rfl)
    simp [hsize, ArraySize.resolve, MemberLength.length?, hne]
  · rename_i size _ hsize
    rw [hsize, Option.bind_some]
    split at h
    · cases h
    · rename_i found hfound
      cases h
      by_cases hzero : found = 0 <;> simp [hfound, hzero, MemberLength.length?]

/-- The members of an interface structure declare the variables that are shown, one by one and each
with its length. -/
theorem forall₂_interfaceMembers
    {declare : Variable → MemberLength → Except ShaderError Declaration}
    {members : List Declaration} (hsizes : shader.Sizes domain vars)
    (h : interfaceMembers shader domain declare vars = .ok members) :
    List.Forall₂ (fun v d => ∃ length, declare v length = .ok d ∧
      length.length? = shader.lengthOf v) (shader.shown vars) members := by
  induction vars generalizing members with
  | nil =>
    cases h
    exact .nil
  | cons v rest ih =>
    obtain ⟨hsome, hlengthOf⟩ := hsizes v List.mem_cons_self
    have hrest : shader.Sizes domain rest := fun w hw => hsizes w (List.mem_cons_of_mem _ hw)
    rw [interfaceMembers] at h
    split at h
    · rename_i hunused
      have hskip : shader.shown (v :: rest) = shader.shown rest :=
        List.filter_cons_of_neg (by simp_all)
      rw [hskip]
      exact ih hrest h
    · rename_i hused
      obtain ⟨length, hlength, h⟩ := bind_eq_ok.mp h
      have hmember : memberLength v.name v.type domain = .ok length := by
        cases hresult : memberLength v.name v.type domain with
        | error fault => rw [hresult] at hlength; cases hlength
        | ok known => rw [hresult] at hlength; cases hlength; rfl
      obtain ⟨homitted, hknown⟩ := memberLength_eq_ok hsome hmember
      rw [hlengthOf] at homitted hknown
      split at h
      · have hskip : shader.shown (v :: rest) = shader.shown rest :=
          List.filter_cons_of_neg (by simp [homitted.mp rfl])
        rw [hskip]
        exact ih hrest h
      · rename_i hdeclared
        have hkeep : shader.shown (v :: rest) = v :: shader.shown rest :=
          List.filter_cons_of_pos (by simp_all)
        simp only [bind_eq_ok, pure_eq_ok] at h
        obtain ⟨d, hd, following, hfollowing, rfl⟩ := h
        rw [hkeep]
        exact .cons ⟨length, hd, hknown hdeclared⟩ (ih hrest hfollowing)

/-- A structure is made where every variable can be sized and declared. -/
theorem avoids_interfaceStruct {bad : ShaderError → Prop}
    {declare : Variable → MemberLength → Except ShaderError Declaration}
    (hsized : ∀ v ∈ vars, domain = none → ¬v.type.IsFactorArray)
    (hdeclare : ∀ v ∈ vars, v.isUsed = true → ∀ length, Avoids bad (declare v length)) :
    Avoids bad (interfaceStruct shader role domain declare vars) := by
  refine avoids_bind_iff.mpr ⟨?_, fun _ _ => avoids_pure _⟩
  induction vars with
  | nil => exact avoids_ok []
  | cons v rest ih =>
    obtain ⟨hv, hrest⟩ := List.forall_mem_cons.mp hsized
    obtain ⟨hd, hdeclared⟩ := List.forall_mem_cons.mp hdeclare
    rw [interfaceMembers]
    split
    · exact ih hrest hdeclared
    · rename_i hused
      obtain ⟨length, hlength⟩ := exists_memberLength v.name hv
      rw [hlength]
      refine avoids_bind_iff.mpr ⟨avoids_ok length, fun known _ => ?_⟩
      split
      · exact ih hrest hdeclared
      · have hmember := hd (by simpa using hused)
        simp [hmember, ih hrest hdeclared]

theorem passes_of_interfaceStruct
    {declare : Variable → MemberLength → Except ShaderError Declaration}
    {s : Option InterfaceStruct}
    (hdeclare : ∀ v length d, declare v length = .ok d →
      target.Declares v.name v.type length.length? d)
    (hsizes : shader.Sizes domain vars)
    (h : interfaceStruct shader role domain declare vars = .ok s) :
    target.Passes shader ⟨role, vars⟩ s := by
  simp only [interfaceStruct, bind_eq_ok, pure_eq_ok] at h
  obtain ⟨members, hmembers, rfl⟩ := h
  have hdeclared : List.Forall₂ (fun v => target.Declares v.name v.type (shader.lengthOf v))
      (shader.shown vars) members := by
    refine (forall₂_interfaceMembers hsizes hmembers).imp ?_
    rintro v d ⟨length, hd, hlength⟩
    exact hlength ▸ hdeclare v length d hd
  cases members with
  | nil => exact List.forall₂_nil_right_iff.mp hdeclared
  | cons d rest =>
    refine ⟨rfl, fun hnone => ?_, hdeclared⟩
    simp only [hnone] at hdeclared
    cases hdeclared

end Groups

end CrossShade
