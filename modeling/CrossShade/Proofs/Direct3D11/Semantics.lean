import CrossShade.Proofs.Direct3D11.Members
import CrossShade.Proofs.Hlsl.Semantics

/-!
# Semantics within one structure

A description gives semantics to some variables, and for the others their names stand.  Neither
looks at the other, and a name that ends in a digit gets an underscore that another name may have.

* `Source.boundMembers` are the members of the structure of a group with what they are bound to, and
  `boundMembers_eq` says that a member is bound to the semantic of its variable.
* `Aliases` are the two ways in which a name comes to stand for the semantic of another variable.
* `nodup_semantics_iff` says that these are the only ones, when neither names nor given semantics
  are the same but for letter case.
-/

namespace CrossShade

/-- The members of the structure of a group, each with what it is bound to. -/
def Source.boundMembers (text : Source) (shader : Shader) (group : InterfaceGroup) :
    List (String × Option String) :=
  ((text.grouped shader).filter (·.1 = shader.structureName group)).flatMap fun s =>
    s.2.map fun d => (d.name, d.boundTo)

namespace Direct3D11

variable {shader : Shader} {text : Source} {group : InterfaceGroup} {vars : List Variable}
  {v w : Variable}

theorem boundMembers_eq (hformed : shader.WellFormed) (h : source shader = .ok text)
    (hgroup : group ∈ Target.direct3D11.interfaceGroups shader) :
    text.boundMembers shader group =
      (shader.shown group.vars).map fun v => (v.name, some (semanticOf v)) := by
  rw [Source.boundMembers, filter_grouped hformed h hgroup]
  by_cases hnone : shader.shown group.vars = []
  · rw [structOf_eq_none_iff.mpr hnone, hnone]
    rfl
  · simp [structOf, hnone, member]

/-! ## Names that stand for semantics -/

/-- Whether a name ends in a digit. -/
def endsInDigit (name : String) : Bool :=
  name.toList.getLast?.any Char.isDigit

theorem endsInDigit_upper (name : String) : endsInDigit (Text.upper name) = endsInDigit name := by
  have hsame : (fun c : Char => c.toUpper.isDigit) = Char.isDigit := funext Text.isDigit_toUpper
  rw [endsInDigit, Text.toList_upper, List.getLast?_map, Option.any_map, hsame, endsInDigit]

theorem endsInDigit_underscore (name : String) : endsInDigit (name ++ "_") = false := by
  rw [endsInDigit, String.toList_append, List.getLast?_append]
  rfl

theorem ownSemantic_eq (name : String) :
    ownSemantic name = if endsInDigit name then Text.upper name ++ "_" else Text.upper name := by
  rw [← endsInDigit_upper]
  rfl

/-- Names that stand for one semantic are the same but for letter case, or one of them ends in a
digit and the other has an underscore behind that. -/
theorem ownSemantic_cases {first second : String} (h : ownSemantic first = ownSemantic second) :
    Text.upper first = Text.upper second ∨
      (endsInDigit first = true ∧ Text.upper second = Text.upper first ++ "_") ∨
      (endsInDigit second = true ∧ Text.upper first = Text.upper second ++ "_") := by
  rw [ownSemantic_eq, ownSemantic_eq] at h
  cases hfirst : endsInDigit first <;> cases hsecond : endsInDigit second <;>
    simp only [hfirst, hsecond, if_true, if_false, Bool.false_eq_true] at h
  · exact .inl h
  · exact .inr (.inr ⟨rfl, h⟩)
  · exact .inr (.inl ⟨rfl, h.symm⟩)
  · exact .inl ((String.append_left_inj "_").mp h)

theorem upper_semanticOf (v : Variable) :
    Text.upper (semanticOf v) = (v.semantic.map Text.upper).getD (ownSemantic v.name) := by
  unfold semanticOf
  cases v.semantic with
  | none => exact upper_ownSemantic v.name
  | some semantic => rfl

/-- The name of the first variable stands for the semantic of the second: that is given there, or
the second name is the first, which ends in a digit, with an underscore behind it. -/
def Aliases (v w : Variable) : Prop :=
  v.semantic = none ∧
    (w.semantic.map Text.upper = some (ownSemantic v.name) ∨
      w.semantic = none ∧ endsInDigit v.name = true ∧
        Text.upper w.name = Text.upper v.name ++ "_")

instance (v w : Variable) : Decidable (Aliases v w) :=
  inferInstanceAs (Decidable (_ ∧ _))

theorem Aliases.upper_semanticOf_eq (h : Aliases v w) :
    Text.upper (semanticOf v) = Text.upper (semanticOf w) := by
  obtain ⟨hnone, hgiven | ⟨hother, hdigit, hname⟩⟩ := h
  · rw [upper_semanticOf, upper_semanticOf, hgiven, hnone]
    rfl
  · have hword : endsInDigit w.name = false := by
      rw [← endsInDigit_upper, hname, endsInDigit_underscore]
    rw [upper_semanticOf, upper_semanticOf, hnone, hother]
    change ownSemantic v.name = ownSemantic w.name
    rw [ownSemantic_eq, ownSemantic_eq, hdigit, hword, if_pos rfl, if_neg Bool.false_ne_true, hname]

theorem not_aliases_self (v : Variable) : ¬Aliases v v := by
  rintro ⟨hnone, hgiven | ⟨-, hdigit, hname⟩⟩
  · rw [hnone] at hgiven
    cases hgiven
  · rw [← endsInDigit_upper, hname, endsInDigit_underscore] at hdigit
    cases hdigit

/-- What is kept of a list is distinct only if it is kept of one element. -/
theorem eq_of_nodup_filterMap {α β : Type} {f : α → Option β} {list : List α} {x y : α} {b : β}
    (h : (list.filterMap f).Nodup) (hx : x ∈ list) (hy : y ∈ list) (hfx : f x = some b)
    (hfy : f y = some b) : x = y := by
  induction list with
  | nil => cases hx
  | cons first rest ih =>
    have honce : ∀ z ∈ rest, f z = some b → f first ≠ some b := by
      intro z hz hfz hfirst
      rw [List.filterMap_cons_some hfirst] at h
      exact (List.nodup_cons.mp h).1 (List.mem_filterMap.mpr ⟨z, hz, hfz⟩)
    rcases List.mem_cons.mp hx with rfl | hxrest <;> rcases List.mem_cons.mp hy with rfl | hyrest
    · rfl
    · exact absurd hfx (honce y hyrest hfy)
    · exact absurd hfy (honce x hxrest hfx)
    · refine ih (h.sublist ?_) hxrest hyrest
      exact (List.sublist_cons_self first rest).filterMap f

/-- Variables with distinct names and, if they are given, distinct semantics have one semantic only
where the name of one stands for the semantic of another. -/
theorem eq_or_aliases (hnames : (vars.map fun v => Text.upper v.name).Nodup)
    (hgiven : ((vars.filterMap (·.semantic)).map Text.upper).Nodup) (hv : v ∈ vars) (hw : w ∈ vars)
    (h : Text.upper (semanticOf v) = Text.upper (semanticOf w)) :
    v = w ∨ Aliases v w ∨ Aliases w v := by
  rw [upper_semanticOf, upper_semanticOf] at h
  cases hfirst : v.semantic with
  | none =>
    cases hsecond : w.semantic with
    | none =>
      rw [hfirst, hsecond] at h
      rcases ownSemantic_cases h with hsame | ⟨hdigit, hname⟩ | ⟨hdigit, hname⟩
      · exact .inl (List.inj_on_of_nodup_map hnames hv hw hsame)
      · exact .inr (.inl ⟨hfirst, .inr ⟨hsecond, hdigit, hname⟩⟩)
      · exact .inr (.inr ⟨hsecond, .inr ⟨hfirst, hdigit, hname⟩⟩)
    | some semantic =>
      rw [hfirst, hsecond] at h
      exact .inr (.inl ⟨hfirst, .inl (by rw [hsecond]; exact congrArg some h.symm)⟩)
  | some semantic =>
    cases hsecond : w.semantic with
    | none =>
      rw [hfirst, hsecond] at h
      exact .inr (.inr ⟨hsecond, .inl (by rw [hfirst]; exact congrArg some h)⟩)
    | some other =>
      rw [hfirst, hsecond] at h
      have hsame : Text.upper semantic = Text.upper other := h
      rw [List.map_filterMap] at hgiven
      refine .inl (eq_of_nodup_filterMap hgiven hv hw (b := Text.upper other) ?_ ?_)
      · rw [hfirst, Option.map_some, hsame]
      · rw [hsecond, Option.map_some]

/-- The semantics of such variables are distinct if no name stands for that of another variable. -/
theorem nodup_map_semanticOf_iff (hnames : (vars.map fun v => Text.upper v.name).Nodup)
    (hgiven : ((vars.filterMap (·.semantic)).map Text.upper).Nodup) :
    (vars.map fun v => Text.upper (semanticOf v)).Nodup ↔
      ∀ v ∈ vars, ∀ w ∈ vars, ¬Aliases v w := by
  rw [List.nodup_map_iff_inj_on hnames.of_map]
  constructor
  · intro hdistinct v hv w hw haliases
    obtain rfl := hdistinct v hv w hw haliases.upper_semanticOf_eq
    exact not_aliases_self v haliases
  · intro hnone v hv w hw hsame
    rcases eq_or_aliases hnames hgiven hv hw hsame with heq | halias | halias
    · exact heq
    · exact absurd halias (hnone v hv w hw)
    · exact absurd halias (hnone w hw v hv)

/-- Where the variables of a group have distinct names and the semantics that are given are
distinct, letter case aside, its structure binds each variable that is shown to a semantic.  These
are distinct if and only if no name stands for the semantic of another variable that is shown. -/
theorem nodup_semantics_iff {name : String} {stage : Stage} {additions : List Addition}
    (hbuild : Shader.build name stage additions = .ok shader) (htext : source shader = .ok text)
    (hgroup : group ∈ Target.direct3D11.interfaceGroups shader)
    (hnames : (group.vars.map fun v => Text.upper v.name).Nodup)
    (hgiven : ((group.vars.filterMap (·.semantic)).map Text.upper).Nodup) :
    text.boundMembers shader group =
        (shader.shown group.vars).map (fun v => (v.name, some (semanticOf v))) ∧
      (((text.boundMembers shader group).map fun d => d.2.map Text.upper).Nodup ↔
        ∀ v ∈ shader.shown group.vars, ∀ w ∈ shader.shown group.vars, ¬Aliases v w) := by
  have hbindings := boundMembers_eq (Shader.wellFormed_of_build hbuild) htext hgroup
  have hshown : (shader.shown group.vars).Sublist group.vars := List.filter_sublist
  refine ⟨hbindings, ?_⟩
  rw [hbindings, List.map_map, ← nodup_map_semanticOf_iff (hnames.sublist (hshown.map _))
    (hgiven.sublist ((hshown.filterMap _).map _)),
    ← List.nodup_map_iff (Option.some_injective String), List.map_map]
  rfl

/-- A vertex shader with numbers in names and in semantics. -/
def tinted : Shader where
  name := "Tinted"
  stage := .vertex
  output := [{ type := .float4, name := "place", semantic := "SV_Position" },
    { type := .vector .float 2, name := "Uv1" }, { type := .vector .float 2, name := "Uv2" },
    { type := .float4, name := "Color" },
    { type := .float4, name := "Tint", semantic := "color0" },
    { type := .float4, name := "Uv1_", isUsed := false }]

/-- Its semantics are distinct: the output whose name has the underscore is not used. -/
theorem nodup_semantics_iff_tinted : ∃ text,
    Shader.build "Tinted" .vertex tinted.additions = .ok tinted ∧ source tinted = .ok text ∧
      text.boundMembers tinted ⟨"Output", tinted.output⟩ = [("place", some "SV_Position"),
        ("Uv1", some "UV1_"), ("Uv2", some "UV2_"), ("Color", some "COLOR"),
        ("Tint", some "color0")] ∧
      ((text.boundMembers tinted ⟨"Output", tinted.output⟩).map
        fun d => d.2.map Text.upper).Nodup := by
  have hbuild : Shader.build "Tinted" .vertex tinted.additions = .ok tinted := by decide +kernel
  obtain ⟨text, htext⟩ : ∃ text, source tinted = .ok text := exists_of_isOk (by decide +kernel)
  have hgroup : ⟨"Output", tinted.output⟩ ∈ Target.direct3D11.interfaceGroups tinted := by
    simp [Target.interfaceGroups, tinted]
  obtain ⟨hbindings, hdistinct⟩ :=
    nodup_semantics_iff hbuild htext hgroup (by decide +kernel) (by decide +kernel)
  refine ⟨text, hbuild, htext, hbindings.trans (by decide +kernel), hdistinct.mpr ?_⟩
  decide +kernel

/-- A vertex shader in which the name of one output is the semantic of another. -/
def stained : Shader where
  name := "Stained"
  stage := .vertex
  output := [{ type := .float4, name := "Color" },
    { type := .float4, name := "Tint", semantic := "COLOR" }]

/-- Names that are identifiers and distinct, and distinct given semantics, do not make the semantics
of a structure distinct. -/
theorem exists_semantics_not_nodup : ∃ text,
    Shader.build "Stained" .vertex stained.additions = .ok stained ∧ source stained = .ok text ∧
      ⟨"Output", stained.output⟩ ∈ Target.direct3D11.interfaceGroups stained ∧
      (∀ v ∈ stained.output, Text.isIdentifier v.name.toList = true) ∧
      (stained.output.map fun v => Text.upper v.name).Nodup ∧
      ((stained.output.filterMap (·.semantic)).map Text.upper).Nodup ∧
      text.boundMembers stained ⟨"Output", stained.output⟩ =
        [("Color", some "COLOR"), ("Tint", some "COLOR")] := by
  have hbuild : Shader.build "Stained" .vertex stained.additions = .ok stained := by decide +kernel
  obtain ⟨text, htext⟩ : ∃ text, source stained = .ok text := exists_of_isOk (by decide +kernel)
  have hgroup : ⟨"Output", stained.output⟩ ∈ Target.direct3D11.interfaceGroups stained := by
    simp [Target.interfaceGroups, stained]
  refine ⟨text, hbuild, htext, hgroup, by decide +kernel, by decide +kernel, by decide +kernel, ?_⟩
  rw [boundMembers_eq (Shader.wellFormed_of_build hbuild) htext hgroup]
  decide +kernel

end Direct3D11

end CrossShade
