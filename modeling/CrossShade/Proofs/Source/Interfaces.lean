import CrossShade.Proofs.Shader.Building
import CrossShade.Proofs.Source.TypeNames
import Mathlib.Data.List.ReduceOption

/-!
# Interface structures in source texts

The functions of a source text and the structures by which variables are passed fit together.

* `Source.outline` are the structures and functions of a text in their order, and `exists_outline`
  finds the structures of the shader, those for groups of variables and the functions in it.
* Every group has a structure of its own (`nodup_structureNames`, `Passing`).
* `interfaces_match` is the conclusion.
-/

namespace CrossShade

open Source

/-! ## Outline -/

/-- Whether an item is a structure or a function. -/
def Source.Item.isOutline : Item → Bool
  | .struct .. | .function _ => true
  | _ => false

/-- The structures and functions of a text. -/
def Source.outline (text : Source) : List Item :=
  text.items.filter (·.isOutline)

section Outline

variable {text : Source} {target : Target} {shader : Shader} {version : OpenGL.Version}

theorem mem_outline {item : Item} (h : item.isOutline = true) :
    item ∈ text.outline ↔ item ∈ text.items := by
  rw [outline, List.mem_filter, and_iff_left h]

theorem functions_outline (text : Source) : functions ⟨text.outline⟩ = text.functions := by
  rw [functions, functions, outline, List.filterMap_filter]
  refine List.filterMap_congr fun item _ => ?_
  cases item <;> rfl

theorem functions_append (first second : List Item) :
    functions ⟨first ++ second⟩ = functions ⟨first⟩ ++ functions ⟨second⟩ :=
  List.filterMap_append ..

theorem mem_structs_iff {name : String} {members : List Declaration} :
    (name, members) ∈ text.structs ↔ .struct name members ∈ text.outline := by
  rw [mem_outline rfl, structs, List.mem_filterMap]
  constructor
  · rintro ⟨item, hitem, hs⟩
    cases item <;> cases hs
    exact hitem
  · exact fun h => ⟨_, h, rfl⟩

/-- An item of the outline stands in the text between what the outline has before and after it. -/
theorem exists_split_outline {first last : List Item} {item : Item}
    (h : text.outline = first ++ item :: last) :
    ∃ before after, text.items = before ++ item :: after ∧
      before.filter (·.isOutline) = first ∧ after.filter (·.isOutline) = last := by
  obtain ⟨before, rest, hitems, hbefore, hrest⟩ := List.filter_eq_append_iff.mp h
  obtain ⟨skipped, after, rfl, hskipped, -, hafter⟩ := List.filter_eq_cons_iff.mp hrest
  refine ⟨before ++ skipped, after, by rw [hitems, List.append_assoc], ?_, hafter⟩
  rw [List.filter_append, hbefore, List.filter_eq_nil_iff.mpr hskipped, List.append_nil]

theorem filter_isOutline_content (text : Source) :
    text.content.filter (·.isOutline) = text.outline := by
  rw [content, outline, List.filter_filter]
  refine List.filter_congr fun item _ => ?_
  cases item <;> rfl

theorem filter_isOutline_eq_nil {items : List Item} (h : ∀ item ∈ items, item.isPlain = true) :
    items.filter (·.isOutline) = [] := by
  refine List.filter_eq_nil_iff.mpr fun item hitem => ?_
  have hplain := h item hitem
  cases item <;> first | exact Bool.false_ne_true | cases hplain

theorem isPlain_globals (declared : List Declaration) :
    ∀ item ∈ declared.map Item.global, item.isPlain = true :=
  List.forall_mem_map.mpr fun _ _ => rfl

theorem Target.DeclareBuffers.isPlain {buffers : List UniformBuffer} {items : List Item}
    (h : target.DeclareBuffers buffers items) : ∀ item ∈ items, item.isPlain = true := by
  have hblock : ∀ target : Target, List.Forall₂ target.IsBlock buffers items →
      ∀ item ∈ items, item.isPlain = true := by
    intro target hblocks item hitem
    obtain ⟨buffer, -, header, members, own, rfl, -⟩ := exists_mem_of_forall₂ hblocks hitem
    rfl
  cases target with
  | direct3D9 =>
    obtain ⟨row, declared, -, -, rfl, -⟩ := h
    exact isPlain_globals declared
  | direct3D11 => exact hblock _ h
  | openGL => exact hblock _ h

/-- Of the resources, only the structures of the shader are in the outline. -/
theorem ResourceParts.Of.filter_isOutline {parts : ResourceParts} (h : parts.Of target shader) :
    parts.items.filter (·.isOutline) = parts.structures := by
  have hcode : ∀ item ∈ parts.globalCode, item.isPlain = true := by
    rw [h.globalCode]
    exact List.forall_mem_map.mpr fun _ _ => rfl
  have hstructures : parts.structures.filter (·.isOutline) = parts.structures := by
    refine List.filter_eq_self.mpr fun item hitem => ?_
    obtain ⟨s, -, members, rfl, -⟩ := exists_mem_of_forall₂ h.structures hitem
    rfl
  simp only [ResourceParts.items, List.filter_append, filter_isOutline_eq_nil hcode, hstructures,
    filter_isOutline_eq_nil h.uniformBuffers.isPlain,
    filter_isOutline_eq_nil (isPlain_samplers h.samplers),
    filter_isOutline_eq_nil (isPlain_views h.readViews),
    filter_isOutline_eq_nil (isPlain_views h.writeViews),
    filter_isOutline_eq_nil (isPlain_sampling h.sampling), List.append_nil, List.nil_append]

theorem isPlain_opening (target : Target) (version : OpenGL.Version) (shader : Shader) :
    ∀ item ∈ target.opening version shader, item.isPlain = true := by
  unfold Target.opening
  split
  · refine List.forall_mem_cons.mpr ⟨rfl, ?_⟩
    decide
  · simp

theorem ProgramParts.Of.filter_isOutline {parts : ProgramParts} (h : parts.Of target shader) :
    parts.items.filter (·.isOutline) =
      parts.interfaces.reduceOption.map InterfaceStruct.item ++ parts.functions.map .function := by
  have hthreads : ∀ item ∈ parts.threads, item.isPlain = true := by
    by_cases hcompute : target = .openGL ∧ shader.stage = .compute
    · obtain ⟨group, -, hgroup⟩ := h.threads hcompute
      rw [hgroup]
      exact List.forall_mem_singleton.mpr rfl
    · rw [h.noThreads hcompute]
      simp
  have hinterfaces : (parts.interfaces.reduceOption.map InterfaceStruct.item).filter
      (·.isOutline) = parts.interfaces.reduceOption.map InterfaceStruct.item :=
    List.filter_eq_self.mpr (List.forall_mem_map.mpr fun _ _ => rfl)
  have hfunctions : (parts.functions.map Item.function).filter (·.isOutline) =
      parts.functions.map .function :=
    List.filter_eq_self.mpr (List.forall_mem_map.mpr fun _ _ => rfl)
  simp only [ProgramParts.items, List.filter_append, hinterfaces, hfunctions,
    filter_isOutline_eq_nil (isPlain_globals parts.passed),
    filter_isOutline_eq_nil (isPlain_definitions h.macros), filter_isOutline_eq_nil hthreads,
    List.append_nil]

/-- What the outline of a text consists of: structures of the shader, structures for variables and
functions. -/
structure Source.Outlined (text : Source) (target : Target) (shader : Shader)
    (structures : List Item) (interfaces : List (Option InterfaceStruct))
    (functions : List Function) : Prop where
  outline : text.outline =
    structures ++ interfaces.reduceOption.map InterfaceStruct.item ++ functions.map .function
  areStructures : List.Forall₂ target.IsStructure shader.structures structures
  passes : List.Forall₂ (target.Passes shader) (target.interfaceGroups shader) interfaces
  wiring : Wiring shader target interfaces functions

theorem exists_outlined (hformed : shader.WellFormed)
    (h : target.source version shader = .ok text) :
    ∃ structures interfaces functions,
      text.Outlined target shader structures interfaces functions := by
  obtain ⟨parts, hcontent, hparts⟩ := Target.exists_sourceParts hformed h
  refine ⟨parts.resources.structures, parts.program.interfaces, parts.program.functions, ?_,
    hparts.resources.structures, hparts.program.interfaces, hparts.program.wiring⟩
  have hopening := filter_isOutline_eq_nil (isPlain_opening target version shader)
  rw [← filter_isOutline_content, hcontent, SourceParts.items, List.filter_append,
    List.filter_append, hparts.opening, hopening, hparts.resources.filter_isOutline,
    hparts.program.filter_isOutline, List.nil_append, List.append_assoc]

end Outline

/-! ## Names of structures -/

section Names

variable {target : Target} {shader : Shader} {group : InterfaceGroup}

theorem toList_output (number : Nat) :
    (s!"Output{number}").toList = "Output".toList ++ Nat.toDigits 10 number := by
  rw [← Nat.toList_repr]
  exact String.toList_append

/-- Streams of different numbers have different structures. -/
theorem output_injective : Function.Injective fun number : Nat => s!"Output{number}" := by
  intro first second hsame
  have hdigits : Nat.toDigits 10 first = Nat.toDigits 10 second := by
    have htexts := congrArg String.toList hsame
    simp only [toList_output] at htexts
    exact List.append_cancel_left htexts
  have hvalues := congrArg (Nat.ofDigitChars 10 · 0) hdigits
  simpa only [Nat.ofDigitChars_ten_toDigits] using hvalues

theorem map_role_zipIdx (streams : List OutputStream) :
    (streams.zipIdx.map fun (stream, number) =>
        (⟨s!"Output{number}", stream.outputs⟩ : InterfaceGroup)).map (·.role) =
      (List.range streams.length).map fun number => s!"Output{number}" := by
  have hnumbers : streams.zipIdx.map Prod.snd = List.range streams.length := by
    rw [List.zipIdx_map_snd, List.range_eq_range']
  rw [← hnumbers, List.map_map, List.map_map]
  rfl

/-- The roles of the groups that are not numbered. -/
def namedRoles : List (List String) :=
  [["Input"], ["Input", "Output"], ["Input", "Output", "OutputPatch"],
    ["Input", "InputPatch", "InputExtra", "Output"]]

/-- All roles are named, or those of streams are numbered. -/
theorem roles_cases (target : Target) (shader : Shader) :
    (target.interfaceGroups shader).map (·.role) ∈ namedRoles ∨
      ∃ count, (target.interfaceGroups shader).map (·.role) =
        "Input" :: (List.range count).map fun number => s!"Output{number}" := by
  unfold Target.interfaceGroups
  split
  · exact .inl (by simp [namedRoles])
  · exact .inl (by simp [namedRoles])
  · split <;> exact .inl (by simp [namedRoles])
  · exact .inl (by simp [namedRoles])
  · exact .inl (by simp [namedRoles])
  · unfold Shader.streamGroups
    split
    · exact .inl (by simp [namedRoles])
    · exact .inr ⟨_, congrArg ("Input" :: ·) (map_role_zipIdx shader.streams)⟩

theorem nodup_roles (target : Target) (shader : Shader) :
    ((target.interfaceGroups shader).map (·.role)).Nodup := by
  rcases roles_cases target shader with hnamed | ⟨count, hnumbered⟩
  · have hall : ∀ roles ∈ namedRoles, roles.Nodup := by decide
    exact hall _ hnamed
  · rw [hnumbered, List.nodup_cons]
    refine ⟨fun hmem => ?_, List.nodup_range.map output_injective⟩
    obtain ⟨number, -, hsame⟩ := List.mem_map.mp hmem
    have htexts := congrArg String.toList hsame
    rw [toList_output] at htexts
    simp at htexts

theorem isIdentifier_role (h : group ∈ target.interfaceGroups shader) :
    ∀ c ∈ group.role.toList, Text.continuesIdentifier c = true := by
  have hmem := List.mem_map_of_mem (f := InterfaceGroup.role) h
  rw [← List.all_eq_true]
  rcases roles_cases target shader with hnamed | ⟨count, hnumbered⟩
  · have hall : ∀ roles ∈ namedRoles, ∀ role ∈ roles,
        role.toList.all Text.continuesIdentifier = true := by
      decide
    exact hall _ hnamed _ hmem
  · rw [hnumbered] at hmem
    rcases List.mem_cons.mp hmem with hinput | hstream
    · rw [hinput]
      decide
    · obtain ⟨number, -, hname⟩ := List.mem_map.mp hstream
      rw [← hname, toList_output, List.all_append, Bool.and_eq_true_iff]
      refine ⟨by decide, List.all_eq_true.mpr fun c hc => ?_⟩
      have hdigit := Nat.isDigit_of_mem_toDigits (by decide) (by decide) hc
      simp [Text.continuesIdentifier, Char.isAlphanum, hdigit]

/-- Every group has a structure of its own. -/
theorem nodup_structureNames (target : Target) (shader : Shader) :
    ((target.interfaceGroups shader).map shader.structureName).Nodup := by
  have hinjective : Function.Injective (interfaceName shader.stage) := by
    intro first second hsame
    have htexts := congrArg String.toList hsame
    rw [toList_interfaceName, toList_interfaceName] at htexts
    exact String.toList_inj.mp (List.append_cancel_left htexts)
  have hnames := (nodup_roles target shader).map hinjective
  rwa [List.map_map] at hnames

end Names

/-! ## Structures that are declared and named -/

/-- A text declares the structure for a group once, before all functions. -/
def Source.DeclaresOnce (text : Source) (target : Target) (shader : Shader)
    (group : InterfaceGroup) : Prop :=
  ∃ before s after, text.items = before ++ InterfaceStruct.item s :: after ∧
    target.Shows shader group s ∧ (∀ members, .struct s.name members ∉ before ++ after) ∧
    ∀ f, .function f ∉ before

/-- A function of a text names a structure. -/
def Source.Names (text : Source) (shader : Shader) (name : String) : Prop :=
  ∃ f ∈ text.functions, name.toList ∈ f.interfaceWords (shader.codeOf f)

section Outlined

variable {text : Source} {target : Target} {shader : Shader} {structures : List Item}
  {interfaces : List (Option InterfaceStruct)} {functions : List Function} {group : InterfaceGroup}
  {s : InterfaceStruct} {name : String} {members : List Declaration}

theorem exists_shows (h : List.Forall₂ (target.Passes shader) (target.interfaceGroups shader)
    interfaces) (hs : s ∈ interfaces.reduceOption) :
    ∃ group ∈ target.interfaceGroups shader, target.Shows shader group s :=
  exists_mem_of_forall₂ (b := some s) h (List.reduceOption_mem_iff.mp hs)

/-- A group with something to show has its structure. -/
theorem exists_mem_reduceOption (h : List.Forall₂ (target.Passes shader)
    (target.interfaceGroups shader) interfaces) (hgroup : group ∈ target.interfaceGroups shader)
    (hshown : shader.shown group.vars ≠ []) :
    ∃ s ∈ interfaces.reduceOption, target.Shows shader group s := by
  obtain ⟨found, hfound, hpasses⟩ := exists_mem_of_forall₂ h.flip hgroup
  cases found with
  | none => exact absurd hpasses hshown
  | some s => exact ⟨s, List.reduceOption_mem_iff.mpr hfound, hpasses⟩

theorem sublist_structureNames {groups : List InterfaceGroup}
    (h : List.Forall₂ (target.Passes shader) groups interfaces) :
    (interfaces.reduceOption.map (·.name)).Sublist (groups.map shader.structureName) := by
  induction h with
  | nil => exact .slnil
  | @cons group found _ _ hpasses _ ih =>
    cases found with
    | none => exact ih.cons _
    | some s =>
      have hname : s.name = shader.structureName group := Target.Shows.name hpasses
      rw [List.map_cons, ← hname]
      exact ih.cons_cons _

theorem exists_own (h : List.Forall₂ target.IsStructure shader.structures structures)
    (hmem : .struct name members ∈ structures) : ∃ own ∈ shader.structures, own.name = name := by
  obtain ⟨own, hmember, _, hitem, -⟩ := exists_mem_of_forall₂ h hmem
  exact ⟨own, hmember, (Item.struct.inj hitem).1.symm⟩

theorem function_notMem_structures
    (h : List.Forall₂ target.IsStructure shader.structures structures) (f : Function) :
    .function f ∉ structures := by
  intro hmem
  obtain ⟨_, -, _, hitem, -⟩ := exists_mem_of_forall₂ h hmem
  cases hitem

theorem exists_interface {list : List InterfaceStruct}
    (hmem : .struct name members ∈ list.map InterfaceStruct.item) : ∃ s ∈ list, s.name = name := by
  obtain ⟨s, hs, hitem⟩ := List.mem_map.mp hmem
  exact ⟨s, hs, (Item.struct.inj hitem).1⟩

namespace Source.Outlined

theorem functions_eq (h : text.Outlined target shader structures interfaces functions) :
    text.functions = functions := by
  have hstructures : Source.functions ⟨structures⟩ = [] := by
    refine List.filterMap_eq_nil_iff.mpr fun item hitem => ?_
    obtain ⟨own, -, members, rfl, -⟩ := exists_mem_of_forall₂ h.areStructures hitem
    rfl
  have hinterfaces : Source.functions ⟨interfaces.reduceOption.map InterfaceStruct.item⟩ = [] :=
    List.filterMap_eq_nil_iff.mpr (List.forall_mem_map.mpr fun _ _ => rfl)
  have hfunctions : Source.functions ⟨functions.map .function⟩ = functions := by
    rw [Source.functions, List.filterMap_map]
    exact List.filterMap_some
  rw [← functions_outline, h.outline, functions_append, functions_append, hstructures, hinterfaces,
    hfunctions, List.nil_append, List.nil_append]

theorem interface_mem_structs (h : text.Outlined target shader structures interfaces functions)
    (hs : s ∈ interfaces.reduceOption) : (s.name, s.members) ∈ text.structs := by
  rw [mem_structs_iff, h.outline]
  exact List.mem_append_left _ (List.mem_append_right _ (List.mem_map_of_mem hs))

/-- A structure in the text is one of the shader or one for variables. -/
theorem mem_structs (h : text.Outlined target shader structures interfaces functions)
    (hmem : (name, members) ∈ text.structs) :
    (∃ own ∈ shader.structures, own.name = name) ∨
      ∃ s ∈ interfaces.reduceOption, s.name = name := by
  rw [mem_structs_iff, h.outline, List.mem_append, List.mem_append] at hmem
  rcases hmem with (hown | hinterface) | hfunction
  · exact .inl (exists_own h.areStructures hown)
  · exact .inr (exists_interface hinterface)
  · simp at hfunction

theorem isInterfaceName (h : text.Outlined target shader structures interfaces functions)
    (hs : s ∈ interfaces.reduceOption) : IsInterfaceName s.name.toList := by
  obtain ⟨group, hgroup, hshows⟩ := exists_shows h.passes hs
  rw [hshows.name]
  exact isInterfaceName_interfaceName _ (isIdentifier_role hgroup)

/-- What functions name are the structures for variables. -/
theorem mem_interfaceWords (h : text.Outlined target shader structures interfaces functions)
    {word : List Char} :
    (∃ f ∈ text.functions, word ∈ f.interfaceWords (shader.codeOf f)) ↔
      ∃ s ∈ interfaces.reduceOption, s.name.toList = word := by
  have hwiring : (∃ f ∈ functions, word ∈ f.interfaceWords (shader.codeOf f)) ↔ _ :=
    h.wiring.mem_interfaceWords_iff fun s hs =>
      h.isInterfaceName (List.reduceOption_mem_iff.mpr hs)
  rw [h.functions_eq, hwiring, List.mem_map]

theorem names_iff (h : text.Outlined target shader structures interfaces functions) :
    text.Names shader name ↔ ∃ s ∈ interfaces.reduceOption, s.name = name := by
  rw [Names, h.mem_interfaceWords]
  simp only [String.toList_inj]

/-- A structure for variables is declared once and before the functions, as its name is not that of
another. -/
theorem declaresOnce (h : text.Outlined target shader structures interfaces functions)
    (hs : s ∈ interfaces.reduceOption) (hshows : target.Shows shader group s)
    (hown : ∀ own ∈ shader.structures, own.name ≠ s.name) :
    text.DeclaresOnce target shader group := by
  obtain ⟨earlier, later, hsplit⟩ := List.append_of_mem hs
  have hnodup := (nodup_structureNames target shader).sublist (sublist_structureNames h.passes)
  rw [hsplit, List.map_append, List.map_cons, List.nodup_middle, List.nodup_cons,
    ← List.map_append] at hnodup
  have hsplitOutline : text.outline = (structures ++ earlier.map InterfaceStruct.item) ++
      s.item :: (later.map InterfaceStruct.item ++ functions.map .function) := by
    simp only [h.outline, hsplit, List.map_append, List.map_cons, List.append_assoc,
      List.cons_append]
  obtain ⟨before, after, hitems, hbefore, hafter⟩ := exists_split_outline hsplitOutline
  refine ⟨before, s, after, hitems, hshows, fun members hmem => ?_, fun f hf => ?_⟩
  · have hother := List.mem_filter.mpr ⟨hmem, show Item.isOutline _ = true from rfl⟩
    rw [List.filter_append, hbefore, hafter] at hother
    simp only [List.mem_append] at hother
    rcases hother with (hstruct | hearlier) | hlater | hfunction
    · obtain ⟨own, hmember, hname⟩ := exists_own h.areStructures hstruct
      exact hown own hmember hname
    · obtain ⟨other, hmember, hname⟩ := exists_interface hearlier
      exact hnodup.1 (hname ▸ List.mem_map_of_mem (List.mem_append_left later hmember))
    · obtain ⟨other, hmember, hname⟩ := exists_interface hlater
      exact hnodup.1 (hname ▸ List.mem_map_of_mem (List.mem_append_right earlier hmember))
    · simp at hfunction
  · have hfunction := List.mem_filter.mpr ⟨hf, show Item.isOutline _ = true from rfl⟩
    rw [hbefore, List.mem_append] at hfunction
    rcases hfunction with hstruct | hearlier
    · exact function_notMem_structures h.areStructures f hstruct
    · simp [InterfaceStruct.item] at hearlier

end Source.Outlined

end Outlined

/-- The functions of a text and its structures for variables fit together. -/
structure Source.InterfacesMatch (text : Source) (target : Target) (shader : Shader) : Prop where
  /-- Whatever name of such a structure stands for a type in a function is that of a group, whose
  structure is declared once and earlier. -/
  named : ∀ f ∈ text.functions, ∀ word ∈ f.interfaceWords (shader.codeOf f),
    ∃ group ∈ target.interfaceGroups shader, word = (shader.structureName group).toList ∧
      text.DeclaresOnce target shader group
  /-- Every structure that is declared is one of the shader or named by a function. -/
  declared : ∀ name members, (name, members) ∈ text.structs →
    (∃ own ∈ shader.structures, own.name = name) ∨ text.Names shader name
  /-- A group with something to show has a structure that is declared and named. -/
  shown : ∀ group ∈ target.interfaceGroups shader, shader.shown group.vars ≠ [] →
    text.DeclaresOnce target shader group ∧ text.Names shader (shader.structureName group)
  /-- A group with nothing to show has no structure, and no function names one. -/
  hidden : ∀ group ∈ target.interfaceGroups shader, shader.shown group.vars = [] →
    ¬text.Names shader (shader.structureName group) ∧
    ∀ members, (shader.structureName group, members) ∈ text.structs →
      ∃ own ∈ shader.structures, own.name = shader.structureName group

/-- In every source text of a shader the functions name the structures for variables that are
declared, and these are declared once and show what is used of their group, provided that no
structure of the shader has a name of theirs. -/
theorem interfaces_match {name : String} {stage : Stage} {additions : List Addition}
    {shader : Shader} {target : Target} {version : OpenGL.Version} {text : Source}
    (hbuild : Shader.build name stage additions = .ok shader)
    (htext : target.source version shader = .ok text)
    (hnames : ∀ own ∈ shader.structures, ∀ group ∈ target.interfaceGroups shader,
      shader.shown group.vars ≠ [] → own.name ≠ shader.structureName group) :
    text.InterfacesMatch target shader := by
  obtain ⟨structures, interfaces, functions, houtlined⟩ :=
    exists_outlined (Shader.wellFormed_of_build hbuild) htext
  have hdeclares : ∀ group ∈ target.interfaceGroups shader, ∀ s ∈ interfaces.reduceOption,
      target.Shows shader group s → text.DeclaresOnce target shader group := by
    intro group hgroup s hs hshows
    refine houtlined.declaresOnce hs hshows fun own hmember => ?_
    rw [hshows.name]
    exact hnames own hmember group hgroup hshows.nonempty
  refine ⟨fun f hf word hword => ?_, fun name members hmem => ?_, fun group hgroup hshown => ?_,
    fun group hgroup hhidden => ?_⟩
  · obtain ⟨s, hs, rfl⟩ := houtlined.mem_interfaceWords.mp ⟨f, hf, hword⟩
    obtain ⟨group, hgroup, hshows⟩ := exists_shows houtlined.passes hs
    exact ⟨group, hgroup, congrArg String.toList hshows.name, hdeclares group hgroup s hs hshows⟩
  · exact (houtlined.mem_structs hmem).imp_right houtlined.names_iff.mpr
  · obtain ⟨s, hs, hshows⟩ := exists_mem_reduceOption houtlined.passes hgroup hshown
    exact ⟨hdeclares group hgroup s hs hshows, houtlined.names_iff.mpr ⟨s, hs, hshows.name⟩⟩
  · have hnone : ¬∃ s ∈ interfaces.reduceOption, s.name = shader.structureName group := by
      rintro ⟨s, hs, hname⟩
      obtain ⟨other, hother, hshows⟩ := exists_shows houtlined.passes hs
      have hsame : other = group := List.inj_on_of_nodup_map
        (nodup_structureNames target shader) hother hgroup (hshows.name.symm.trans hname)
      exact hshows.nonempty (hsame ▸ hhidden)
    exact ⟨fun hnamed => hnone (houtlined.names_iff.mp hnamed), fun members hmem =>
      (houtlined.mem_structs hmem).resolve_right hnone⟩

/-- A hull shader that uses none of its inputs and whose domain has no inner factors. -/
def strands : Shader where
  name := "Strands"
  stage := .hull
  properties := [("Domain", "Isoline"), ("InputControlPoints", "4"),
    ("OutputControlPoints", "4"), ("OutputTopology", "Line"), ("Partitioning", "Integer")]
  input := [⟨.float4, "place", some "POSITION", .unspecified, false⟩]
  output := [⟨.struct "Strand", "strand", some "STRAND", .unspecified, true⟩]
  outputPatch :=
    [⟨.array (.scalar .float) .outerFactors, "edges", some "SV_TessFactor", .unspecified, true⟩,
      ⟨.array (.scalar .float) .innerFactors, "inside", some "SV_InsideTessFactor", .unspecified,
        true⟩]
  structures := [⟨"Strand", [⟨.vector .float 3, "color"⟩, ⟨.scalar .float, "width"⟩]⟩]

theorem interfaces_match_strands :
    Shader.build "Strands" .hull strands.additions = .ok strands ∧
      (∀ own ∈ strands.structures, ∀ group ∈ Target.direct3D11.interfaceGroups strands,
        strands.shown group.vars ≠ [] → own.name ≠ strands.structureName group) ∧
      ∃ text, Target.direct3D11.source .v450 strands = .ok text ∧
        text.InterfacesMatch .direct3D11 strands := by
  have hbuild : Shader.build "Strands" .hull strands.additions = .ok strands := by decide +kernel
  have hnames : ∀ own ∈ strands.structures, ∀ group ∈ Target.direct3D11.interfaceGroups strands,
      strands.shown group.vars ≠ [] → own.name ≠ strands.structureName group := by
    decide +kernel
  obtain ⟨text, htext⟩ : ∃ text, Target.direct3D11.source .v450 strands = .ok text :=
    exists_of_isOk (by decide +kernel)
  exact ⟨hbuild, hnames, text, htext, interfaces_match hbuild htext hnames⟩

end CrossShade
