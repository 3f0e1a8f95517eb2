import CrossShade.Proofs.Shader.Properties
import CrossShade.Proofs.Shader.WellFormed
import CrossShade.Shader.Builder
import Mathlib.Data.List.Induction

/-!
# What building accepts

A builder accepts exactly the well-formed shaders, whatever it was given in whatever order, and
hands out what it collected.

* `collect_additions` says that every shader with sorted properties can be collected, and
  `sorted_collect` that there are no others.
* The lemmas on slots say that looking a binding up by name finds the one binding of that name.
* `build_eq_ok_iff_wellFormed` is the conclusion.
-/

namespace CrossShade.Shader

variable {shader : Shader} {name : String} {stage : Stage} {additions : List Addition}

/-! ## Collecting -/

theorem collect_append (more : List Addition) :
    collect name stage (additions ++ more) = more.foldl add (collect name stage additions) :=
  List.foldl_append

/-- What one addition keeps, any row of additions keeps. -/
theorem collect_induction (P : Shader → Prop) (hnew : P { name, stage })
    (hadd : ∀ shader addition, P shader → P (shader.add addition)) :
    P (collect name stage additions) := by
  induction additions using List.reverseRecOn with
  | nil => exact hnew
  | append_singleton earlier addition ih =>
    rw [collect_append]
    exact hadd _ addition ih

theorem name_collect : (collect name stage additions).name = name := by
  refine collect_induction (fun shader => shader.name = name) rfl ?_
  intro shader addition h
  cases addition <;> exact h

theorem stage_collect : (collect name stage additions).stage = stage := by
  refine collect_induction (fun shader => shader.stage = stage) rfl ?_
  intro shader addition h
  cases addition <;> exact h

theorem sorted_collect : (collect name stage additions).properties.Sorted := by
  refine collect_induction (fun shader => shader.properties.Sorted) Properties.sorted_nil ?_
  intro shader addition h
  cases addition with
  | property key value => exact h.set key value
  | _ => exact h

/-- A row of additions of one kind, put in all at once. -/
theorem foldl_add_map {α : Type} (addition : α → Addition) (put : Shader → List α → Shader)
    (hnil : ∀ shader, put shader [] = shader)
    (hcons : ∀ shader x rest, put (shader.add (addition x)) rest = put shader (x :: rest))
    (row : List α) (shader : Shader) : (row.map addition).foldl add shader = put shader row := by
  induction row generalizing shader with
  | nil => exact (hnil shader).symm
  | cons x rest ih => rw [List.map_cons, List.foldl_cons, ih, hcons]

/-- The additions of a shader give it back. -/
theorem collect_additions (h : shader.properties.Sorted) :
    collect shader.name shader.stage shader.additions = shader := by
  simp only [collect, additions, List.foldl_append, List.foldl_cons]
  rw [foldl_add_map (fun row => .property row.1 row.2)
      (fun shader rows => { shader with properties := shader.properties.setAll rows })
      (fun _ => rfl) (fun _ _ _ => rfl),
    foldl_add_map .input
      (fun shader row => { shader with input := shader.input ++ row })
      (by simp) (by simp [add]),
    foldl_add_map .output
      (fun shader row => { shader with output := shader.output ++ row })
      (by simp) (by simp [add]),
    foldl_add_map .inputExtra
      (fun shader row => { shader with inputExtra := shader.inputExtra ++ row })
      (by simp) (by simp [add]),
    foldl_add_map .inputPatch
      (fun shader row => { shader with inputPatch := shader.inputPatch ++ row })
      (by simp) (by simp [add]),
    foldl_add_map .outputPatch
      (fun shader row => { shader with outputPatch := shader.outputPatch ++ row })
      (by simp) (by simp [add]),
    foldl_add_map .stream
      (fun shader row => { shader with streams := shader.streams ++ row })
      (by simp) (by simp [add]),
    foldl_add_map .uniformBuffer
      (fun shader row => { shader with uniformBuffers := shader.uniformBuffers ++ row })
      (by simp) (by simp [add]),
    foldl_add_map .sampler
      (fun shader row => { shader with samplers := shader.samplers ++ row })
      (by simp) (by simp [add]),
    foldl_add_map .readView
      (fun shader row => { shader with readViews := shader.readViews ++ row })
      (by simp) (by simp [add]),
    foldl_add_map .writeView
      (fun shader row => { shader with writeViews := shader.writeViews ++ row })
      (by simp) (by simp [add]),
    foldl_add_map .structure
      (fun shader row => { shader with structures := shader.structures ++ row })
      (by simp) (by simp [add]),
    foldl_add_map (fun pair : FixedSampling => .fixedSampling pair.view pair.sampler)
      (fun shader row => { shader with fixedSampling := shader.fixedSampling ++ row })
      (by simp) (by simp [add]),
    foldl_add_map .globalLine
      (fun shader row => { shader with globalCode := shader.globalCode ++ row })
      (by simp) (by simp [add]),
    foldl_add_map .patchLine
      (fun shader row => { shader with patchCode := shader.patchCode ++ row })
      (by simp) (by simp [add]),
    foldl_add_map .mainLine
      (fun shader row => { shader with mainCode := shader.mainCode ++ row })
      (by simp) (by simp [add])]
  simp [add, h.setAll_nil]

/-! ## Looking bindings up -/

/-- With distinct names, the element found under a name is the one that has it. -/
theorem find?_name_eq_some_iff {α : Type} {nameOf : α → String} {list : List α}
    (hdistinct : (list.map nameOf).Nodup) {x : α} :
    list.find? (nameOf · == name) = some x ↔ x ∈ list ∧ nameOf x = name := by
  constructor
  · intro h
    exact ⟨List.mem_of_find?_eq_some h, by simpa using List.find?_some h⟩
  · rintro ⟨hmem, rfl⟩
    induction list with
    | nil => simp at hmem
    | cons head rest ih =>
      obtain ⟨hfresh, hrest⟩ := List.nodup_cons.mp hdistinct
      rcases List.mem_cons.mp hmem with rfl | hmem
      · simp
      · have hne : nameOf head ≠ nameOf x := by
          intro h
          exact hfresh (h ▸ List.mem_map_of_mem hmem)
        rw [List.find?_cons_of_neg (by simpa using hne)]
        exact ih hrest hmem

/-- So is its slot. -/
theorem find?_slot_eq_some_iff {α : Type} {nameOf : α → String} {slotOf : α → UInt32}
    {list : List α} {entries : List (String × UInt32)}
    (hentries : entries = list.map fun x => (nameOf x, slotOf x))
    (hdistinct : (entries.map (·.1)).Nodup) {slot : UInt32} :
    (list.find? (nameOf · == name)).map slotOf = some slot ↔ (name, slot) ∈ entries := by
  subst hentries
  rw [List.map_map] at hdistinct
  simp only [Option.map_eq_some_iff, List.mem_map, Prod.mk.injEq]
  constructor
  · rintro ⟨x, hx, rfl⟩
    obtain ⟨hmem, hname⟩ := (find?_name_eq_some_iff hdistinct).mp hx
    exact ⟨x, hmem, hname, rfl⟩
  · rintro ⟨x, hmem, hname, rfl⟩
    exact ⟨x, (find?_name_eq_some_iff hdistinct).mpr ⟨hmem, hname⟩, rfl⟩

/-- What is found by name in a shader: the slot of the one binding with the name, and the sampler
to which a view is fixed. -/
structure FindsByName (shader : Shader) : Prop where
  uniformBuffer : ∀ name slot, shader.uniformBufferSlot? name = some slot ↔
    (name, slot) ∈ shader.bindings .uniformBuffer
  sampler : ∀ name slot, shader.samplerSlot? name = some slot ↔
    (name, slot) ∈ shader.bindings .sampler
  readView : ∀ name slot, shader.readViewSlot? name = some slot ↔
    (name, slot) ∈ shader.bindings .readView
  writeView : ∀ name slot, shader.writeViewSlot? name = some slot ↔
    (name, slot) ∈ shader.bindings .writeView
  fixedSampler : ∀ view sampler, shader.fixedSampler? view = some sampler ↔
    sampler ∈ shader.samplers ∧ ⟨view, sampler.name⟩ ∈ shader.fixedSampling

theorem WellFormed.findsByName (h : shader.WellFormed) : shader.FindsByName where
  uniformBuffer _ _ := find?_slot_eq_some_iff rfl (h.bindingNames .uniformBuffer)
  sampler _ _ := find?_slot_eq_some_iff rfl (h.bindingNames .sampler)
  readView name slot := by
    rw [readViewSlot?, readView?]
    exact find?_slot_eq_some_iff rfl (h.bindingNames .readView)
  writeView _ _ := find?_slot_eq_some_iff rfl (h.bindingNames .writeView)
  fixedSampler view sampler := by
    have hsamplers : (shader.samplers.map (·.name)).Nodup := by
      simpa [bindings, Function.comp_def] using h.bindingNames .sampler
    simp only [fixedSampler?, Option.bind_eq_bind, Option.bind_eq_some_iff,
      find?_name_eq_some_iff hsamplers, find?_name_eq_some_iff h.fixedOnce]
    constructor
    · rintro ⟨pair, ⟨hpair, rfl⟩, hsampler, hname⟩
      refine ⟨hsampler, ?_⟩
      rw [hname]
      exact hpair
    · rintro ⟨hsampler, hpair⟩
      exact ⟨⟨view, sampler.name⟩, ⟨hpair, rfl⟩, hsampler, rfl⟩

/-! ## Building -/

theorem accept_eq_ok_iff {result : Shader} :
    shader.accept = .ok result ↔ shader.WellFormed ∧ result = shader := by
  rw [← validate_eq_ok_iff, accept]
  split
  · rename_i hvalid
    simp [hvalid, eq_comm]
  · rename_i fault hfault
    simp [hfault]

/-- A shader that was built keeps all rules. -/
theorem wellFormed_of_build {result : Shader}
    (hbuild : build name stage additions = .ok result) : result.WellFormed := by
  obtain ⟨hformed, rfl⟩ := accept_eq_ok_iff.mp hbuild
  exact hformed

theorem stage_of_build {result : Shader} (hbuild : build name stage additions = .ok result) :
    result.stage = stage := by
  obtain ⟨-, rfl⟩ := accept_eq_ok_iff.mp hbuild
  exact stage_collect

/-- The lists of variables of a shader: its groups and what its streams put out. -/
def variableLists (shader : Shader) : List (List Variable) :=
  shader.variableGroups.map (·.2) ++ shader.streams.map (·.outputs)

/-- In each of them names are distinct. -/
theorem nodup_names_of_build {result : Shader} {vars : List Variable}
    (hbuild : build name stage additions = .ok result) (hvars : vars ∈ result.variableLists) :
    (vars.map (·.name)).Nodup := by
  have hformed := wellFormed_of_build hbuild
  rcases List.mem_append.mp hvars with hgroup | hstream
  · obtain ⟨group, hmem, rfl⟩ := List.mem_map.mp hgroup
    exact hformed.groupNames group hmem
  · obtain ⟨stream, hmem, rfl⟩ := List.mem_map.mp hstream
    exact hformed.streamVariableNames stream hmem

theorem nodup_input_of_build {result : Shader}
    (hbuild : build name stage additions = .ok result) : (result.input.map (·.name)).Nodup :=
  nodup_names_of_build hbuild (by simp [variableLists, variableGroups])

/-- Building succeeds if and only if what was collected keeps all rules.  Then it gives what was
collected, and everything in it is found under its name; otherwise the shader is reported as
malformed. -/
theorem build_eq_ok_iff_wellFormed (name : String) (stage : Stage) (additions : List Addition) :
    ((∃ shader, build name stage additions = .ok shader) ↔
      (collect name stage additions).WellFormed) ∧
    (∀ shader, build name stage additions = .ok shader →
      shader = collect name stage additions ∧ shader.FindsByName) ∧
    (¬(collect name stage additions).WellFormed →
      ∃ fault, build name stage additions = .error (.malformed name fault)) := by
  refine ⟨?_, ?_, ?_⟩
  · simp only [build, accept_eq_ok_iff, exists_and_left, exists_eq, and_true]
  · intro shader hbuild
    obtain ⟨hformed, rfl⟩ := accept_eq_ok_iff.mp hbuild
    exact ⟨rfl, hformed.findsByName⟩
  · intro hformed
    rw [← validate_eq_ok_iff] at hformed
    unfold build accept
    split
    · rename_i hvalid
      exact absurd hvalid hformed
    · rename_i fault hfault
      exact ⟨fault, by rw [name_collect]⟩

end CrossShade.Shader
