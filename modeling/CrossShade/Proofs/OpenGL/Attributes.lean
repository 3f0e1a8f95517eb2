import CrossShade.Backend
import CrossShade.Proofs.VertexLayout.Draft

/-!
# Locations of vertex attributes

The source text gives every vertex input a location, and the layout draft gives every element one.
The two are found in different ways: by adding up what the inputs before take, and by counting the
elements that are there already.

* `getElem?_countedLocations` says which location an input has.
* `vertexLocations_eq_range` says that all locations together are the numbers from zero on.
* `filter_entries_eq` says which locations the elements of an input have.
* `attributes_follow_locations` is the conclusion.
-/

namespace CrossShade.OpenGL

variable {version : Version} {shader : Shader} {draft : LayoutDraft UInt32} {vars : List Variable}
  {v : Variable} {place i : Nat}

/-- The locations that a vertex input takes from its own on, one for each element. -/
def takenLocations (v : Variable) : (location : Option UInt32) → List UInt32
  | none => []
  | some first => (List.range (locationCount v).toNat).map fun e => first + UInt32.ofNat e

/-- The locations that all vertex inputs take, in their order. -/
def vertexLocations (vars : List Variable) : List UInt32 :=
  (vars.zip (locations .vertex .input vars)).flatMap fun pair => takenLocations pair.1 pair.2

/-! ## Locations of inputs -/

theorem isLocated_vertex_input (v : Variable) :
    isLocated .vertex .input v = LayoutDraft.isFed v := by
  simp [isLocated, LayoutDraft.isFed, Bool.and_comm]

theorem toNat_locationCount (hfed : LayoutDraft.isFed v = true)
    (hcount : ∃ count, v.type.layoutElements = .ok count) :
    (locationCount v).toNat = LayoutDraft.placeCount v := by
  obtain ⟨count, hcount⟩ := hcount
  rw [LayoutDraft.placeCount_of_isFed hfed hcount, locationCount, hcount]

/-- The location after an input. -/
theorem ofNat_add_locationCount (hfed : LayoutDraft.isFed v = true)
    (hcount : ∃ count, v.type.layoutElements = .ok count) :
    UInt32.ofNat place + locationCount v = UInt32.ofNat (place + LayoutDraft.placeCount v) := by
  rw [UInt32.ofNat_add, ← toNat_locationCount hfed hcount, UInt32.ofNat_toNat]

/-- An input that is fed has the number of places before it as its location, and other inputs have
none. -/
theorem getElem?_countedLocations
    (hcounts : ∀ v ∈ vars, LayoutDraft.isFed v = true → ∃ count, v.type.layoutElements = .ok count)
    (hv : vars[i]? = some v) :
    (countedLocations .vertex .input (UInt32.ofNat place) vars)[i]? =
      some (if LayoutDraft.isFed v then
        some (UInt32.ofNat (place + runStart LayoutDraft.placeCount vars i)) else none) := by
  induction vars generalizing place i with
  | nil => simp at hv
  | cons first rest ih =>
    have hrest := fun w hw => hcounts w (List.mem_cons_of_mem _ hw)
    rw [countedLocations, isLocated_vertex_input]
    cases i with
    | zero =>
      simp only [List.getElem?_cons_zero, Option.some.injEq] at hv
      subst hv
      rw [runStart_zero, Nat.add_zero]
      split <;> rfl
    | succ i =>
      have hv : rest[i]? = some v := by simpa using hv
      rw [runStart_cons_succ, ← Nat.add_assoc]
      split
      · rename_i hfed
        rw [ofNat_add_locationCount hfed (hcounts first List.mem_cons_self hfed),
          List.getElem?_cons_succ, ih hrest hv]
      · rename_i hfed
        have hplaces := LayoutDraft.placeCount_of_not_isFed (by simpa using hfed)
        rw [hplaces, List.getElem?_cons_succ, ih hrest hv, Nat.add_zero]

/-- From a place on, the inputs take the numbers of their places, in a row. -/
theorem flatMap_takenLocations
    (hcounts : ∀ v ∈ vars, LayoutDraft.isFed v = true → ∃ count, v.type.layoutElements = .ok count)
    (place : Nat) :
    ((vars.zip (countedLocations .vertex .input (UInt32.ofNat place) vars)).flatMap
      fun pair => takenLocations pair.1 pair.2) =
      (List.range' place (runTotal LayoutDraft.placeCount vars)).map UInt32.ofNat := by
  induction vars generalizing place with
  | nil => rfl
  | cons first rest ih =>
    have hrest := fun w hw => hcounts w (List.mem_cons_of_mem _ hw)
    rw [countedLocations, isLocated_vertex_input, runTotal_cons]
    split
    · rename_i hfed
      have hcount := hcounts first List.mem_cons_self hfed
      have hfirst : takenLocations first (some (UInt32.ofNat place)) =
          (List.range' place (LayoutDraft.placeCount first)).map UInt32.ofNat := by
        rw [takenLocations, toNat_locationCount hfed hcount, List.range'_eq_map_range, List.map_map]
        exact List.map_congr_left fun e _ => (UInt32.ofNat_add place e).symm
      rw [ofNat_add_locationCount hfed hcount, List.zip_cons_cons, List.flatMap_cons, ih hrest,
        hfirst, ← List.map_append, List.range'_append_1]
    · rename_i hfed
      have hplaces := LayoutDraft.placeCount_of_not_isFed (by simpa using hfed)
      have hnone : takenLocations first none = [] := rfl
      rw [hplaces, Nat.zero_add, List.zip_cons_cons, List.flatMap_cons, ih hrest, hnone,
        List.nil_append]

/-! ## Locations of elements -/

section Draft

variable (h : LayoutDraft.ofShader shader (backend version).layoutPart = .ok draft)
include h

/-- All locations are the numbers from zero on, as many as there are elements. -/
theorem vertexLocations_eq_range :
    vertexLocations shader.input = (List.range draft.length).map UInt32.ofNat := by
  rw [LayoutDraft.length_eq_runTotal h, List.range_eq_range']
  exact flatMap_takenLocations (fun v hv hfed => LayoutDraft.exists_layoutElements h hv hfed) 0

theorem getElem?_locations (hv : shader.input[i]? = some v) :
    (locations .vertex .input shader.input)[i]? = some (if LayoutDraft.isFed v then
      some (UInt32.ofNat (runStart LayoutDraft.placeCount shader.input i)) else none) := by
  have hcounts := fun v hv hfed => LayoutDraft.exists_layoutElements h (v := v) hv hfed
  rw [← Nat.zero_add (runStart _ _ i)]
  exact getElem?_countedLocations hcounts hv

/-- The entries of an input are one for each element, and their locations stand in a row. -/
theorem filter_entries_eq (hv : shader.input[i]? = some v) :
    (draft.entries.filter (·.input = i)).map (fun entry => (entry.element, entry.part)) =
      (List.range (LayoutDraft.placeCount v)).map fun e => (UInt32.ofNat e,
        UInt32.ofNat (runStart LayoutDraft.placeCount shader.input i) + UInt32.ofNat e) := by
  obtain ⟨hlength, hentries⟩ := LayoutDraft.filter_entries h hv
  refine List.ext_getElem (by simp [hlength]) fun e hleft hright => ?_
  have he : e < (draft.entries.filter (·.input = i)).length := by simpa using hleft
  have hisEntry := hentries e _ (List.getElem?_eq_getElem he)
  have hpart := Except.ok.inj hisEntry.part
  rw [List.getElem_map, List.getElem_map, List.getElem_range, hisEntry.element, ← hpart,
    Nat.zero_add, ← UInt32.ofNat_add]
  rfl

end Draft

/-- Every vertex input that is fed has a location, and its elements have the locations from there
on; together these are the numbers from zero on, each once, as many as the layout has elements.
Numbers that have no thirty-two bits start again.  Inputs that are not fed have no location. -/
theorem attributes_follow_locations (h : (backend version).layoutDraft shader = .ok draft) :
    (∀ i v, shader.input[i]? = some v → LayoutDraft.isFed v = true →
      ∃ first count, (locations .vertex .input shader.input)[i]? = some (some first) ∧
        v.type.layoutElements = .ok count ∧
        (draft.entries.filter (·.input = i)).map (fun entry => (entry.element, entry.part)) =
          (List.range count.toNat).map fun e => (UInt32.ofNat e, first + UInt32.ofNat e)) ∧
    (∀ i v, shader.input[i]? = some v → LayoutDraft.isFed v = false →
      (locations .vertex .input shader.input)[i]? = some none ∧
        draft.entries.filter (·.input = i) = []) ∧
    vertexLocations shader.input = (List.range draft.length).map UInt32.ofNat ∧
    (draft.length ≤ UInt32.size →
      (vertexLocations shader.input).map UInt32.toNat = List.range draft.length) := by
  have hall := vertexLocations_eq_range h
  refine ⟨fun i v hv hfed => ?_, fun i v hv hfed => ?_, hall, fun hfits => ?_⟩
  · obtain ⟨count, hcount⟩ := LayoutDraft.exists_layoutElements h (List.mem_of_getElem? hv) hfed
    have hlocation := getElem?_locations h hv
    have hentries := filter_entries_eq h hv
    rw [if_pos hfed] at hlocation
    rw [LayoutDraft.placeCount_of_isFed hfed hcount] at hentries
    exact ⟨_, count, hlocation, hcount, hentries⟩
  · have hlocation := getElem?_locations h hv
    have hentries := filter_entries_eq h hv
    rw [if_neg (by simpa using hfed)] at hlocation
    rw [LayoutDraft.placeCount_of_not_isFed hfed, List.range_zero, List.map_nil,
      List.map_eq_nil_iff] at hentries
    exact ⟨hlocation, hentries⟩
  · rw [hall, List.map_map]
    refine (List.map_congr_left fun place hplace => ?_).trans (List.map_id _)
    exact UInt32.toNat_ofNat_of_lt' (Nat.lt_of_lt_of_le (List.mem_range.mp hplace) hfits)

/-- Inputs of every sort: several locations wide, unused, and provided by the system. -/
def mixedInputs : List Variable :=
  [{ type := .matrix .float 4 3, name := "World" },
    { type := .float4, name := "Spare", isUsed := false },
    { type := .array (.vector .float 2) (.fixed 2), name := "Offsets", semantic := "TEXCOORD7" },
    { type := .scalar .uint, name := "Corner", semantic := "SV_VertexID" },
    { type := .vector .float 2, name := "Uv" }]

/-- The elements that they need. -/
def mixedEntries : List (LayoutEntry UInt32) :=
  [⟨0, 0, "World", 0, .float⟩, ⟨1, 0, "World", 1, .float⟩, ⟨2, 0, "World", 2, .float⟩,
    ⟨3, 2, "Offsets", 0, .float⟩, ⟨4, 2, "Offsets", 1, .float⟩, ⟨5, 4, "Uv", 0, .float⟩]

theorem attributes_follow_locations_mixedInputs :
    (backend .v450).layoutDraft { name := "Lit", stage := .vertex, input := mixedInputs } =
        .ok ⟨"Lit", mixedEntries⟩ ∧
      (vertexLocations mixedInputs).map UInt32.toNat = List.range 6 := by
  have hdraft : (backend .v450).layoutDraft
      { name := "Lit", stage := .vertex, input := mixedInputs } = .ok ⟨"Lit", mixedEntries⟩ := by
    decide +kernel
  exact ⟨hdraft, (attributes_follow_locations hdraft).2.2.2 (by decide)⟩

end CrossShade.OpenGL
