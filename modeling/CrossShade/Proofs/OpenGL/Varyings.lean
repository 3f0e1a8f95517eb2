import CrossShade.OpenGL.Interface
import CrossShade.Proofs.Runs

/-!
# Locations of varyings

A vertex shader and the pixel shader behind it get their locations apart from each other.  Between
the stages everything is counted that is not a system value, used or not, so a location depends on
the types of the varyings before it and on nothing else.

* `varyingLocations_eq` gives the locations of the varyings by their types.
* `countedLocations_unmarked` says that use does not matter.
* `varyings_share_locations` puts two interfaces next to each other.
-/

namespace CrossShade.OpenGL

/-- What a stage passes to another: the variables that are no system values. -/
def varyings (vars : List Variable) : List Variable :=
  vars.filter (!·.isSystemValue)

/-- The interfaces on the two sides of the boundary between vertices and pixels. -/
def IsBoundary (stage : Stage) (side : Side) : Prop :=
  stage = .vertex ∧ side = .output ∨ stage = .pixel ∧ side = .input

/-- The locations of the varyings of an interface, in their order. -/
def varyingLocations (stage : Stage) (side : Side) (vars : List Variable) : List (Option UInt32) :=
  ((vars.zip (locations stage side vars)).filter (!·.1.isSystemValue)).map (·.2)

/-- How many locations a variable of a type takes. -/
def typeLocations (type : ValueType) : Nat :=
  (locationCount { type, name := "" }).toNat

/-- A variable without the mark that it is not used. -/
def unmarked (v : Variable) : Variable :=
  { v with isUsed := true }

section Boundary

variable {stage : Stage} {side : Side}

theorem locations_of_isBoundary (h : IsBoundary stage side) (vars : List Variable) :
    locations stage side vars = countedLocations stage side 0 vars := by
  rcases h with ⟨rfl, rfl⟩ | ⟨rfl, rfl⟩ <;> rfl

theorem isLocated_of_isBoundary (h : IsBoundary stage side) (v : Variable) :
    isLocated stage side v = !v.isSystemValue := by
  rcases h with ⟨rfl, rfl⟩ | ⟨rfl, rfl⟩ <;> simp [isLocated]

/-- The location after a varying. -/
theorem ofNat_add_typeLocations (first : Nat) (v : Variable) :
    UInt32.ofNat first + locationCount v = UInt32.ofNat (first + typeLocations v.type) := by
  have hcount : locationCount v = UInt32.ofNat (typeLocations v.type) := by
    rw [typeLocations, UInt32.ofNat_toNat]
    rfl
  rw [hcount, UInt32.ofNat_add]

/-- From a location on, varyings follow each other as their types are wide. -/
theorem filter_zip_countedLocations (h : IsBoundary stage side) (vars : List Variable)
    (first : Nat) :
    ((vars.zip (countedLocations stage side (UInt32.ofNat first) vars)).filter
      (!·.1.isSystemValue)).map (·.2) =
      (List.range (varyings vars).length).map fun i => some (UInt32.ofNat
        (first + runStart typeLocations ((varyings vars).map (·.type)) i)) := by
  induction vars generalizing first with
  | nil => rfl
  | cons v rest ih =>
    rw [countedLocations, isLocated_of_isBoundary h]
    cases hsystem : v.isSystemValue with
    | true =>
      have hskip : varyings (v :: rest) = varyings rest :=
        List.filter_cons_of_neg (by simp [hsystem])
      rw [if_neg (by simp), hskip, ← ih first, List.zip_cons_cons,
        List.filter_cons_of_neg (by simp [hsystem])]
    | false =>
      have hkeep : varyings (v :: rest) = v :: varyings rest :=
        List.filter_cons_of_pos (by simp [hsystem])
      rw [if_pos (by simp), hkeep, ofNat_add_typeLocations, List.zip_cons_cons,
        List.filter_cons_of_pos (by simp [hsystem]), List.map_cons, ih, List.length_cons,
        List.range_succ_eq_map, List.map_cons, List.map_map]
      congr 1
      refine List.map_congr_left fun i _ => ?_
      simp [Nat.add_assoc]

/-- Every varying has the location behind the types of the varyings before it. -/
theorem varyingLocations_eq (h : IsBoundary stage side) (vars : List Variable) :
    varyingLocations stage side vars =
      (List.range (varyings vars).length).map fun i =>
        some (UInt32.ofNat (runStart typeLocations ((varyings vars).map (·.type)) i)) := by
  have hfrom := filter_zip_countedLocations h vars 0
  simp only [Nat.zero_add] at hfrom
  rw [varyingLocations, locations_of_isBoundary h]
  exact hfrom

theorem countedLocations_unmarked (h : IsBoundary stage side) (vars : List Variable)
    (next : UInt32) :
    countedLocations stage side next (vars.map unmarked) =
      countedLocations stage side next vars := by
  induction vars generalizing next with
  | nil => rfl
  | cons v rest ih =>
    have hlocated : isLocated stage side (unmarked v) = isLocated stage side v := by
      rw [isLocated_of_isBoundary h, isLocated_of_isBoundary h]
      rfl
    have hcount : locationCount (unmarked v) = locationCount v := rfl
    rw [List.map_cons, countedLocations, countedLocations, hlocated, hcount, ih, ih]

/-- Lists that differ in use alone have the same locations. -/
theorem locations_of_map_unmarked_eq (h : IsBoundary stage side) {vars marked : List Variable}
    (hsame : marked.map unmarked = vars.map unmarked) :
    locations stage side marked = locations stage side vars := by
  rw [locations_of_isBoundary h, locations_of_isBoundary h, ← countedLocations_unmarked h marked,
    hsame, countedLocations_unmarked h]

end Boundary

/-- Where the varyings on the two sides of a boundary have the same types in the same order, they
have the same locations: each the one behind what the types before it take, whatever their names,
uses and interpolation are and whatever system values stand between them.  In particular no location
moves when variables on a side are marked as used or not used. -/
theorem varyings_share_locations {outputs inputs : List Variable}
    (hsame : (varyings outputs).map (·.type) = (varyings inputs).map (·.type)) :
    varyingLocations .vertex .output outputs = varyingLocations .pixel .input inputs ∧
    (varyingLocations .vertex .output outputs).length = (varyings outputs).length ∧
    (∀ i v, (varyings outputs)[i]? = some v →
      (varyingLocations .vertex .output outputs)[i]? =
        some (some (UInt32.ofNat (runStart typeLocations ((varyings outputs).map (·.type)) i)))) ∧
    (∀ marked : List Variable, marked.map unmarked = outputs.map unmarked →
      locations .vertex .output marked = locations .vertex .output outputs) ∧
    ∀ marked : List Variable, marked.map unmarked = inputs.map unmarked →
      locations .pixel .input marked = locations .pixel .input inputs := by
  have hvertex : IsBoundary .vertex .output := .inl ⟨rfl, rfl⟩
  have hpixel : IsBoundary .pixel .input := .inr ⟨rfl, rfl⟩
  have hlength : (varyings outputs).length = (varyings inputs).length := by
    rw [← List.length_map (f := (·.type)), hsame, List.length_map]
  refine ⟨?_, ?_, fun i v hi => ?_, fun marked => locations_of_map_unmarked_eq hvertex,
    fun marked => locations_of_map_unmarked_eq hpixel⟩
  · rw [varyingLocations_eq hvertex, varyingLocations_eq hpixel, hsame, hlength]
  · rw [varyingLocations_eq hvertex, List.length_map, List.length_range]
  · obtain ⟨hbound, -⟩ := List.getElem?_eq_some_iff.mp hi
    rw [varyingLocations_eq hvertex, List.getElem?_map, List.getElem?_range hbound, Option.map_some]

/-- What a vertex shader passes on, with a system value in between and a variable that it leaves
out. -/
def surfaceOutputs : List Variable :=
  [{ type := .matrix .float 3 3, name := "Basis" },
    { type := .float4, name := "Position", semantic := "SV_Position" },
    { type := .array (.vector .float 2) (.fixed 2), name := "Offsets", isUsed := false },
    { type := .scalar .uint, name := "Layer" }]

/-- What a pixel shader takes of it, under names of its own. -/
def surfaceInputs : List Variable :=
  [{ type := .float4, name := "Place", semantic := "SV_Position" },
    { type := .matrix .float 3 3, name := "Frame", isUsed := false },
    { type := .array (.vector .float 2) (.fixed 2), name := "Shifts", interpolation := .centroid },
    { type := .scalar .uint, name := "Slice", semantic := "LAYER0" },
    { type := .scalar .bool, name := "Front", semantic := "sv_IsFrontFace" }]

theorem varyings_share_locations_surface :
    (varyings surfaceOutputs).map (·.type) = (varyings surfaceInputs).map (·.type) ∧
      varyingLocations .vertex .output surfaceOutputs = [some 0, some 3, some 5] ∧
      varyingLocations .pixel .input surfaceInputs = [some 0, some 3, some 5] := by
  have hsame : (varyings surfaceOutputs).map (·.type) = (varyings surfaceInputs).map (·.type) := by
    decide +kernel
  have hvertex : varyingLocations .vertex .output surfaceOutputs = [some 0, some 3, some 5] := by
    decide +kernel
  exact ⟨hsame, hvertex, (varyings_share_locations hsame).1 ▸ hvertex⟩

end CrossShade.OpenGL
