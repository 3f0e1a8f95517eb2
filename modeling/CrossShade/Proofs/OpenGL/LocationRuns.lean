import Mathlib.Algebra.GroupWithZero.Nat
import CrossShade.Proofs.OpenGL.EntryPoint
import CrossShade.Proofs.OpenGL.Varyings

/-!
# Runs of locations

GLSL gives a varying as many locations as its type takes, from the one in its layout on.  The
numbers in the layouts are counted by the elements of vertex layouts, and a structure has no such
count: it counts as one, whatever it takes.

* `ValueType.Occupies` counts the locations that a type takes in GLSL.
* `occupies_typeLocations` says that this is what is counted for a type without structures, and
  `typeLocations_of_structure?` that any other type counts as one.
* `HoldsLocation` are the locations that a varying takes, and `locations_apart_iff` says when no
  location is taken twice.
-/

namespace CrossShade

variable {structures : List Structure} {type : ValueType} {n m : Nat}

/-- The locations that a type takes: one for every scalar, vector and column.  There is no count for
a structure that is not declared or contains itself, nor for an array of tessellation factors. -/
inductive ValueType.Occupies (structures : List Structure) : ValueType → Nat → Prop where
  | scalar (base : ScalarType) : Occupies structures (.scalar base) 1
  | vector (base : ScalarType) (width : UInt8) : Occupies structures (.vector base width) 1
  | matrix (base : ScalarType) (rows columns : UInt8) :
    Occupies structures (.matrix base rows columns) columns.toNat
  | array {element : ValueType} {count : Nat} (length : UInt32)
    (helement : Occupies structures element count) :
    Occupies structures (.array element (.fixed length)) (length.toNat * count)
  | struct {name : String} {found : Structure} {counts : List Nat}
    (hfound : structures.find? (·.name == name) = some found)
    (hlength : found.members.length = counts.length)
    (hmembers : ∀ part ∈ found.members.zip counts, Occupies structures part.1.type part.2) :
    Occupies structures (.struct name) counts.sum

/-- The locations that the members of a row take, one by one. -/
def OccupyAll (structures : List Structure) : List Field → List Nat → Prop :=
  List.Forall₂ fun field count => field.type.Occupies structures count

theorem occupies_struct {name : String} {found : Structure} {counts : List Nat}
    (hfound : structures.find? (·.name == name) = some found)
    (hmembers : OccupyAll structures found.members counts) :
    (ValueType.struct name).Occupies structures counts.sum := by
  obtain ⟨hlength, hzip⟩ := List.forall₂_iff_zip.mp hmembers
  exact .struct hfound hlength fun part hpart => hzip hpart

/-- A type takes one number of locations only.  The induction is on the first count. -/
theorem ValueType.Occupies.unique (h : type.Occupies structures n)
    (hother : type.Occupies structures m) : n = m := by
  induction h generalizing m with
  | scalar base =>
    cases hother
    rfl
  | vector base width =>
    cases hother
    rfl
  | matrix base rows columns =>
    cases hother
    rfl
  | array length _ ih =>
    cases hother with
    | array _ helement => rw [ih helement]
  | @struct name found counts hfound hlength _ ih =>
    cases hother with
    | @struct _ again others hagain hothers hmembers =>
      obtain rfl : found = again := Option.some.inj (hfound.symm.trans hagain)
      refine congrArg List.sum (List.ext_getElem (hlength.symm.trans hothers) fun i hi hj => ?_)
      have hzip : (found.members[i], counts[i]) ∈ found.members.zip counts :=
        List.mem_of_getElem (h := by simp; omega) List.getElem_zip
      have hagainZip : (found.members[i], others[i]) ∈ found.members.zip others :=
        List.mem_of_getElem (h := by simp; omega) List.getElem_zip
      exact ih _ hzip (hmembers _ hagainZip)

namespace OpenGL

/-! ## Counting -/

/-- Without structures, what a type takes is what 32 bits keep of it. -/
theorem layoutElements_of_occupies (h : type.Occupies structures n)
    (hnone : type.structure? = none) :
    type.layoutElements = .ok (UInt32.ofNat n) := by
  induction h with
  | scalar base => rfl
  | vector base width => rfl
  | matrix base rows columns =>
    show Except.ok columns.toUInt32 = _
    rw [← UInt8.toNat_toUInt32, UInt32.ofNat_toNat]
  | @array element count length _ ih =>
    rw [ValueType.layoutElements, ih hnone, ok_bind, UInt32.ofNat_mul, UInt32.ofNat_toNat,
      UInt32.mul_comm]
    rfl
  | struct => cases hnone

theorem typeLocations_of_occupies (h : type.Occupies structures n) (hnone : type.structure? = none)
    (hfits : n < UInt32.size) : typeLocations type = n := by
  have helements := layoutElements_of_occupies h hnone
  simp only [typeLocations, locationCount, helements]
  exact UInt32.toNat_ofNat_of_lt' hfits

/-- What is made of a structure is not counted by elements. -/
theorem exists_layoutElements_eq_error {name : String} (h : type.structure? = some name) :
    ∃ fault, type.layoutElements = .error fault := by
  induction type with
  | array element size ih =>
    obtain ⟨fault, hfault⟩ := ih h
    cases size with
    | fixed length => exact ⟨fault, by rw [ValueType.layoutElements, hfault]; rfl⟩
    | outerFactors => exact ⟨_, rfl⟩
    | innerFactors => exact ⟨_, rfl⟩
  | struct found => exact ⟨_, rfl⟩
  | _ => cases h

theorem typeLocations_of_structure? {name : String} (h : type.structure? = some name) :
    typeLocations type = 1 := by
  obtain ⟨fault, hfault⟩ := exists_layoutElements_eq_error h
  simp only [typeLocations, locationCount, hfault]
  rfl

/-- A type without structures that a variable of a stage can have takes some locations. -/
theorem exists_occupies (hpossible : type.IsPossible structures) (hsized : ¬type.IsFactorArray)
    (hnone : type.structure? = none) : ∃ n, type.Occupies structures n := by
  cases type with
  | scalar base => exact ⟨_, .scalar base⟩
  | vector base width => exact ⟨_, .vector base width⟩
  | matrix base rows columns => exact ⟨_, .matrix base rows columns⟩
  | struct name => cases hnone
  | array element size =>
    cases size with
    | outerFactors => exact absurd ⟨element, _, rfl, rfl⟩ hsized
    | innerFactors => exact absurd ⟨element, _, rfl, rfl⟩ hsized
    | fixed length =>
      cases element with
      | scalar base => exact ⟨_, .array length (.scalar base)⟩
      | vector base width => exact ⟨_, .array length (.vector base width)⟩
      | matrix base rows columns => exact ⟨_, .array length (.matrix base rows columns)⟩
      | struct name => cases hnone
      | array inner outer => exact absurd rfl (hpossible.notNested inner outer (.fixed length))

/-! ## Runs -/

/-- The types of the varyings on a side, in order. -/
def Side.varyingTypes (shader : Shader) (side : Side) : List ValueType :=
  (varyings (side.vars shader)).map (·.type)

/-- The location of a varying as it is counted, without a bound. -/
def Side.firstLocation (shader : Shader) (side : Side) (i : Nat) : Nat :=
  runStart typeLocations (side.varyingTypes shader) i

/-- Whether a location is one of those that a varying takes from its own on. -/
def HoldsLocation (shader : Shader) (side : Side) (i location : Nat) : Prop :=
  ∃ type n first, (side.varyingTypes shader)[i]? = some type ∧
    type.Occupies shader.structures n ∧
    (varyingLocations shader.stage side (side.vars shader))[i]? = some (some first) ∧
    first.toNat ≤ location ∧ location < first.toNat + n

/-- No location is held by two varyings. -/
def LocationsApart (shader : Shader) (side : Side) : Prop :=
  ∀ i j location, HoldsLocation shader side i location → HoldsLocation shader side j location →
    i = j

/-- A varying takes no location from the first one of a later varying on, if that takes any. -/
def EndsInTime (shader : Shader) (side : Side) (i : Nat) : Prop :=
  ∀ j type later n m, i < j → (side.varyingTypes shader)[i]? = some type →
    (side.varyingTypes shader)[j]? = some later → type.Occupies shader.structures n →
    later.Occupies shader.structures m → 0 < m →
      side.firstLocation shader i + n ≤ side.firstLocation shader j

section Runs

variable {shader : Shader} {side : Side} {stage : Stage} {i j location : Nat}

theorem firstLocation_add_le (htype : (side.varyingTypes shader)[i]? = some type) (hlt : i < j) :
    side.firstLocation shader i + typeLocations type ≤ side.firstLocation shader j :=
  runStart_add_width_le htype hlt

theorem getElem?_varyingLocations (hside : IsBoundary stage side)
    (htype : (side.varyingTypes shader)[i]? = some type) :
    (varyingLocations stage side (side.vars shader))[i]? =
      some (some (UInt32.ofNat (side.firstLocation shader i))) := by
  have hbound : i < (varyings (side.vars shader)).length := by
    rw [← List.length_map (f := (·.type))]
    exact (List.getElem?_eq_some_iff.mp htype).1
  rw [varyingLocations_eq hside, List.getElem?_map, List.getElem?_range hbound, Option.map_some]
  rfl

/-- With numbers of 32 bits for all locations, they are those that are counted. -/
theorem holdsLocation_iff (hside : IsBoundary shader.stage side)
    (hfits : runTotal typeLocations (side.varyingTypes shader) < UInt32.size) :
    HoldsLocation shader side i location ↔
      ∃ type n, (side.varyingTypes shader)[i]? = some type ∧ type.Occupies shader.structures n ∧
        side.firstLocation shader i ≤ location ∧
        location < side.firstLocation shader i + n := by
  have hfirst : ∀ {type}, (side.varyingTypes shader)[i]? = some type →
      (UInt32.ofNat (side.firstLocation shader i)).toNat = side.firstLocation shader i := by
    intro type htype
    have hle : side.firstLocation shader i + typeLocations type ≤
        runTotal typeLocations (side.varyingTypes shader) :=
      add_width_le_runTotal htype
    exact UInt32.toNat_ofNat_of_lt' (by omega)
  constructor
  · rintro ⟨type, n, first, htype, hcount, hlocation, hrange⟩
    rw [getElem?_varyingLocations hside htype] at hlocation
    cases hlocation
    exact ⟨type, n, htype, hcount, hfirst htype ▸ hrange⟩
  · rintro ⟨type, n, htype, hcount, hrange⟩
    exact ⟨type, n, _, htype, hcount, getElem?_varyingLocations hside htype,
      (hfirst htype).symm ▸ hrange⟩

theorem locationsApart_iff_endsInTime (hside : IsBoundary shader.stage side)
    (hfits : runTotal typeLocations (side.varyingTypes shader) < UInt32.size) :
    LocationsApart shader side ↔ ∀ i, EndsInTime shader side i := by
  constructor
  · intro happart i j type later n m hlt htype hlater hn hm hpos
    by_contra hbeyond
    -- the first location of the later varying is held by both
    have hordered := firstLocation_add_le htype hlt
    have hshared := happart i j (side.firstLocation shader j)
      ((holdsLocation_iff hside hfits).mpr ⟨type, n, htype, hn, by omega, by omega⟩)
      ((holdsLocation_iff hside hfits).mpr ⟨later, m, hlater, hm, by omega, by omega⟩)
    omega
  · intro hends i j location hi hj
    have hnotBefore : ∀ i j, HoldsLocation shader side i location →
        HoldsLocation shader side j location → ¬i < j := by
      intro i j hi hj hlt
      obtain ⟨type, n, htype, hn, -, hbelow⟩ := (holdsLocation_iff hside hfits).mp hi
      obtain ⟨later, m, hlater, hm, habove, hlast⟩ := (holdsLocation_iff hside hfits).mp hj
      have hend := hends i j type later n m hlt htype hlater hn hm (by omega)
      omega
    have hnot := hnotBefore i j hi hj
    have hnotAfter := hnotBefore j i hj hi
    omega

/-- Without structures a varying takes what is counted. -/
theorem endsInTime_of_structure?_eq_none (htype : (side.varyingTypes shader)[i]? = some type)
    (hnone : type.structure? = none)
    (hwide : ∀ n, type.Occupies shader.structures n → n < UInt32.size) :
    EndsInTime shader side i := by
  intro j again later n m hlt hagain _ hn _ _
  obtain rfl : type = again := Option.some.inj (htype.symm.trans hagain)
  rw [← typeLocations_of_occupies hn hnone (hwide n hn)]
  exact firstLocation_add_le htype hlt

/-- A structure counts as one location.  If the next varying takes some, that is all there is. -/
theorem endsInTime_iff_of_structure? {name : String} {next : ValueType}
    (htype : (side.varyingTypes shader)[i]? = some type) (hmade : type.structure? = some name)
    (hnext : (side.varyingTypes shader)[i + 1]? = some next)
    (hm : next.Occupies shader.structures m) (hpos : 0 < m) :
    EndsInTime shader side i ↔ ∀ n, type.Occupies shader.structures n → n ≤ 1 := by
  have hone := typeLocations_of_structure? hmade
  constructor
  · intro hends n hn
    have hend := hends (i + 1) type next n m (Nat.lt_succ_self i) htype hnext hn hm hpos
    have hsucc : side.firstLocation shader (i + 1) =
        side.firstLocation shader i + typeLocations type :=
      runStart_succ htype
    omega
  · intro hsmall j again later n _ hlt hagain _ hn _ _
    obtain rfl : type = again := Option.some.inj (htype.symm.trans hagain)
    have hle := hsmall n hn
    have hordered := firstLocation_add_le htype hlt
    omega

/-- Behind the last varying there is none to be met. -/
theorem endsInTime_of_length_le (hlast : (side.varyingTypes shader).length ≤ i + 1) :
    EndsInTime shader side i := by
  intro j type later n m hlt _ hlater _ _ _
  have hbound := (List.getElem?_eq_some_iff.mp hlater).1
  omega

end Runs

/-- On a side of the boundary between vertices and pixels, with as many locations as 32 bits can
count, each varying without structures counts as many locations as it takes.  So no location is
taken twice if and only if the structures, and arrays of them, end in time.  Where every varying
takes some locations, that is, if each of them but the last varying takes only one. -/
theorem locations_apart_iff {name : String} {stage : Stage} {additions : List Addition}
    {shader : Shader} {side : Side} (hbuild : Shader.build name stage additions = .ok shader)
    (hside : IsBoundary stage side)
    (hwide : ∀ type ∈ side.varyingTypes shader, type.structure? = none →
      ∀ n, type.Occupies shader.structures n → n < UInt32.size)
    (hfits : runTotal typeLocations (side.varyingTypes shader) < UInt32.size) :
    (∀ type ∈ side.varyingTypes shader, type.structure? = none →
      type.Occupies shader.structures (typeLocations type)) ∧
    (LocationsApart shader side ↔
      ∀ i type, (side.varyingTypes shader)[i]? = some type → type.structure? ≠ none →
        EndsInTime shader side i) ∧
    ((∀ type ∈ side.varyingTypes shader, ∃ n, 0 < n ∧ type.Occupies shader.structures n) →
      (LocationsApart shader side ↔
        ∀ i type, (side.varyingTypes shader)[i]? = some type → type.structure? ≠ none →
          i + 1 < (side.varyingTypes shader).length →
          ∀ n, type.Occupies shader.structures n → n ≤ 1)) := by
  obtain rfl := Shader.stage_of_build hbuild
  have hformed := Shader.wellFormed_of_build hbuild
  have happart : LocationsApart shader side ↔
      ∀ i type, (side.varyingTypes shader)[i]? = some type → type.structure? ≠ none →
        EndsInTime shader side i := by
    rw [locationsApart_iff_endsInTime hside hfits]
    refine ⟨fun hends i _ _ _ => hends i, fun hends i => ?_⟩
    cases htype : (side.varyingTypes shader)[i]? with
    | none =>
      exact endsInTime_of_length_le (Nat.le_succ_of_le (List.getElem?_eq_none_iff.mp htype))
    | some type =>
      by_cases hnone : type.structure? = none
      · exact endsInTime_of_structure?_eq_none htype hnone
          (hwide type (List.mem_of_getElem? htype) hnone)
      · exact hends i type htype hnone
  refine ⟨fun type htype hnone => ?_, happart, fun hpositive => happart.trans ?_⟩
  · obtain ⟨v, hv, rfl⟩ := List.mem_map.mp htype
    have hstage : v ∈ shader.stageVariables := by
      have hmem := (List.mem_filter.mp hv).1
      cases side with
      | input => exact shader.input_subset hmem
      | output => exact shader.output_subset hmem
    have hpossible : v.type.IsPossible shader.structures := hformed.types _ <| by
      simp [Shader.declaredTypes, List.mem_map_of_mem, hstage]
    obtain ⟨n, hn⟩ := exists_occupies hpossible (hformed.factors v hstage) hnone
    rwa [typeLocations_of_occupies hn hnone (hwide _ htype hnone n hn)]
  · refine forall₄_congr fun i type htype hmade => ?_
    by_cases hlt : i + 1 < (side.varyingTypes shader).length
    · obtain ⟨name, hname⟩ := Option.ne_none_iff_exists'.mp hmade
      obtain ⟨m, hpos, hm⟩ := hpositive _ (List.getElem_mem hlt)
      rw [forall_prop_of_true hlt]
      exact endsInTime_iff_of_structure? htype hname (List.getElem?_eq_getElem hlt) hm hpos
    · rw [forall_prop_of_false hlt, iff_true]
      exact endsInTime_of_length_le (Nat.not_lt.mp hlt)

/-- A structure of one vector. -/
def glowStructure : Structure :=
  ⟨"Glow", [⟨.float4, "color"⟩]⟩

/-- A structure of two vectors. -/
def lampStructure : Structure :=
  ⟨"Lamp", [⟨.float4, "color"⟩, ⟨.float4, "place"⟩]⟩

/-- A vertex shader that passes on a structure of one vector among other things, and one of two
vectors at the end. -/
def lantern : Shader where
  name := "Lantern"
  stage := .vertex
  output := [{ type := .float4, name := "place", semantic := "SV_Position" },
    { type := .struct "Glow", name := "glow" },
    { type := .array (.matrix .float 3 2) (.fixed 2), name := "frames" },
    { type := .struct "Lamp", name := "lamp" }]
  structures := [lampStructure, glowStructure]

theorem occupies_glow : (ValueType.struct "Glow").Occupies lantern.structures 1 := by
  have hfound : lantern.structures.find? (·.name == "Glow") = some glowStructure := rfl
  have hmembers : OccupyAll lantern.structures glowStructure.members [1] :=
    .cons (.vector .float 4) .nil
  exact occupies_struct hfound hmembers

theorem occupies_lamp : (ValueType.struct "Lamp").Occupies lantern.structures 2 := by
  have hfound : lantern.structures.find? (·.name == "Lamp") = some lampStructure := rfl
  have hmembers : OccupyAll lantern.structures lampStructure.members [1, 1] :=
    .cons (.vector .float 4) (.cons (.vector .float 4) .nil)
  exact occupies_struct hfound hmembers

/-- Its locations are apart, as no structure of two vectors has a varying behind it. -/
theorem locations_apart_iff_lantern :
    Shader.build "Lantern" .vertex lantern.additions = .ok lantern ∧
      varyingLocations .vertex .output lantern.output = [some 0, some 1, some 5] ∧
      LocationsApart lantern .output := by
  have hbuild : Shader.build "Lantern" .vertex lantern.additions = .ok lantern := by
    decide +kernel
  have hlocations : varyingLocations .vertex .output lantern.output =
      [some 0, some 1, some 5] := by
    decide +kernel
  have htypes : Side.output.varyingTypes lantern =
      [.struct "Glow", .array (.matrix .float 3 2) (.fixed 2), .struct "Lamp"] := by
    decide +kernel
  have hframes : (ValueType.array (.matrix .float 3 2) (.fixed 2)).Occupies lantern.structures 4 :=
    .array 2 (.matrix .float 3 2)
  have hwide : ∀ type ∈ Side.output.varyingTypes lantern, type.structure? = none →
      ∀ n, type.Occupies lantern.structures n → n < UInt32.size := by
    simp only [htypes, List.forall_mem_cons]
    refine ⟨nofun, fun _ n hn => ?_, nofun, nofun⟩
    rw [hn.unique hframes]
    decide
  obtain ⟨-, -, hsmall⟩ :=
    locations_apart_iff hbuild (.inl ⟨rfl, rfl⟩) hwide (by decide +kernel)
  refine ⟨hbuild, hlocations, (hsmall ?_).mpr ?_⟩
  · simp only [htypes, List.forall_mem_cons]
    exact ⟨⟨1, by decide, occupies_glow⟩, ⟨4, by decide, hframes⟩, ⟨2, by decide, occupies_lamp⟩,
      nofun⟩
  · intro i type htype hmade hnext n hn
    rw [htypes] at hnext htype
    match i, hnext with
    | 0, _ =>
      cases htype
      exact (hn.unique occupies_glow).le
    | 1, _ =>
      cases htype
      exact absurd rfl hmade

/-- A vertex shader that passes on a structure of two vectors before a vector. -/
def torch : Shader where
  name := "Torch"
  stage := .vertex
  output := [{ type := .struct "Lamp", name := "lamp" }, { type := .float4, name := "tint" }]
  structures := lantern.structures

/-- The second vector of the structure has the location of the vector behind it. -/
theorem not_locationsApart_torch :
    Shader.build "Torch" .vertex torch.additions = .ok torch ∧
      locations .vertex .output torch.output = [some 0, some 1] ∧
      HoldsLocation torch .output 0 1 ∧ HoldsLocation torch .output 1 1 ∧
      ¬LocationsApart torch .output := by
  have hlamp : HoldsLocation torch .output 0 1 :=
    ⟨.struct "Lamp", 2, 0, rfl, occupies_lamp, by decide +kernel, by decide, by decide⟩
  have htint : HoldsLocation torch .output 1 1 :=
    ⟨.float4, 1, 1, rfl, .vector .float 4, by decide +kernel, by decide, by decide⟩
  refine ⟨by decide +kernel, by decide +kernel, hlamp, htint, fun happart => ?_⟩
  exact absurd (happart 0 1 1 hlamp htint) (by decide)

end OpenGL

end CrossShade
