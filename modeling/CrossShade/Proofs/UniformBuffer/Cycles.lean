import CrossShade.Proofs.UniformBuffer.Sizing
import Mathlib.Data.List.Perm.Subperm
import Mathlib.Logic.Relation

/-!
# Structures that contain themselves

Which references among structures keep sizes from being settled.

* `Refers` is the reference of one structure to another, `Enters` the step from sizing one to sizing
  another.  A member of the structure's own type is a reference and no step.
* `structureSize_eq_endless_iff` says that sizing never ends if and only if the steps lead into a
  cycle; the limit on the depth plays no part in it (`structureSize_eq_endless_iff_forall_depth`).
* `structureSizeWithin_ne_ok` says that no structure that reaches a cycle of references has a size.
* `UniformBuffer.endless_iff_entersCycle` carries both over to buffers.
-/

namespace CrossShade

variable {structures : List Structure} {name other : String}

/-- A structure has a member whose type is made of another one. -/
def Refers (structures : List Structure) (name other : String) : Prop :=
  ∃ found, structures.find? (·.name == name) = some found ∧
    ∃ field ∈ found.members, field.type.structure? = some other

/-- Sizing a structure goes on to size another. -/
def Enters (structures : List Structure) (name other : String) : Prop :=
  ∃ found, structures.find? (·.name == name) = some found ∧
    found.Enters (structureSize structures) other

/-- References lead from a structure into a cycle. -/
def ReachesCycle (structures : List Structure) (name : String) : Prop :=
  ∃ turn, Relation.ReflTransGen (Refers structures) name turn ∧
    Relation.TransGen (Refers structures) turn turn

/-- Sizing a structure leads into a cycle. -/
def EntersCycle (structures : List Structure) (name : String) : Prop :=
  ∃ turn, Relation.ReflTransGen (Enters structures) name turn ∧
    Relation.TransGen (Enters structures) turn turn

theorem name_of_find? {found : Structure}
    (h : structures.find? (·.name == name) = some found) : found.name = name := by
  simpa using List.find?_some h

/-- A step is a reference to another structure. -/
theorem Enters.refers (h : Enters structures name other) :
    Refers structures name other ∧ other ≠ name := by
  obtain ⟨found, hfound, before, field, after, hmembers, -, hsized, hother⟩ := h
  refine ⟨⟨found, hfound, field, by simp [hmembers], ?_⟩, ?_⟩
  · exact ValueType.structure?_of_sizedBy? hsized
  · rwa [name_of_find? hfound] at hother

theorem EntersCycle.reachesCycle (h : EntersCycle structures name) :
    ReachesCycle structures name := by
  obtain ⟨turn, hpath, hcycle⟩ := h
  have hrefers : ∀ name other, Enters structures name other → Refers structures name other :=
    fun _ _ hstep => hstep.refers.1
  exact ⟨turn, Relation.ReflTransGen.mono hrefers _ _ hpath,
    Relation.TransGen.mono hrefers _ _ hcycle⟩

/-- On the way into a cycle there is a next structure. -/
theorem ReachesCycle.exists_refers (h : ReachesCycle structures name) :
    ∃ other, Refers structures name other ∧ ReachesCycle structures other := by
  obtain ⟨turn, hpath, hcycle⟩ := h
  rcases Relation.ReflTransGen.cases_head hpath with rfl | ⟨other, hstep, hrest⟩
  · obtain ⟨other, hstep, hrest⟩ := Relation.TransGen.head'_iff.mp hcycle
    exact ⟨other, hstep, name, hrest, hcycle⟩
  · exact ⟨other, hstep, turn, hrest, hcycle⟩

/-- What leads into something that leads into a cycle leads into that cycle. -/
theorem EntersCycle.of_enters (hstep : Enters structures name other)
    (h : EntersCycle structures other) : EntersCycle structures name := by
  obtain ⟨turn, hpath, hcycle⟩ := h
  exact ⟨turn, .head hstep hpath, hcycle⟩

/-! ## Cycles of steps -/

/-- A step into something endless is endless one level higher. -/
theorem structureSizeWithin_eq_endless_of_enters {depth : Nat} (h : Enters structures name other)
    (hother : structureSizeWithin structures depth other = .error .endlessStructure) :
    structureSizeWithin structures (depth + 1) name = .error .endlessStructure := by
  obtain ⟨found, hfound, before, field, after, hmembers, hbefore, hsized, hne⟩ := h
  have hfield : field.type.packedSize (sizeFromInside found.name
      (structureSizeWithin structures depth)) = .error .endlessStructure :=
    ValueType.packedSize_eq_endless_iff.mpr
      ⟨other, hsized, Structure.sizeFromInside_eq_endless_iff.mpr ⟨hne, hother⟩⟩
  rw [structureSizeWithin_succ depth hfound, Structure.sizeWith_eq_error_iff rfl, hmembers,
    List.map_append, List.map_cons]
  refine packedEnd_eq_endless ?_ hfield
  obtain ⟨ending, hending⟩ := hbefore
  -- below the limit the members before may still be endless, above it they have their final end
  rcases Nat.le_total depth (entryLimit structures) with hle | hle
  · by_cases hendless : packedEnd (ValueType.packedSize (sizeFromInside found.name
        (structureSizeWithin structures depth))) 0 0 (before.map (·.type)) =
          .error .endlessStructure
    · exact .inl hendless
    · have hsame := packedEnd_of_extends
        ((structureSizeWithin_extends structures hle).sizeFromInside found.name).packedSize hendless
      exact .inr ⟨ending, hsame.symm.trans hending⟩
  · have hsame := packedEnd_of_extends ((structureSizeWithin_extends structures hle).sizeFromInside
      found.name).packedSize fun hendless => nomatch hending.symm.trans hendless
    exact .inr ⟨ending, hsame.trans hending⟩

/-- On a cycle of steps every depth is too small. -/
theorem structureSizeWithin_of_cycle (depth : Nat)
    (h : Relation.TransGen (Enters structures) name name) :
    structureSizeWithin structures depth name = .error .endlessStructure := by
  induction depth generalizing name with
  | zero =>
    obtain ⟨other, ⟨found, hfound, -⟩, -⟩ := Relation.TransGen.head'_iff.mp h
    exact structureSizeWithin_zero hfound
  | succ depth ih =>
    obtain ⟨other, hstep, hrest⟩ := Relation.TransGen.head'_iff.mp h
    have hcycle : Relation.TransGen (Enters structures) other other :=
      Relation.TransGen.tail' hrest hstep
    exact structureSizeWithin_eq_endless_of_enters hstep (ih hcycle)

/-- So it is for a structure from which steps lead into a cycle. -/
theorem structureSizeWithin_of_entersCycle (depth : Nat) (h : EntersCycle structures name) :
    structureSizeWithin structures depth name = .error .endlessStructure := by
  obtain ⟨turn, hpath, hcycle⟩ := h
  induction hpath using Relation.ReflTransGen.head_induction_on generalizing depth with
  | refl => exact structureSizeWithin_of_cycle depth hcycle
  | head hstep hrest ih =>
    cases depth with
    | zero =>
      obtain ⟨found, hfound, -⟩ := hstep
      exact structureSizeWithin_zero hfound
    | succ depth => exact structureSizeWithin_eq_endless_of_enters hstep (ih depth)

/-- Where sizing is endless at some depth, it takes a step. -/
theorem exists_enters_of_endless {depth : Nat} (hle : depth ≤ entryLimit structures)
    (h : structureSizeWithin structures (depth + 1) name = .error .endlessStructure) :
    ∃ other, Enters structures name other ∧
      structureSizeWithin structures depth other = .error .endlessStructure := by
  cases hfound : structures.find? (·.name == name) with
  | none => simp [structureSizeWithin_of_find?_eq_none _ hfound] at h
  | some found =>
    rw [structureSizeWithin_succ depth hfound, Structure.sizeWith_eq_endless_iff] at h
    obtain ⟨other, henters, hother⟩ := h
    exact ⟨other, ⟨found, hfound,
      henters.of_extends (structureSizeWithin_extends structures hle)⟩, hother⟩

theorem declared_of_endless {depth : Nat}
    (h : structureSizeWithin structures depth name = .error .endlessStructure) :
    name ∈ structures.map (·.name) := by
  cases hfound : structures.find? (·.name == name) with
  | none => simp [structureSizeWithin_of_find?_eq_none _ hfound] at h
  | some found =>
    exact List.mem_map.mpr ⟨found, List.mem_of_find?_eq_some hfound, name_of_find? hfound⟩

/-- A row of steps that is longer than the list of structures visits one of them twice.  The
induction is on the depth that is left; `visited` are the structures on the way, and steps lead from
each of them to `name`. -/
theorem entersCycle_of_visited {depth : Nat} {visited : List String}
    (hdistinct : visited.Nodup) (hdeclared : visited ⊆ structures.map (·.name))
    (hpath : ∀ earlier ∈ visited, Relation.TransGen (Enters structures) earlier name)
    (hlong : structures.length ≤ depth + visited.length) (hle : depth ≤ entryLimit structures)
    (h : structureSizeWithin structures depth name = .error .endlessStructure) :
    EntersCycle structures name := by
  induction depth generalizing name visited with
  | zero =>
    by_cases hvisited : name ∈ visited
    · exact ⟨name, .refl, hpath name hvisited⟩
    · have hmore : (name :: visited).Nodup := List.nodup_cons.mpr ⟨hvisited, hdistinct⟩
      have hsubset : name :: visited ⊆ structures.map (·.name) :=
        List.cons_subset.mpr ⟨declared_of_endless h, hdeclared⟩
      have hlength := (hmore.subperm hsubset).length_le
      simp only [List.length_cons, List.length_map] at hlength
      omega
  | succ depth ih =>
    by_cases hvisited : name ∈ visited
    · exact ⟨name, .refl, hpath name hvisited⟩
    · obtain ⟨other, hstep, hother⟩ := exists_enters_of_endless (by omega) h
      have hmore : (name :: visited).Nodup := List.nodup_cons.mpr ⟨hvisited, hdistinct⟩
      have hsubset : name :: visited ⊆ structures.map (·.name) :=
        List.cons_subset.mpr ⟨declared_of_endless h, hdeclared⟩
      refine EntersCycle.of_enters hstep (ih hmore hsubset ?_ ?_ (by omega) hother)
      · intro earlier hmem
        rcases List.mem_cons.mp hmem with rfl | hmem
        · exact .single hstep
        · exact .tail (hpath earlier hmem) hstep
      · simp only [List.length_cons]
        omega

/-- Sizing a structure never ends if and only if it leads into a cycle of steps. -/
theorem structureSize_eq_endless_iff :
    structureSize structures name = .error .endlessStructure ↔ EntersCycle structures name := by
  constructor
  · intro h
    have hlong : structures.length ≤ entryLimit structures := by
      unfold entryLimit
      omega
    refine entersCycle_of_visited List.nodup_nil (List.nil_subset _) ?_ hlong (Nat.le_refl _) h
    intro earlier hmem
    simp at hmem
  · exact structureSizeWithin_of_entersCycle (entryLimit structures)

/-- The limit plays no part in that: where it is reached, every other would be. -/
theorem structureSize_eq_endless_iff_forall_depth :
    structureSize structures name = .error .endlessStructure ↔
      ∀ depth, structureSizeWithin structures depth name = .error .endlessStructure := by
  constructor
  · intro h depth
    exact structureSizeWithin_of_entersCycle depth (structureSize_eq_endless_iff.mp h)
  · intro h
    exact h (entryLimit structures)

/-! ## Cycles of references -/

/-- A structure with a size refers only to structures with sizes, one level deeper. -/
theorem size_of_refers {depth : Nat} {size : UInt32} (h : Refers structures name other)
    (hsize : structureSizeWithin structures (depth + 1) name = .ok size) :
    ∃ inner, structureSizeWithin structures depth other = .ok inner := by
  obtain ⟨found, hfound, field, hmem, hmade⟩ := h
  rw [structureSizeWithin_succ depth hfound, Structure.sizeWith_eq_ok_iff] at hsize
  obtain ⟨whole, hwhole⟩ := size_of_packedEnd hsize hmem
  obtain ⟨inner, hinner⟩ := ValueType.size_of_packedSize hwhole hmade
  unfold sizeFromInside at hinner
  split at hinner
  · simp at hinner
  · exact ⟨inner, hinner⟩

/-- On a cycle of references no structure has a size. -/
theorem structureSizeWithin_ne_ok_of_cycle (depth : Nat) (size : UInt32)
    (h : Relation.TransGen (Refers structures) name name) :
    structureSizeWithin structures depth name ≠ .ok size := by
  obtain ⟨other, hstep, hrest⟩ := Relation.TransGen.head'_iff.mp h
  induction depth generalizing name other size with
  | zero =>
    obtain ⟨found, hfound, -⟩ := hstep
    simp [structureSizeWithin_zero hfound]
  | succ depth ih =>
    intro hsize
    obtain ⟨inner, hinner⟩ := size_of_refers hstep hsize
    have hcycle : Relation.TransGen (Refers structures) other other :=
      Relation.TransGen.tail' hrest hstep
    obtain ⟨next, hnext, hback⟩ := Relation.TransGen.head'_iff.mp hcycle
    exact ih inner hcycle next hnext hback hinner

/-- Nor has one from which references lead into a cycle. -/
theorem structureSizeWithin_ne_ok (depth : Nat) (size : UInt32)
    (h : ReachesCycle structures name) : structureSizeWithin structures depth name ≠ .ok size := by
  obtain ⟨turn, hpath, hcycle⟩ := h
  induction hpath using Relation.ReflTransGen.head_induction_on generalizing depth size with
  | refl => exact structureSizeWithin_ne_ok_of_cycle depth size hcycle
  | head hstep hrest ih =>
    cases depth with
    | zero =>
      obtain ⟨found, hfound, -⟩ := hstep
      simp [structureSizeWithin_zero hfound]
    | succ depth =>
      intro hsize
      obtain ⟨inner, hinner⟩ := size_of_refers hstep hsize
      exact ih depth inner hinner

/-! ## Buffers -/

namespace ValueType

/-- Sizing a type leads into a cycle. -/
def EntersCycle (structures : List Structure) (type : ValueType) : Prop :=
  ∃ name, type.sizedBy? = some name ∧ CrossShade.EntersCycle structures name

/-- References lead from a type into a cycle. -/
def ReachesCycle (structures : List Structure) (type : ValueType) : Prop :=
  ∃ name, type.structure? = some name ∧ CrossShade.ReachesCycle structures name

variable {type : ValueType}

theorem sizeIn_eq_endless_iff :
    type.sizeIn structures = .error .endlessStructure ↔ type.EntersCycle structures := by
  simp only [sizeIn, packedSize_eq_endless_iff, structureSize_eq_endless_iff, EntersCycle]

theorem sizeIn_ne_ok (h : type.ReachesCycle structures) (size : UInt32) :
    type.sizeIn structures ≠ .ok size := by
  obtain ⟨name, hname, hcycle⟩ := h
  intro hsize
  obtain ⟨inner, hinner⟩ := size_of_packedSize hsize hname
  exact structureSizeWithin_ne_ok (entryLimit structures) inner hcycle hinner

end ValueType

namespace UniformBuffer

section Rows

variable {offset : UInt32} {members : List Field} (last : UInt32)

/-- What is wrong with placing members is wrong with their row. -/
theorem placeMembers_eq_error_iff {fault : ValueType.Fault} :
    placeMembers structures offset members = .error fault ↔
      packedEnd (ValueType.sizeIn structures) offset last (members.map (·.type)) =
        .error fault := by
  induction members generalizing offset last with
  | nil => simp [placeMembers, packedEnd]
  | cons head rest ih =>
    simp only [List.map_cons, placeMembers, packedEnd, bind_eq_error_iff, pure_ne_error, and_false,
      exists_false, or_false, ← ih]

/-- Members can be placed if and only if their row has an end. -/
theorem exists_placeMembers_iff :
    (∃ placed, placeMembers structures offset members = .ok placed) ↔
      ∃ ending, packedEnd (ValueType.sizeIn structures) offset last (members.map (·.type)) =
        .ok ending := by
  cases hplaced : placeMembers structures offset members with
  | error fault =>
    rw [placeMembers_eq_error_iff last] at hplaced
    simp [hplaced]
  | ok placed =>
    cases hending : packedEnd (ValueType.sizeIn structures) offset last
        (members.map (·.type)) with
    | error fault =>
      rw [← placeMembers_eq_error_iff last, hplaced] at hending
      cases hending
    | ok ending => simp

end Rows

variable {members : List Field} {slot : UInt32}

theorem exists_packed_iff : (∃ buffer, packed name slot members structures = .ok buffer) ↔
    ∃ placed, placeMembers structures 0 members = .ok placed := by
  simp [packed]

theorem packed_eq_error_iff {fault : ValueType.Fault} :
    packed name slot members structures = .error fault ↔
      placeMembers structures 0 members = .error fault := by
  simp only [packed, bind_eq_error_iff, pure_ne_error, and_false, exists_false, or_false]

theorem packed_eq_endless_iff :
    packed name slot members structures = .error .endlessStructure ↔
      ∃ before field after, members = before ++ field :: after ∧
        (∃ start, packed name slot before structures = .ok start) ∧
        field.type.EntersCycle structures := by
  simp only [packed_eq_error_iff, placeMembers_eq_error_iff 0, packedEnd_eq_endless_iff,
    exists_packed_iff, exists_placeMembers_iff 0, ValueType.sizeIn_eq_endless_iff]

theorem packed_ne_ok {field : Field} (hmem : field ∈ members)
    (h : field.type.ReachesCycle structures) (buffer : UniformBuffer) :
    packed name slot members structures ≠ .ok buffer := by
  intro hpacked
  obtain ⟨ending, hending⟩ :=
    (exists_placeMembers_iff 0).mp (exists_packed_iff.mp ⟨buffer, hpacked⟩)
  obtain ⟨size, hsize⟩ := size_of_packedEnd hending hmem
  exact ValueType.sizeIn_ne_ok h size hsize

variable {buffer : UniformBuffer} {last : UniformMember}

theorem size_eq_endless_iff :
    buffer.size structures = .error .endlessStructure ↔
      ∃ last, buffer.members.getLast? = some last ∧ last.type.EntersCycle structures := by
  unfold size
  split <;> rename_i hlast
  · simp [hlast]
  · rename_i found
    simp [hlast, ← ValueType.sizeIn_eq_endless_iff, bind_eq_error_iff]

theorem size_ne_ok (hlast : buffer.members.getLast? = some last)
    (h : last.type.ReachesCycle structures) (size : UInt32) :
    buffer.size structures ≠ .ok size := by
  intro hsize
  simp only [UniformBuffer.size, hlast, bind_eq_ok] at hsize
  obtain ⟨inner, hinner, -⟩ := hsize
  exact ValueType.sizeIn_ne_ok h inner hinner

/-- When buffers are packed and sized.  Packing never ends if and only if some member leads into a
cycle of steps and all members before it can be packed, and sizing a buffer never ends if and only
if its last member leads into one; no depth changes that.  A member from which references lead into
any cycle leaves the buffer unpacked, and one at the end leaves it without a size. -/
theorem endless_iff_entersCycle (structures : List Structure) (name : String) (slot : UInt32)
    (members : List Field) (buffer : UniformBuffer) :
    (packed name slot members structures = .error .endlessStructure ↔
      ∃ before field after, members = before ++ field :: after ∧
        (∃ start, packed name slot before structures = .ok start) ∧
        field.type.EntersCycle structures) ∧
    ((∃ field ∈ members, field.type.ReachesCycle structures) →
      ∀ result, packed name slot members structures ≠ .ok result) ∧
    (buffer.size structures = .error .endlessStructure ↔
      ∃ last, buffer.members.getLast? = some last ∧ last.type.EntersCycle structures) ∧
    (∀ last, buffer.members.getLast? = some last → last.type.ReachesCycle structures →
      ∀ size, buffer.size structures ≠ .ok size) ∧
    (∀ type : ValueType, type.EntersCycle structures ↔
      ∀ depth, type.packedSize (structureSizeWithin structures depth) =
        .error .endlessStructure) := by
  refine ⟨packed_eq_endless_iff, ?_, size_eq_endless_iff, ?_, ?_⟩
  · rintro ⟨field, hmem, hcycle⟩ result
    exact packed_ne_ok hmem hcycle result
  · intro last hlast hcycle size
    exact size_ne_ok hlast hcycle size
  · intro type
    constructor
    · rintro ⟨inner, hinner, hcycle⟩ depth
      exact ValueType.packedSize_eq_endless_iff.mpr
        ⟨inner, hinner, structureSizeWithin_of_entersCycle depth hcycle⟩
    · intro h
      exact ValueType.sizeIn_eq_endless_iff.mp (h (entryLimit structures))

/-- Two structures, each with a member of the other. -/
def mutualStructures : List Structure :=
  [⟨"A", [⟨.struct "B", "b"⟩]⟩, ⟨"B", [⟨.struct "A", "a"⟩]⟩]

theorem entersCycle_mutualStructures : EntersCycle mutualStructures "A" := by
  have hfirst : Enters mutualStructures "A" "B" :=
    ⟨⟨"A", [⟨.struct "B", "b"⟩]⟩, rfl, [], ⟨.struct "B", "b"⟩, [], rfl, ⟨0, rfl⟩, rfl, by decide⟩
  have hsecond : Enters mutualStructures "B" "A" :=
    ⟨⟨"B", [⟨.struct "A", "a"⟩]⟩, rfl, [], ⟨.struct "A", "a"⟩, [], rfl, ⟨0, rfl⟩, rfl, by decide⟩
  exact ⟨"A", .refl, .tail (.single hfirst) hsecond⟩

/-- Packing a member of such a type is an example of packing that never ends, and so is sizing a
buffer with it at its end. -/
theorem endless_mutualStructures :
    packed "U" 0 [⟨.struct "A", "m"⟩] mutualStructures = .error .endlessStructure ∧
    size ⟨"U", 0, [⟨.struct "A", "m", 0⟩]⟩ mutualStructures = .error .endlessStructure := by
  have hcycle : (ValueType.struct "A").EntersCycle mutualStructures :=
    ⟨"A", rfl, entersCycle_mutualStructures⟩
  obtain ⟨hpacked, -, hsize, -⟩ := endless_iff_entersCycle mutualStructures "U" 0
    [⟨.struct "A", "m"⟩] ⟨"U", 0, [⟨.struct "A", "m", 0⟩]⟩
  exact ⟨hpacked.mpr ⟨[], ⟨.struct "A", "m"⟩, [], rfl, ⟨_, rfl⟩, hcycle⟩,
    hsize.mpr ⟨⟨.struct "A", "m", 0⟩, rfl, hcycle⟩⟩

/-- So it is not true that every member that reaches a cycle is refused: this one does, packing it
comes to no error, and its size is not settled at any depth. -/
theorem mutualStructures_not_refused :
    (ValueType.struct "A").ReachesCycle mutualStructures ∧
    (∀ fault, fault ≠ .endlessStructure →
      packed "U" 0 [⟨.struct "A", "m"⟩] mutualStructures ≠ .error fault) ∧
    (∀ depth, (ValueType.struct "A").packedSize (structureSizeWithin mutualStructures depth) =
      .error .endlessStructure) := by
  refine ⟨⟨"A", rfl, entersCycle_mutualStructures.reachesCycle⟩, ?_, ?_⟩
  · intro fault hfault
    have hpacked : packed "U" 0 [⟨.struct "A", "m"⟩] mutualStructures =
        .error .endlessStructure :=
      packed_eq_endless_iff.mpr
        ⟨[], ⟨.struct "A", "m"⟩, [], rfl, ⟨_, rfl⟩, "A", rfl, entersCycle_mutualStructures⟩
    rw [hpacked]
    simpa using hfault.symm
  · intro depth
    exact structureSizeWithin_of_entersCycle depth entersCycle_mutualStructures

end UniformBuffer

end CrossShade
