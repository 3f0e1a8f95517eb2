import CrossShade.Proofs.UniformBuffer.Cycles
import CrossShade.Proofs.UniformBuffer.Placement

/-!
# Structures as buffers

Two loops give offsets out: one packs the members of a buffer, the other sizes a structure that is
a member itself.  They agree at every depth.

* `structureSizeWithin_eq`: from the number of structures on, the depth plays no part, and
  `structureSize_eq` is what remains, an equation without a depth.
* `size_of_packed`: a packed buffer ends with the register in which its row of members ends.
* `structureSize_eq_packedEnd`: a structure whose members have sizes is as long as their row.
-/

namespace CrossShade

variable {structures : List Structure} {name : String}

/-! ## Sizes without a depth -/

/-- As many levels as there are structures settle whatever more levels do. -/
theorem structureSizeWithin_eq {depth : Nat} (hlong : structures.length ≤ depth)
    (hle : depth ≤ entryLimit structures) (name : String) :
    structureSizeWithin structures depth name = structureSize structures name := by
  by_cases hendless : structureSizeWithin structures depth name = .error .endlessStructure
  · have hcycle : EntersCycle structures name :=
      entersCycle_of_visited List.nodup_nil (List.nil_subset _) nofun hlong hle hendless
    rw [hendless, structureSize_eq_endless_iff.mpr hcycle]
  · exact (structureSizeWithin_extends structures hle name hendless).symm

/-- What sizing is without a depth: a structure is sized with the sizes of all structures. -/
theorem structureSize_eq {found : Structure}
    (h : structures.find? (·.name == name) = some found) :
    structureSize structures name = found.sizeWith (structureSize structures) := by
  have hinner : structureSizeWithin structures (UInt64.size - 1 + structures.length) =
      structureSize structures := by
    funext other
    exact structureSizeWithin_eq (Nat.le_add_left ..) (by unfold entryLimit; omega) other
  have hlimit : entryLimit structures = UInt64.size - 1 + structures.length + 1 := by
    simp only [entryLimit, UInt64.size]
    omega
  rw [structureSize, hlimit, structureSizeWithin_succ _ h, hinner]

/-- A size is the same at every depth that reaches one. -/
theorem structureSizeWithin_of_size {size : UInt32} (h : structureSize structures name = .ok size)
    (depth : Nat) : structureSizeWithin structures depth name = .ok size ∨
      depth < structures.length ∧
        structureSizeWithin structures depth name = .error .endlessStructure := by
  rcases Nat.le_total depth (entryLimit structures) with hle | hge
  · by_cases hendless : structureSizeWithin structures depth name = .error .endlessStructure
    · refine .inr ⟨?_, hendless⟩
      by_contra hlong
      rw [← structureSizeWithin_eq (by omega) hle, hendless] at h
      cases h
    · exact .inl ((structureSizeWithin_extends structures hle name hendless).symm.trans h)
  · have hsettled : structureSize structures name ≠ .error .endlessStructure := by simp [h]
    exact .inl ((structureSizeWithin_extends structures hge name hsettled).trans h)

/-! ## Sizes from inside -/

/-- A type has one size wherever the structure that it is made of has one. -/
theorem ValueType.packedSize_congr {first second : String → Except ValueType.Fault UInt32}
    {type : ValueType} (h : ∀ name, type.structure? = some name → first name = second name) :
    type.packedSize first = type.packedSize second := by
  induction type with
  | array element length ih =>
    cases length with
    | fixed count => rw [packedSize, packedSize, ih h]
    | outerFactors => rfl
    | innerFactors => rfl
  | struct name => exact h name rfl
  | _ => rfl

theorem packedEnd_congr {first second : ValueType → Except ValueType.Fault UInt32}
    {offset last : UInt32} {types : List ValueType}
    (h : ∀ type ∈ types, first type = second type) :
    packedEnd first offset last types = packedEnd second offset last types := by
  induction types generalizing offset last with
  | nil => rfl
  | cons type more ih =>
    have hmore : ∀ offset last,
        packedEnd first offset last more = packedEnd second offset last more :=
      fun _ _ => ih fun other hmem => h other (List.mem_cons_of_mem _ hmem)
    simp only [packedEnd, h type List.mem_cons_self, hmore]

theorem ValueType.not_reachesCycle {type : ValueType} {size : UInt32}
    (h : type.sizeIn structures = .ok size) : ¬type.ReachesCycle structures :=
  fun hcycle => ValueType.sizeIn_ne_ok hcycle size h

/-- A member that leads into no cycle does not mention the structure it is in. -/
theorem packedSize_sizeFromInside {found : Structure} {field : Field}
    (hfound : structures.find? (·.name == name) = some found) (hmem : field ∈ found.members)
    (h : ¬field.type.ReachesCycle structures) :
    field.type.packedSize (sizeFromInside found.name (structureSize structures)) =
      field.type.sizeIn structures := by
  refine ValueType.packedSize_congr fun other hother => ?_
  refine if_neg fun hsame => h ?_
  rw [name_of_find? hfound] at hsame
  subst hsame
  exact ⟨other, hother, other, .refl, .single ⟨found, hfound, field, hmem, hother⟩⟩

/-- Such members make the same row inside of the structure and outside. -/
theorem packedEnd_sizeFromInside {found : Structure}
    (hfound : structures.find? (·.name == name) = some found)
    (h : ∀ field ∈ found.members, ¬field.type.ReachesCycle structures) :
    packedEnd (ValueType.packedSize (sizeFromInside found.name (structureSize structures))) 0 0
        (found.members.map (·.type)) =
      packedEnd (ValueType.sizeIn structures) 0 0 (found.members.map (·.type)) := by
  refine packedEnd_congr fun type hmem => ?_
  obtain ⟨field, hfield, rfl⟩ := List.mem_map.mp hmem
  exact packedSize_sizeFromInside hfound hfield (h field hfield)

/-- A structure whose members have sizes is as long as their row. -/
theorem structureSize_eq_packedEnd {found : Structure} {ending : UInt32}
    (hfound : structures.find? (·.name == name) = some found)
    (hend : packedEnd (ValueType.sizeIn structures) 0 0 (found.members.map (·.type)) =
      .ok ending) : structureSize structures name = .ok ending := by
  rw [structureSize_eq hfound, Structure.sizeWith_eq_ok_iff, packedEnd_sizeFromInside hfound, hend]
  intro field hfield
  obtain ⟨size, hsize⟩ := size_of_packedEnd hend hfield
  exact ValueType.not_reachesCycle hsize

/-- If their row is beyond 32 bits, so is the structure. -/
theorem structureSize_eq_overflow {found : Structure}
    (hfound : structures.find? (·.name == name) = some found)
    (hmembers : ∀ field ∈ found.members, ¬field.type.ReachesCycle structures)
    (hend : packedEnd (ValueType.sizeIn structures) 0 0 (found.members.map (·.type)) =
      .error .overflow) : structureSize structures name = .error .overflow := by
  rw [structureSize_eq hfound, Structure.sizeWith_eq_error_iff rfl,
    packedEnd_sizeFromInside hfound hmembers, hend]

/-! ## Rows of members as buffers -/

namespace UniformBuffer

variable {fields : List Field} {placed : List UniformMember} {buffer : UniformBuffer}

/-- Placing members and finding the end of their row is one recursion: the row ends with the last
member that is placed.  Without members it ends where it did before, which is `last`. -/
theorem ending_of_placeMembers {offset : UInt32}
    (h : placeMembers structures offset fields = .ok placed) (last : UInt32) :
    ∃ ending, packedEnd (ValueType.sizeIn structures) offset last (fields.map (·.type)) =
        .ok ending ∧
      (placed = [] ∧ ending = last ∨ ∃ m size total, placed.getLast? = some m ∧
        m.type.sizeIn structures = .ok size ∧ ending.toNat = m.offset.toNat + size.toNat ∧
        align16 ending = .ok total) := by
  induction fields generalizing offset placed last with
  | nil =>
    cases h
    exact ⟨last, rfl, .inl ⟨rfl, rfl⟩⟩
  | cons field more ih =>
    obtain ⟨size, first, next, following, hsize, hfirst, hnext, hfollowing, rfl⟩ :=
      placeMembers_cons_eq_ok_iff.mp h
    obtain ⟨ending, hending, hlast⟩ := ih hfollowing first
    have hrow : packedEnd (ValueType.sizeIn structures) offset last
        ((field :: more).map (·.type)) = .ok ending :=
      packedEnd_cons_eq_ok_iff.mpr ⟨size, first, next, hsize, hfirst, hnext, hending⟩
    refine ⟨ending, hrow, .inr ?_⟩
    rcases hlast with ⟨rfl, rfl⟩ | ⟨m, inner, total, hm, hinner⟩
    · exact ⟨⟨field.type, field.name, offset⟩, size, next, rfl, hsize, hfirst, hnext⟩
    · exact ⟨m, inner, total, by rw [List.getLast?_cons, hm]; rfl, hinner⟩

/-- A buffer ends with the register in which its row of members ends. -/
theorem size_of_packed {slot : UInt32} (h : packed name slot fields structures = .ok buffer) :
    ∃ ending total,
      packedEnd (ValueType.sizeIn structures) 0 0 (fields.map (·.type)) = .ok ending ∧
      align16 ending = .ok total ∧ buffer.size structures = .ok total := by
  obtain ⟨placed, hplaced, rfl⟩ := packed_eq_ok_iff.mp h
  obtain ⟨ending, hending, hlast⟩ := ending_of_placeMembers hplaced 0
  rcases hlast with ⟨rfl, rfl⟩ | ⟨m, size, total, hm, hsize, hend, htotal⟩
  · exact ⟨0, 0, hending, by decide +kernel, rfl⟩
  · have hword : checkedWord (m.offset.toNat + size.toNat) = .ok ending :=
      checkedWord_eq_ok_iff.mpr (by omega)
    refine ⟨ending, total, hending, htotal, ?_⟩
    simp only [UniformBuffer.size, hm]
    rw [hsize, ok_bind, hword, ok_bind, htotal]

end UniformBuffer

end CrossShade
