import CrossShade.Proofs.Shader.WellTyped
import CrossShade.Proofs.UniformBuffer.Overflow

/-!
# Members that take no bytes

Packing puts a member behind the bytes of the one before it, so two members get the same offset if
the first of them takes no bytes.

* `ValueType.Hollow` says which types take none.  `takes_eq_zero_iff` proves it of all types that
  can be read, by induction on the count of bytes.
* `pairwise_starts_iff` says when things of some sizes start one behind the other.
* `inOrder_iff_sizes` says when packed members are in order, and `inOrder_iff_not_hollow` says it by
  their types.
-/

namespace CrossShade

variable {structures : List Structure} {type : ValueType} {n offset last : Int} {sizes : List Int}
  {fields : List Field}

/-! ## Types that take no bytes -/

/-- A type that takes no bytes: a structure all of whose members take none, or an array of those. -/
inductive ValueType.Hollow (structures : List Structure) : ValueType → Prop where
  | array {element : ValueType} (size : ArraySize) (helement : Hollow structures element) :
    Hollow structures (.array element size)
  | struct {name : String} {found : Structure}
    (hfound : structures.find? (·.name == name) = some found)
    (hmembers : ∀ field ∈ found.members, Hollow structures field.type) :
    Hollow structures (.struct name)

/-- Things that take bytes or none end no earlier than what is before them. -/
theorem le_lastEnd (hsizes : ∀ size ∈ sizes, 0 ≤ size) (hle : last ≤ offset) :
    last ≤ lastEnd last (byteSpans offset sizes) := by
  induction sizes generalizing offset last with
  | nil => exact Int.le_refl last
  | cons size more ih =>
    obtain ⟨hsize, hmore⟩ := List.forall_mem_cons.mp hsizes
    have hnext : offset + size ≤ nextMultiple (offset + size) := by
      unfold nextMultiple
      omega
    have hrest := ih hmore hnext
    rw [lastEnd_byteSpans_cons]
    omega

/-- They end where they start only if none takes bytes. -/
theorem lastEnd_eq_zero_iff (hsizes : ∀ size ∈ sizes, 0 ≤ size) :
    lastEnd 0 (byteSpans 0 sizes) = 0 ↔ ∀ size ∈ sizes, size = 0 := by
  induction sizes with
  | nil => simp [byteSpans, lastEnd]
  | cons size more ih =>
    obtain ⟨hsize, hmore⟩ := List.forall_mem_cons.mp hsizes
    rw [lastEnd_byteSpans_cons, List.forall_mem_cons, Int.zero_add]
    by_cases hzero : size = 0
    · subst hzero
      simpa [nextMultiple] using ih hmore
    · have hnext : size ≤ nextMultiple size := by
        unfold nextMultiple
        omega
      have hend := le_lastEnd hmore hnext
      constructor
      · intro h
        omega
      · intro h
        exact absurd h.1 hzero

namespace ValueType

theorem hollow_array_iff {element : ValueType} {size : ArraySize} :
    (array element size).Hollow structures ↔ element.Hollow structures := by
  constructor
  · intro h
    cases h with
    | array _ helement => exact helement
  · exact .array size

theorem hollow_struct_iff {name : String} {found : Structure}
    (hfound : structures.find? (·.name == name) = some found) :
    (struct name).Hollow structures ↔ ∀ field ∈ found.members, field.type.Hollow structures := by
  constructor
  · intro h
    cases h with
    | struct hsame hmembers =>
      obtain rfl := Option.some.inj (hfound.symm.trans hsame)
      exact hmembers
  · exact .struct hfound

theorem isReadable_array {element : ValueType} {length : UInt32}
    (h : (array element (.fixed length)).IsReadable) : element.IsReadable ∧ 1 ≤ length.toNat := by
  rcases read_cases h with (hnumeric | ⟨name, hname, -⟩) | ⟨other, count, hsame, hcount, helement⟩
  · exact hnumeric.elim
  · cases hname
  · cases hsame
    refine ⟨⟨_, helement.read_spelling⟩, Nat.one_le_iff_ne_zero.mpr fun hzero => hcount ?_⟩
    exact UInt32.toNat_inj.mp hzero

end ValueType

/-- A type that can be read takes bytes, unless it is hollow.  The induction is on the count. -/
theorem takes_eq_zero_iff
    (hstructures : ∀ s ∈ structures, ∀ field ∈ s.members, field.type.IsReadable)
    (h : type.Takes structures n) (htype : type.IsReadable) :
    0 ≤ n ∧ (n = 0 ↔ type.Hollow structures) := by
  induction h with
  | scalar base =>
    refine ⟨by decide, fun hzero => ?_, nofun⟩
    omega
  | vector base width =>
    have hwidth : 2 ≤ width.toNat := UInt8.le_iff_toNat_le.mp htype.hasDimensions.1
    refine ⟨by omega, fun hzero => ?_, nofun⟩
    omega
  | matrix base rows columns =>
    have hrows : 1 ≤ rows.toNat := UInt8.le_iff_toNat_le.mp htype.hasDimensions.1.1
    have hcolumns : 1 ≤ columns.toNat := UInt8.le_iff_toNat_le.mp htype.hasDimensions.2.1
    refine ⟨by omega, fun hzero => ?_, nofun⟩
    omega
  | @array element size length _ ih =>
    obtain ⟨helement, hlength⟩ := ValueType.isReadable_array htype
    obtain ⟨hsize, hzero⟩ := ih helement
    have hround : size ≤ nextMultiple size := by
      unfold nextMultiple
      omega
    have hothers : 0 ≤ nextMultiple size * ((length.toNat : Int) - 1) :=
      Int.mul_nonneg (by omega) (by omega)
    rw [ValueType.hollow_array_iff, ← hzero]
    refine ⟨by omega, fun hnone => by omega, ?_⟩
    rintro rfl
    rw [show nextMultiple 0 = 0 from rfl, Int.zero_mul, Int.zero_add]
  | @struct name found sizes hfound hlength _ ih =>
    have hreadable := hstructures found (List.mem_of_find?_eq_some hfound)
    have hmembers : List.Forall₂ (fun (field : Field) size =>
        0 ≤ size ∧ (size = 0 ↔ field.type.Hollow structures)) found.members sizes :=
      List.forall₂_iff_zip.mpr ⟨hlength, fun {field size} hpart =>
        ih _ hpart (hreadable field (List.of_mem_zip hpart).1)⟩
    have hsizes : ∀ size ∈ sizes, 0 ≤ size := by
      intro size hsize
      obtain ⟨field, -, hnonneg, -⟩ := exists_mem_of_forall₂ hmembers hsize
      exact hnonneg
    refine ⟨le_lastEnd hsizes (Int.le_refl 0), ?_⟩
    rw [lastEnd_eq_zero_iff hsizes, ValueType.hollow_struct_iff hfound]
    exact (forall_iff_of_forall₂ (hmembers.imp fun field size h => h.2.symm)).symm

/-! ## Offsets in order -/

/-- Where things start is in order if all of them take bytes but the last, which may take none. -/
theorem pairwise_starts_iff (hoffset : 16 ∣ offset) :
    ((byteSpans offset sizes).map Prod.fst).Pairwise (· < ·) ↔
      ∀ size ∈ sizes.dropLast, 0 < size := by
  rw [← List.isChain_iff_pairwise]
  induction sizes generalizing offset with
  | nil => simp [byteSpans]
  | cons size more ih =>
    cases more with
    | nil => simp [byteSpans]
    | cons next rest =>
      have hround : offset < nextMultiple (offset + size) ↔ 0 < size := by
        unfold nextMultiple
        omega
      have hnext : 16 ∣ nextMultiple (offset + size) := Int.dvd_mul_left _ 16
      have hrest := ih hnext
      rw [List.dropLast_cons_cons, List.forall_mem_cons, ← hrest, ← hround]
      simp only [byteSpans, List.map_cons, List.isChain_cons_cons]

namespace UniformBuffer

variable {name : String} {slot : UInt32} {buffer : UniformBuffer}

/-- Members that fill their spans start where these do. -/
theorem starts_of_fills {members : List UniformMember} {row : List (Int × Int)}
    (h : List.Forall₂ (UniformMember.Fills structures) members row) :
    members.map (fun m => (m.offset.toNat : Int)) = row.map Prod.fst := by
  induction h with
  | nil => rfl
  | cons hfirst _ ih => rw [List.map_cons, List.map_cons, hfirst.offset, ih]

/-- Packed members are in order if all but the last take bytes. -/
theorem inOrder_iff_sizes (hsizes : TakeAll structures fields sizes)
    (hpacked : packed name slot fields structures = .ok buffer) :
    buffer.InOrder ↔ ∀ size ∈ sizes.dropLast, 0 < size := by
  obtain ⟨placed, hplaced, rfl⟩ := packed_eq_ok_iff.mp hpacked
  obtain ⟨others, hothers, -, hfills, -⟩ := fills_of_placeMembers hplaced
  obtain rfl : others = sizes := takeAll_unique hothers hsizes
  have hoffsets : HasOffsets structures fields ⟨name, slot, placed⟩ :=
    hasOffsets_of_placeMembers hplaced
  have hincreasing : (placed.map (·.offset)).Pairwise (· < ·) ↔
      ((byteSpans 0 others).map Prod.fst).Pairwise (· < ·) := by
    have hstarts := starts_of_fills hfills
    rw [show ((0 : UInt32).toNat : Int) = 0 from rfl] at hstarts
    rw [← hstarts, List.pairwise_map, List.pairwise_map]
    simp only [UInt32.lt_iff_toNat_lt, Int.ofNat_lt]
  rw [← pairwise_starts_iff (Int.dvd_zero 16), ← hincreasing]
  exact ⟨fun h => h.increasing, fun h => ⟨hoffsets.aligned, h⟩⟩

/-- Of types that can be read only the hollow ones take no bytes. -/
theorem inOrder_iff_not_hollow
    (hstructures : ∀ s ∈ structures, ∀ field ∈ s.members, field.type.IsReadable)
    (hfields : ∀ field ∈ fields, field.type.IsReadable)
    (hpacked : packed name slot fields structures = .ok buffer) :
    buffer.InOrder ↔ ∀ field ∈ fields.dropLast, ¬field.type.Hollow structures := by
  obtain ⟨placed, hplaced, -⟩ := packed_eq_ok_iff.mp hpacked
  obtain ⟨sizes, hsizes, -⟩ := fills_of_placeMembers hplaced
  rw [inOrder_iff_sizes hsizes hpacked]
  have hlength : fields.length = sizes.length := hsizes.length_eq
  have hbytes : List.Forall₂ (fun (field : Field) size =>
      ¬field.type.Hollow structures ↔ 0 < size) fields.dropLast sizes.dropLast := by
    rw [List.dropLast_eq_take, List.dropLast_eq_take, ← hlength]
    refine List.forall₂_take _ ?_
    rw [TakeAll, List.forall₂_iff_zip] at hsizes
    refine List.forall₂_iff_zip.mpr ⟨hlength, fun {field size} hpart => ?_⟩
    obtain ⟨hnonneg, hzero⟩ := takes_eq_zero_iff hstructures (hsizes.2 hpart)
      (hfields field (List.of_mem_zip hpart).1)
    rw [← hzero]
    omega
  exact (forall_iff_of_forall₂ hbytes).symm

end UniformBuffer

end CrossShade
