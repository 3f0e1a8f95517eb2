import CrossShade.Proofs.Outcome
import CrossShade.ValueType.Size

/-!
# Sizes on unbounded numbers

The two sizes of a type, computed without a bound, for the types that a GLSL block can hold.

* `checkedWord_eq_ok_iff` and `align16_eq_ok_iff` say when 32 bits hold a number, and which one it
  then is.
* `ValueType.IsBlockValue` says which types a block can hold.
* `packedBytes` and `blockBytes` are the sizes, and `packedSize_eq` and `blockSize_eq` say that the
  sizes that are computed are these, if 32 bits hold them.
* `roundUp_packedBytes` is why one layout can serve both: rounded up to sixteen bytes, the two
  sizes are one.
-/

namespace CrossShade

/-! ## Rounding up -/

theorem le_roundUp {unit : Nat} (hunit : 0 < unit) (n : Nat) : n ≤ roundUp unit n := by
  have hdiv := Nat.div_add_mod (n + (unit - 1)) unit
  have hmod := Nat.mod_lt (n + (unit - 1)) hunit
  rw [Nat.mul_comm] at hdiv
  unfold roundUp
  omega

/-- What is a multiple of a unit already stays as it is. -/
theorem roundUp_of_dvd {unit n : Nat} (hunit : 0 < unit) (h : unit ∣ n) : roundUp unit n = n := by
  obtain ⟨count, rfl⟩ := h
  have hdiv : (unit * count + (unit - 1)) / unit = count := by
    rw [Nat.mul_add_div hunit, Nat.div_eq_of_lt (by omega), Nat.add_zero]
  rw [roundUp, hdiv, Nat.mul_comm]

theorem dvd_roundUp (unit n : Nat) : unit ∣ roundUp unit n :=
  Nat.dvd_mul_left ..

/-- Whole units before a number are not rounded. -/
theorem roundUp_add {unit before : Nat} (hunit : 0 < unit) (h : unit ∣ before) (n : Nat) :
    roundUp unit (before + n) = before + roundUp unit n := by
  obtain ⟨count, rfl⟩ := h
  rw [roundUp, roundUp, Nat.add_assoc, Nat.mul_add_div hunit, Nat.add_mul, Nat.mul_comm count]

/-! ## Numbers in 32 bits -/

/-- A number that 32 bits hold is the same number in them. -/
theorem checkedWord_eq_ok_iff {n : Int} {word : UInt32} :
    checkedWord n = .ok word ↔ (word.toNat : Int) = n := by
  unfold checkedWord
  split
  · rename_i hn
    have hlt : n.toNat < UInt32.size := by omega
    have hvalue : (UInt32.ofNat n.toNat).toNat = n.toNat := UInt32.toNat_ofNat_of_lt' hlt
    rw [Except.ok.injEq, ← UInt32.toNat_inj, hvalue]
    omega
  · rename_i hn
    have hlt : word.toNat < UInt32.size := word.toNat_lt
    refine ⟨nofun, fun hvalue => absurd ?_ hn⟩
    omega

theorem exists_checkedWord {n : Nat} (h : n < UInt32.size) :
    ∃ word, checkedWord n = .ok word ∧ word.toNat = n := by
  have hvalue : (UInt32.ofNat n).toNat = n := UInt32.toNat_ofNat_of_lt' h
  exact ⟨UInt32.ofNat n, checkedWord_eq_ok_iff.mpr (congrArg _ hvalue), hvalue⟩

/-- Nothing else is wrong with a number than that 32 bits do not hold it. -/
theorem fault_of_checkedWord {n : Int} {fault : ValueType.Fault}
    (h : checkedWord n = .error fault) : fault = .overflow := by
  unfold checkedWord at h
  split at h
  · cases h
  · exact (Except.error.inj h).symm

theorem checkedWord_cases (n : Int) :
    (∃ word, checkedWord n = .ok word) ∨ checkedWord n = .error .overflow := by
  cases hword : checkedWord n with
  | ok word => exact .inl ⟨word, rfl⟩
  | error fault => exact .inr (by rw [fault_of_checkedWord hword])

@[simp] theorem checkedWord_ne_endless (n : Int) : checkedWord n ≠ .error .endlessStructure :=
  fun h => nomatch fault_of_checkedWord h

/-- A number is rounded up if there is room for the greatest number that rounds to the same. -/
theorem align16_eq_ok_iff {bytes next : UInt32} :
    align16 bytes = .ok next ↔
      bytes.toNat + 15 < UInt32.size ∧ next.toNat = roundUp 16 bytes.toNat := by
  have hround : ∀ word : UInt32, word.toNat = bytes.toNat + 15 →
      (word / 16 * 16).toNat = roundUp 16 bytes.toNat := by
    intro word hword
    have hlt : word.toNat < UInt32.size := word.toNat_lt
    simp only [UInt32.size] at hlt
    simp only [roundUp, UInt32.toNat_mul, UInt32.toNat_div, UInt32.reduceToNat]
    omega
  simp only [align16, bind_eq_ok, pure_eq_ok, checkedWord_eq_ok_iff]
  constructor
  · rintro ⟨word, hword, rfl⟩
    have hvalue : word.toNat = bytes.toNat + 15 := by omega
    exact ⟨hvalue ▸ word.toNat_lt, hround word hvalue⟩
  · rintro ⟨hlt, hnext⟩
    obtain ⟨word, -, hvalue⟩ := exists_checkedWord hlt
    refine ⟨word, by omega, ?_⟩
    rw [← UInt32.toNat_inj, hround word hvalue, hnext]

theorem exists_align16 {bytes : UInt32} (h : bytes.toNat + 15 < UInt32.size) :
    ∃ next, align16 bytes = .ok next ∧ next.toNat = roundUp 16 bytes.toNat := by
  have hlt : roundUp 16 bytes.toNat < UInt32.size := by
    unfold roundUp
    omega
  obtain ⟨next, -, hnext⟩ := exists_checkedWord hlt
  exact ⟨next, align16_eq_ok_iff.mpr ⟨h, hnext⟩, hnext⟩

theorem align16_cases (bytes : UInt32) :
    (∃ next, align16 bytes = .ok next) ∨ align16 bytes = .error .overflow :=
  bind_cases (checkedWord_cases _) fun word _ => .inl ⟨word / 16 * 16, rfl⟩

@[simp] theorem align16_ne_endless (bytes : UInt32) :
    align16 bytes ≠ .error .endlessStructure := by
  intro h
  rcases align16_cases bytes with ⟨next, hnext⟩ | hnext
  · cases hnext.symm.trans h
  · cases hnext.symm.trans h

namespace ValueType

variable {type element : ValueType}

/-! ## The types that a block can hold -/

/-- Scalars, vectors and matrices of floats, of two to four rows and columns. -/
def IsBlockElement : ValueType → Prop
  | scalar _ => True
  | vector _ width => width ∈ [2, 3, 4]
  | matrix base rows columns => base = .float ∧ rows ∈ [2, 3, 4] ∧ columns ∈ [2, 3, 4]
  | array _ _ | struct _ => False

/-- These types and arrays of them whose length is a number. -/
def IsBlockValue (type : ValueType) : Prop :=
  type.IsBlockElement ∨
    ∃ element length, type = array element (.fixed length) ∧ element.IsBlockElement

instance : DecidablePred IsBlockElement
  | scalar _ => .isTrue trivial
  | vector _ width => inferInstanceAs (Decidable (width ∈ [2, 3, 4]))
  | matrix base rows columns =>
    inferInstanceAs (Decidable (base = .float ∧ rows ∈ [2, 3, 4] ∧ columns ∈ [2, 3, 4]))
  | array _ _ | struct _ => .isFalse id

instance : DecidablePred IsBlockValue
  | array element (.fixed length) => decidable_of_iff element.IsBlockElement
      ⟨fun h => .inr ⟨element, length, rfl, h⟩, by simp [IsBlockValue, IsBlockElement]⟩
  | array element .outerFactors | array element .innerFactors =>
    .isFalse (by simp [IsBlockValue, IsBlockElement])
  | scalar base => decidable_of_iff (scalar base).IsBlockElement (by simp [IsBlockValue])
  | vector base width =>
    decidable_of_iff (vector base width).IsBlockElement (by simp [IsBlockValue])
  | matrix base rows columns =>
    decidable_of_iff (matrix base rows columns).IsBlockElement (by simp [IsBlockValue])
  | struct name => .isFalse (by simp [IsBlockValue, IsBlockElement])

/-- The packed size without a bound. -/
def packedBytes : ValueType → Nat
  | scalar _ => 4
  | vector _ width => 4 * width.toNat
  | matrix _ rows columns => 16 * (columns.toNat - 1) + 4 * rows.toNat
  | array element (.fixed length) =>
    roundUp 16 element.packedBytes * (length.toNat - 1) + element.packedBytes
  | array _ _ | struct _ => 0

/-- The size in a GLSL block without a bound. -/
def blockBytes : ValueType → Nat
  | scalar _ => 4
  | vector _ width => 4 * width.toNat
  | matrix _ _ columns => 16 * columns.toNat
  | array element (.fixed length) => roundUp 16 element.blockBytes * length.toNat
  | array _ _ | struct _ => 0

/-! ## Elements -/

/-- There are few elements: a statement about all of them is checked one by one. -/
theorem IsBlockElement.induction {P : ValueType → Prop} (hscalar : ∀ base, P (scalar base))
    (hvector : ∀ base, ∀ width ∈ [2, 3, 4], P (vector base width))
    (hmatrix : ∀ rows ∈ [2, 3, 4], ∀ columns ∈ [2, 3, 4], P (matrix .float rows columns))
    (h : type.IsBlockElement) : P type := by
  cases type with
  | scalar base => exact hscalar base
  | vector base width => exact hvector base width h
  | matrix base rows columns =>
    obtain ⟨rfl, hrows, hcolumns⟩ := h
    exact hmatrix rows hrows columns hcolumns
  | array element size => exact h.elim
  | struct name => exact h.elim

/-- What is known of the sizes of an element: they are the ones that are computed, and rounded up to
sixteen bytes they are one small number. -/
structure HasSizes (type : ValueType) : Prop where
  packed : ∀ sizeOf, type.packedSize sizeOf = checkedWord type.packedBytes
  block : type.blockSize = checkedWord type.blockBytes
  same : roundUp 16 type.packedBytes = roundUp 16 type.blockBytes
  lt : roundUp 16 type.blockBytes + 15 < UInt32.size

theorem IsBlockElement.hasSizes (h : type.IsBlockElement) : type.HasSizes := by
  have hscalar : Except.ok 4 = checkedWord (4 : Nat) := by decide +kernel
  refine IsBlockElement.induction (P := HasSizes) (fun base => ⟨fun _ => hscalar, hscalar, rfl,
    (by decide : roundUp 16 4 + 15 < UInt32.size)⟩) ?_ ?_ h
  · intro base width hwidth
    have hsize : ∀ width ∈ ([2, 3, 4] : List UInt8),
        Except.ok (4 * width.toUInt32) = checkedWord (4 * width.toNat : Nat) ∧
          roundUp 16 (4 * width.toNat) + 15 < UInt32.size := by decide +kernel
    obtain ⟨hnumber, hlt⟩ := hsize width hwidth
    exact ⟨fun _ => hnumber, hnumber, rfl, hlt⟩
  · intro rows hrows columns hcolumns
    have hsize : ∀ rows ∈ ([2, 3, 4] : List UInt8), ∀ columns ∈ ([2, 3, 4] : List UInt8),
        (matrix .float rows columns).packedSize (fun name => .error (.unknownStructure name)) =
            checkedWord (16 * (columns.toNat - 1) + 4 * rows.toNat : Nat) ∧
          Except.ok (16 * columns.toUInt32) = checkedWord (16 * columns.toNat : Nat) ∧
          roundUp 16 (16 * (columns.toNat - 1) + 4 * rows.toNat) =
            roundUp 16 (16 * columns.toNat) ∧
          roundUp 16 (16 * columns.toNat) + 15 < UInt32.size := by decide +kernel
    obtain ⟨hpacked, hblock, hsame, hlt⟩ := hsize rows hrows columns hcolumns
    exact ⟨fun _ => hpacked, hblock, hsame, hlt⟩

/-- Elements are small. -/
theorem HasSizes.exists_stride (h : type.HasSizes) {bytes : Nat}
    (hbytes : roundUp 16 bytes = roundUp 16 type.blockBytes) :
    ∃ size stride, checkedWord bytes = .ok size ∧ size.toNat = bytes ∧ align16 size = .ok stride ∧
      stride.toNat = roundUp 16 bytes := by
  have hlt := h.lt
  have hle := le_roundUp (by decide : 0 < 16) bytes
  obtain ⟨size, hsize, hvalue⟩ := exists_checkedWord (by omega : bytes < UInt32.size)
  obtain ⟨stride, hstride, hround⟩ :=
    exists_align16 (by omega : size.toNat + 15 < UInt32.size)
  exact ⟨size, stride, hsize, hvalue, hstride, hvalue ▸ hround⟩

/-! ## Types that a block can hold -/

variable {length : UInt32}

private theorem one_le_toNat (h : (array element (.fixed length)).fixedLength? ≠ some 0) :
    1 ≤ length.toNat := by
  refine Nat.one_le_iff_ne_zero.mpr fun hzero => h ?_
  obtain rfl : length = 0 := UInt32.toNat_inj.mp hzero
  rfl

/-- Arrays round their elements up in both layouts and differ only after the last one.  The packed
size supposes that there is one. -/
theorem IsBlockValue.roundUp_packedBytes (h : type.IsBlockValue)
    (hlength : type.fixedLength? ≠ some 0) :
    roundUp 16 type.packedBytes = roundUp 16 type.blockBytes := by
  rcases h with helement | ⟨element, length, rfl, helement⟩
  · exact helement.hasSizes.same
  · have hsame := helement.hasSizes.same
    have hpos : length.toNat - 1 + 1 = length.toNat := Nat.sub_add_cancel (one_le_toNat hlength)
    have hbefore : 16 ∣ roundUp 16 element.packedBytes * (length.toNat - 1) :=
      Nat.dvd_mul_right_of_dvd (dvd_roundUp ..) _
    have hwhole : 16 ∣ roundUp 16 element.blockBytes * length.toNat :=
      Nat.dvd_mul_right_of_dvd (dvd_roundUp ..) _
    rw [packedBytes, blockBytes, roundUp_add (by decide) hbefore,
      roundUp_of_dvd (by decide) hwhole, ← Nat.mul_succ, Nat.succ_eq_add_one, hpos, hsame]

/-- A size is the unbounded one, if 32 bits hold that. -/
theorem IsBlockValue.packedSize_eq (h : type.IsBlockValue) (hlength : type.fixedLength? ≠ some 0)
    (sizeOf : String → Except Fault UInt32) :
    type.packedSize sizeOf = checkedWord type.packedBytes := by
  rcases h with helement | ⟨element, length, rfl, helement⟩
  · exact helement.hasSizes.packed sizeOf
  · have hsizes := helement.hasSizes
    have hlt : length.toNat - 1 < UInt32.size := Nat.lt_of_le_of_lt (Nat.sub_le ..) length.toNat_lt
    obtain ⟨size, stride, hsize, hvalue, hstride, hround⟩ := hsizes.exists_stride hsizes.same
    obtain ⟨others, hothers, hcount⟩ := exists_checkedWord hlt
    rw [Int.ofNat_sub (one_le_toNat hlength)] at hothers
    have hothers : checkedWord (length.toNat - 1) = .ok others := hothers
    rw [packedSize, hsizes.packed, hsize, ok_bind, hstride, ok_bind, hothers, ok_bind, hround,
      hcount, hvalue, packedBytes]
    rfl

/-- Every size in a block is a number of whole scalars. -/
theorem four_dvd_blockBytes (type : ValueType) : 4 ∣ type.blockBytes := by
  have hwhole : ∀ n, 4 ∣ roundUp 16 n := fun n =>
    Nat.dvd_trans (by decide : 4 ∣ 16) (dvd_roundUp 16 n)
  unfold blockBytes
  split <;> first
    | omega
    | exact Nat.dvd_mul_right_of_dvd (hwhole _) _

theorem IsBlockValue.blockSize_eq (h : type.IsBlockValue) :
    type.blockSize = checkedWord type.blockBytes := by
  rcases h with helement | ⟨element, length, rfl, helement⟩
  · exact helement.hasSizes.block
  · have hsizes := helement.hasSizes
    obtain ⟨size, stride, hsize, -, hstride, hround⟩ := hsizes.exists_stride rfl
    rw [blockSize, hsizes.block, hsize, ok_bind, hstride, ok_bind, hround, blockBytes]
    rfl

end ValueType

end CrossShade
