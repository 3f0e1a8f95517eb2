import CrossShade.Proofs.UniformBuffer.Nesting

/-!
# Layouts beyond 32 bits

Sizes and offsets are 32-bit numbers.  Whoever asks for a layout with greater ones is told nothing:
the program ends at the first of them.

* `ValueType.Takes` counts the bytes of a type without a bound, and `byteSpans` gives the places of
  members that are packed one after the other.
* `ValueType.InReach` and `RowInReach` say that 32 bits hold every number on the way to the size of
  a type and to the places of a row.
* `takes_of_sizeIn` says that a size is the count of bytes and in reach, `exists_sizeIn` that what
  is in reach has a size, and `sizeIn_cases` that for what can be counted nothing else can be wrong.
* `packed_fills_byteSpans` says the same of packed buffers.
-/

namespace CrossShade

variable {structures : List Structure} {type : ValueType} {name : String} {n : Int}

/-! ## Counting without a bound -/

/-- The least multiple of sixteen that is not below an integer. -/
def nextMultiple (bytes : Int) : Int :=
  (bytes + 15) / 16 * 16

/-- Where things of some sizes start and end.  The first one starts at `offset`, and every other one
at the next multiple of sixteen after the end of the one before it. -/
def byteSpans : (offset : Int) → (sizes : List Int) → List (Int × Int)
  | _, [] => []
  | offset, size :: more => (offset, offset + size) :: byteSpans (nextMultiple (offset + size)) more

/-- Where the last of some spans ends; without spans it is `last`. -/
def lastEnd (last : Int) (row : List (Int × Int)) : Int :=
  (row.getLast?.map Prod.snd).getD last

/-- The bytes that a type takes.  There is no count for a structure that is not declared or contains
itself, nor for an array of tessellation factors. -/
inductive ValueType.Takes (structures : List Structure) : ValueType → Int → Prop where
  | scalar (base : ScalarType) : Takes structures (.scalar base) 4
  | vector (base : ScalarType) (width : UInt8) :
    Takes structures (.vector base width) (4 * width.toNat)
  | matrix (base : ScalarType) (rows columns : UInt8) :
    Takes structures (.matrix base rows columns) (16 * (columns.toNat - 1) + 4 * rows.toNat)
  | array {element : ValueType} {size : Int} (length : UInt32)
    (helement : Takes structures element size) :
    Takes structures (.array element (.fixed length))
      (nextMultiple size * (length.toNat - 1) + size)
  | struct {name : String} {found : Structure} {sizes : List Int}
    (hfound : structures.find? (·.name == name) = some found)
    (hlength : found.members.length = sizes.length)
    (hmembers : ∀ part ∈ found.members.zip sizes, Takes structures part.1.type part.2) :
    Takes structures (.struct name) (lastEnd 0 (byteSpans 0 sizes))

/-- The bytes that the members of a row take, one by one. -/
def TakeAll (structures : List Structure) : List Field → List Int → Prop :=
  List.Forall₂ fun field size => field.type.Takes structures size

theorem takes_struct {found : Structure} {sizes : List Int}
    (hfound : structures.find? (·.name == name) = some found)
    (hmembers : TakeAll structures found.members sizes) :
    (ValueType.struct name).Takes structures (lastEnd 0 (byteSpans 0 sizes)) := by
  obtain ⟨hlength, hzip⟩ := List.forall₂_iff_zip.mp hmembers
  exact .struct hfound hlength fun part hpart => hzip hpart

/-- The last end of a row is that of its last thing, wherever the row starts. -/
theorem lastEnd_byteSpans_cons (last offset size : Int) (more : List Int) :
    lastEnd last (byteSpans offset (size :: more)) =
      lastEnd (offset + size) (byteSpans (nextMultiple (offset + size)) more) := by
  unfold lastEnd
  rw [byteSpans, List.getLast?_cons]
  cases (byteSpans (nextMultiple (offset + size)) more).getLast? <;> rfl

/-! ## What 32 bits hold -/

/-- 32 bits hold where things of some sizes end, and there is room to round each end up. -/
def RowInReach (offset : Int) (sizes : List Int) : Prop :=
  ∀ span ∈ byteSpans offset sizes, span.2 + 15 < UInt32.size

/-- 32 bits hold every number on the way to the size of a type.  They hold none below zero, which is
what is before the last of no columns and of no elements. -/
inductive ValueType.InReach (structures : List Structure) : ValueType → Prop where
  | scalar (base : ScalarType) : InReach structures (.scalar base)
  | vector (base : ScalarType) (width : UInt8) : InReach structures (.vector base width)
  | matrix (base : ScalarType) (rows : UInt8) {columns : UInt8} (hcolumns : columns ≠ 0) :
    InReach structures (.matrix base rows columns)
  | array {element : ValueType} {size : Int} {length : UInt32}
    (helement : InReach structures element) (hsize : element.Takes structures size)
    (hround : size + 15 < UInt32.size) (hlength : length ≠ 0)
    (hend : nextMultiple size * (length.toNat - 1) + size < UInt32.size) :
    InReach structures (.array element (.fixed length))
  | struct {name : String} {found : Structure} {sizes : List Int}
    (hfound : structures.find? (·.name == name) = some found)
    (hmembers : ∀ field ∈ found.members, InReach structures field.type)
    (hsizes : TakeAll structures found.members sizes) (hrow : RowInReach 0 sizes) :
    InReach structures (.struct name)

theorem rowInReach_cons_iff {offset size : Int} {more : List Int} :
    RowInReach offset (size :: more) ↔
      offset + size + 15 < UInt32.size ∧ RowInReach (nextMultiple (offset + size)) more :=
  List.forall_mem_cons

theorem align16_eq_ok_iff_nextMultiple {ending next : UInt32} :
    align16 ending = .ok next ↔ (ending.toNat : Int) + 15 < UInt32.size ∧
      (next.toNat : Int) = nextMultiple ending.toNat := by
  rw [align16_eq_ok_iff, nextMultiple, roundUp]
  simp only [UInt32.size]
  omega

/-! ## Sizes that are computed -/

/-- The end of a row is where its last member ends, and all ends are in reach. -/
theorem row_of_packedEnd {sizeOf : ValueType → Except ValueType.Fault UInt32} {fields : List Field}
    {offset last ending : UInt32}
    (hfields : ∀ field ∈ fields, ∀ size : UInt32, sizeOf field.type = .ok size →
      field.type.Takes structures size.toNat)
    (h : packedEnd sizeOf offset last (fields.map (·.type)) = .ok ending) :
    ∃ sizes, TakeAll structures fields sizes ∧ RowInReach offset.toNat sizes ∧
      (ending.toNat : Int) = lastEnd last.toNat (byteSpans offset.toNat sizes) := by
  induction fields generalizing offset last with
  | nil =>
    cases h
    exact ⟨[], .nil, nofun, rfl⟩
  | cons field more ih =>
    obtain ⟨hfield, hmore⟩ := List.forall_mem_cons.mp hfields
    obtain ⟨size, first, next, hsize, hfirst, hround, hrest⟩ := packedEnd_cons_eq_ok_iff.mp h
    obtain ⟨sizes, hsizes, hrow, hending⟩ := ih hmore hrest
    obtain ⟨hlt, hnext⟩ := align16_eq_ok_iff_nextMultiple.mp hround
    have hsum : (first.toNat : Int) = offset.toNat + size.toNat := by omega
    rw [hnext, hsum] at hrow hending
    rw [hsum] at hlt
    refine ⟨size.toNat :: sizes, .cons (hfield size hsize) hsizes,
      rowInReach_cons_iff.mpr ⟨hlt, hrow⟩, ?_⟩
    rw [hending, lastEnd_byteSpans_cons]

/-- A size is the count of bytes, if those of structures are. -/
theorem takes_of_packedSize {sizeOf : String → Except ValueType.Fault UInt32}
    (hsizes : ∀ name (size : UInt32), sizeOf name = .ok size →
      (ValueType.struct name).Takes structures size.toNat ∧
        (ValueType.struct name).InReach structures)
    {size : UInt32} (h : type.packedSize sizeOf = .ok size) :
    type.Takes structures size.toNat ∧ type.InReach structures := by
  induction type generalizing size with
  | scalar base =>
    cases h
    exact ⟨.scalar base, .scalar base⟩
  | vector base width =>
    have hvalue : (size.toNat : Int) = 4 * width.toNat := by
      cases h
      have hlt := width.toNat_lt
      rw [UInt32.toNat_mul, UInt8.toNat_toUInt32]
      simp only [UInt32.reduceToNat]
      omega
    exact ⟨hvalue ▸ .vector base width, .vector base width⟩
  | matrix base rows columns =>
    simp only [ValueType.packedSize, bind_eq_ok, checkedWord_eq_ok_iff] at h
    obtain ⟨others, hothers, hsize⟩ := h
    have hcolumns : columns ≠ 0 := by
      rintro rfl
      simp only [UInt8.reduceToNat] at hothers
      omega
    rw [hothers] at hsize
    exact ⟨hsize ▸ .matrix base rows columns, .matrix base rows hcolumns⟩
  | array element length ih =>
    cases length with
    | fixed count =>
      simp only [ValueType.packedSize, bind_eq_ok, checkedWord_eq_ok_iff] at h
      obtain ⟨inner, hinner, stride, hstride, others, hothers, hsize⟩ := h
      obtain ⟨htakes, hreach⟩ := ih hinner
      obtain ⟨hround, hnext⟩ := align16_eq_ok_iff_nextMultiple.mp hstride
      have hcount : count ≠ 0 := by
        rintro rfl
        simp only [UInt32.reduceToNat] at hothers
        omega
      rw [hnext, hothers] at hsize
      have hlt : (size.toNat : Int) < UInt32.size := Int.ofNat_lt.mpr size.toNat_lt
      exact ⟨hsize ▸ .array count htakes, .array hreach htakes hround hcount (hsize ▸ hlt)⟩
    | outerFactors => cases h
    | innerFactors => cases h
  | struct name => exact hsizes name size h

/-- The induction is on the depth. -/
theorem takes_of_structureSizeWithin (depth : Nat) (name : String) (size : UInt32)
    (h : structureSizeWithin structures depth name = .ok size) :
    (ValueType.struct name).Takes structures size.toNat ∧
      (ValueType.struct name).InReach structures := by
  induction depth generalizing name size with
  | zero =>
    cases hfind : structures.find? (·.name == name) with
    | none =>
      rw [structureSizeWithin_of_find?_eq_none 0 hfind] at h
      cases h
    | some found =>
      rw [structureSizeWithin_zero hfind] at h
      cases h
  | succ depth ih =>
    cases hfind : structures.find? (·.name == name) with
    | none =>
      rw [structureSizeWithin_of_find?_eq_none _ hfind] at h
      cases h
    | some found =>
      rw [structureSizeWithin_succ depth hfind, Structure.sizeWith_eq_ok_iff] at h
      have hinside : ∀ other (inner : UInt32),
          sizeFromInside found.name (structureSizeWithin structures depth) other = .ok inner →
            (ValueType.struct other).Takes structures inner.toNat ∧
              (ValueType.struct other).InReach structures := by
        intro other inner hother
        unfold sizeFromInside at hother
        split at hother
        · cases hother
        · exact ih other inner hother
      obtain ⟨sizes, hsizes, hrow, hending⟩ := row_of_packedEnd
        (fun _ _ _ hmember => (takes_of_packedSize hinside hmember).1) h
      refine ⟨hending ▸ takes_struct hfind hsizes, .struct hfind ?_ hsizes hrow⟩
      intro field hfield
      obtain ⟨inner, hinner⟩ := size_of_packedEnd h hfield
      exact (takes_of_packedSize hinside hinner).2

/-- The size of a type is the count of its bytes, and in reach. -/
theorem takes_of_sizeIn {size : UInt32} (h : type.sizeIn structures = .ok size) :
    type.Takes structures size.toNat ∧ type.InReach structures :=
  takes_of_packedSize (takes_of_structureSizeWithin _) h

/-! ## One count -/

/-- If the members of a row have one count each, so has the row. -/
theorem sizes_unique {fields : List Field} {sizes others : List Int}
    (h : List.Forall₂ (fun (field : Field) size => ∀ other, field.type.Takes structures other →
      size = other) fields sizes) (hothers : TakeAll structures fields others) :
    sizes = others := by
  induction h generalizing others with
  | nil =>
    cases hothers
    rfl
  | cons hfield _ ih =>
    cases hothers with
    | cons hother hmore => rw [hfield _ hother, ih hmore]

/-- A type takes one number of bytes. -/
theorem takes_unique {other : Int} (h : type.Takes structures n)
    (hother : type.Takes structures other) : n = other := by
  induction h generalizing other with
  | scalar base =>
    cases hother
    rfl
  | vector base width =>
    cases hother
    rfl
  | matrix base rows columns =>
    cases hother
    rfl
  | array length _ ih =>
    cases hother with
    | array _ helement => rw [ih helement]
  | @struct name found sizes hfound hlength _ ih =>
    cases hother with
    | @struct _ same others hsame hlengths hothers =>
      obtain rfl : found = same := Option.some.inj (hfound.symm.trans hsame)
      have hcounts : TakeAll structures found.members others :=
        List.forall₂_iff_zip.mpr ⟨hlengths, fun hpart => hothers _ hpart⟩
      have hunique : sizes = others := by
        apply sizes_unique _ hcounts
        exact List.forall₂_iff_zip.mpr ⟨hlength, fun hpart _ hcount => ih _ hpart hcount⟩
      rw [hunique]

theorem takeAll_unique {fields : List Field} {sizes others : List Int}
    (h : TakeAll structures fields sizes) (hothers : TakeAll structures fields others) :
    sizes = others :=
  sizes_unique (h.imp fun _ _ hcount _ hother => takes_unique hcount hother) hothers

/-! ## Sizes that can be computed -/

/-- A row of members with sizes has an end if all ends are in reach. -/
theorem exists_packedEnd {sizeOf : ValueType → Except ValueType.Fault UInt32} {fields : List Field}
    {sizes : List Int} (offset last : UInt32)
    (h : List.Forall₂ (fun (field : Field) size => ∃ word : UInt32,
      sizeOf field.type = .ok word ∧ (word.toNat : Int) = size) fields sizes)
    (hrow : RowInReach offset.toNat sizes) :
    ∃ ending, packedEnd sizeOf offset last (fields.map (·.type)) = .ok ending := by
  induction h generalizing offset last with
  | nil => exact ⟨last, rfl⟩
  | @cons field size more sizes hfield _ ih =>
    obtain ⟨word, hsize, rfl⟩ := hfield
    obtain ⟨hlt, hrest⟩ := rowInReach_cons_iff.mp hrow
    obtain ⟨ending, hending, hvalue⟩ :=
      exists_checkedWord (by omega : offset.toNat + word.toNat < UInt32.size)
    obtain ⟨next, hround, -⟩ := exists_align16 (by omega : ending.toNat + 15 < UInt32.size)
    have hnext := (align16_eq_ok_iff_nextMultiple.mp hround).2
    rw [hvalue, Int.natCast_add] at hnext
    rw [List.map_cons, packedEnd_cons hsize hending hround]
    exact ih next ending (hnext ▸ hrest)

/-- What is in reach has a size. -/
theorem exists_sizeIn (h : type.InReach structures) :
    ∃ size, type.sizeIn structures = .ok size := by
  induction h with
  | scalar base => exact ⟨4, rfl⟩
  | vector base width => exact ⟨4 * width.toUInt32, rfl⟩
  | @matrix base rows columns hcolumns =>
    have hpos : 1 ≤ columns.toNat :=
      Nat.one_le_iff_ne_zero.mpr fun hzero => hcolumns (UInt8.toNat_inj.mp hzero)
    have hrows := rows.toNat_lt
    have hlt := columns.toNat_lt
    have hwords : UInt32.size = 2 ^ 32 := rfl
    obtain ⟨others, hothers, hvalue⟩ :=
      exists_checkedWord (by omega : columns.toNat - 1 < UInt32.size)
    obtain ⟨size, hsize, -⟩ :=
      exists_checkedWord (by omega : 16 * others.toNat + 4 * rows.toNat < UInt32.size)
    rw [Int.natCast_sub hpos] at hothers
    refine ⟨size, ?_⟩
    rw [ValueType.sizeIn, ValueType.packedSize]
    exact bind_eq_ok.mpr ⟨others, hothers, hsize⟩
  | @array element size length _ htakes hround hlength hend ih =>
    obtain ⟨inner, hinner⟩ := ih
    obtain rfl : (inner.toNat : Int) = size := takes_unique (takes_of_sizeIn hinner).1 htakes
    obtain ⟨stride, hstride, -⟩ := exists_align16 (by omega : inner.toNat + 15 < UInt32.size)
    have hnext := (align16_eq_ok_iff_nextMultiple.mp hstride).2
    have hpos : 1 ≤ length.toNat :=
      Nat.one_le_iff_ne_zero.mpr fun hzero => hlength (UInt32.toNat_inj.mp hzero)
    obtain ⟨others, hothers, hvalue⟩ :=
      exists_checkedWord (Nat.lt_of_le_of_lt (Nat.sub_le _ 1) length.toNat_lt)
    rw [Int.natCast_sub hpos] at hothers
    have hcount : (others.toNat : Int) = length.toNat - 1 := by omega
    rw [← hnext, ← hcount] at hend
    obtain ⟨whole, hwhole, -⟩ := exists_checkedWord
      (by exact_mod_cast hend : stride.toNat * others.toNat + inner.toNat < UInt32.size)
    refine ⟨whole, ?_⟩
    rw [ValueType.sizeIn, ValueType.packedSize]
    exact bind_eq_ok.mpr ⟨inner, hinner, bind_eq_ok.mpr ⟨stride, hstride,
      bind_eq_ok.mpr ⟨others, hothers, hwhole⟩⟩⟩
  | @struct name found sizes hfound _ hsizes hrow ih =>
    have hmembers := List.forall₂_iff_zip.mp hsizes
    have hwords : List.Forall₂ (fun (field : Field) size => ∃ word : UInt32,
        field.type.sizeIn structures = .ok word ∧ (word.toNat : Int) = size)
        found.members sizes := by
      refine List.forall₂_iff_zip.mpr ⟨hmembers.1, fun {field size} hpart => ?_⟩
      obtain ⟨word, hword⟩ := ih field (List.of_mem_zip hpart).1
      exact ⟨word, hword, takes_unique (takes_of_sizeIn hword).1 (hmembers.2 hpart)⟩
    obtain ⟨ending, hending⟩ := exists_packedEnd 0 0 hwords hrow
    exact ⟨ending, structureSize_eq_packedEnd hfound hending⟩

/-- Whatever stands in a list has a counterpart in a list of the same length. -/
theorem exists_mem_zip {α β : Type} {list : List α} {others : List β}
    (hlength : list.length = others.length) {a : α} (h : a ∈ list) :
    ∃ b, (a, b) ∈ list.zip others := by
  obtain ⟨i, hi, rfl⟩ := List.mem_iff_getElem.mp h
  refine ⟨others[i], List.mem_iff_getElem.mpr ⟨i, ?_, List.getElem_zip⟩⟩
  rw [List.length_zip]
  omega

/-- What can be counted leads into no cycle. -/
theorem not_reachesCycle_of_takes (h : type.Takes structures n) :
    ¬type.ReachesCycle structures := by
  rintro ⟨name, hname, hcycle⟩
  induction h generalizing name with
  | scalar | vector | matrix => cases hname
  | array length _ ih => exact ih name hname hcycle
  | @struct declared found sizes hfound hlength _ ih =>
    cases hname
    obtain ⟨other, ⟨same, hsame, field, hfield, hother⟩, hturn⟩ := hcycle.exists_refers
    obtain rfl : found = same := Option.some.inj (hfound.symm.trans hsame)
    obtain ⟨size, hpart⟩ := exists_mem_zip hlength hfield
    exact ih (field, size) hpart other hother hturn

/-- Nothing is wrong with what can be counted but that it is beyond 32 bits.  The induction is on
the count. -/
theorem sizeIn_cases (h : type.Takes structures n) :
    (∃ size, type.sizeIn structures = .ok size) ∨ type.sizeIn structures = .error .overflow := by
  induction h with
  | scalar base => exact .inl ⟨4, rfl⟩
  | vector base width => exact .inl ⟨4 * width.toUInt32, rfl⟩
  | matrix base rows columns =>
    rw [ValueType.sizeIn, ValueType.packedSize]
    exact bind_cases (checkedWord_cases _) fun _ _ => checkedWord_cases _
  | @array element size length _ ih =>
    rw [ValueType.sizeIn, ValueType.packedSize]
    rw [ValueType.sizeIn] at ih
    refine bind_cases ih fun inner _ => ?_
    refine bind_cases (align16_cases inner) fun _ _ => ?_
    exact bind_cases (checkedWord_cases _) fun _ _ => checkedWord_cases _
  | @struct name found sizes hfound hlength hmembers ih =>
    have hrow : (∃ ending, packedEnd (ValueType.sizeIn structures) 0 0
          (found.members.map (·.type)) = .ok ending) ∨
        packedEnd (ValueType.sizeIn structures) 0 0 (found.members.map (·.type)) =
          .error .overflow := by
      refine packedEnd_cases fun type htype => ?_
      obtain ⟨field, hfield, rfl⟩ := List.mem_map.mp htype
      obtain ⟨size, hpart⟩ := exists_mem_zip hlength hfield
      exact ih (field, size) hpart
    rcases hrow with ⟨ending, hending⟩ | hoverflow
    · exact .inl ⟨ending, structureSize_eq_packedEnd hfound hending⟩
    · refine .inr (structureSize_eq_overflow hfound (fun field hfield => ?_) hoverflow)
      obtain ⟨size, hpart⟩ := exists_mem_zip hlength hfield
      exact not_reachesCycle_of_takes (hmembers (field, size) hpart)

/-! ## Packed buffers -/

/-- A member starts and ends where a span does. -/
structure UniformMember.Fills (structures : List Structure) (m : UniformMember)
    (span : Int × Int) : Prop where
  offset : m.offset.toNat = span.1
  ending : ∃ size, m.type.sizeIn structures = .ok size ∧
    m.offset.toNat + size.toNat = span.2

/-- Both ends of a span are numbers of 32 bits. -/
def FitsWord (span : Int × Int) : Prop :=
  (0 ≤ span.1 ∧ span.1 < UInt32.size) ∧ 0 ≤ span.2 ∧ span.2 < UInt32.size

namespace UniformBuffer

variable {fields : List Field} {sizes : List Int} {offset : UInt32} {placed : List UniformMember}

/-- Members that are placed can be counted, and each fills its span. -/
theorem fills_of_placeMembers (h : placeMembers structures offset fields = .ok placed) :
    ∃ sizes, TakeAll structures fields sizes ∧ placed.map (fun m => ⟨m.type, m.name⟩) = fields ∧
      List.Forall₂ (UniformMember.Fills structures) placed (byteSpans offset.toNat sizes) ∧
      ∀ span ∈ byteSpans offset.toNat sizes, FitsWord span := by
  induction fields generalizing offset placed with
  | nil =>
    cases h
    exact ⟨[], .nil, rfl, .nil, nofun⟩
  | cons field more ih =>
    obtain ⟨size, ending, next, following, hsize, hending, hround, hfollowing, rfl⟩ :=
      placeMembers_cons_eq_ok_iff.mp h
    obtain ⟨sizes, hsizes, hfields, hfills, hfits⟩ := ih hfollowing
    obtain ⟨-, hnext⟩ := align16_eq_ok_iff_nextMultiple.mp hround
    have hsum : (ending.toNat : Int) = offset.toNat + size.toNat := by omega
    rw [hnext, hsum] at hfills hfits
    have hspan : FitsWord (offset.toNat, offset.toNat + size.toNat) := by
      have hoffset : offset.toNat < UInt32.size := offset.toNat_lt
      have hlt : ending.toNat < UInt32.size := ending.toNat_lt
      simp only [FitsWord]
      omega
    refine ⟨size.toNat :: sizes, .cons (takes_of_sizeIn hsize).1 hsizes, ?_,
      .cons ⟨rfl, size, hsize, rfl⟩ hfills, List.forall_mem_cons.mpr ⟨hspan, hfits⟩⟩
    rw [List.map_cons, hfields]

/-- Members that can be counted are placed if and only if all numbers are in reach. -/
theorem exists_placeMembers_iff_inReach (h : TakeAll structures fields sizes) :
    (∃ placed, placeMembers structures 0 fields = .ok placed) ↔
      (∀ field ∈ fields, field.type.InReach structures) ∧ RowInReach 0 sizes := by
  rw [exists_placeMembers_iff 0]
  constructor
  · rintro ⟨ending, hending⟩
    have htakes : ∀ field ∈ fields, ∀ size : UInt32, field.type.sizeIn structures = .ok size →
        field.type.Takes structures size.toNat := fun _ _ _ hsize => (takes_of_sizeIn hsize).1
    obtain ⟨others, hothers, hrow, -⟩ := row_of_packedEnd htakes hending
    refine ⟨fun field hfield => ?_, takeAll_unique hothers h ▸ hrow⟩
    obtain ⟨size, hsize⟩ := size_of_packedEnd hending hfield
    exact (takes_of_sizeIn hsize).2
  · rintro ⟨hfields, hrow⟩
    have hcounts := List.forall₂_iff_zip.mp h
    have hwords : List.Forall₂ (fun (field : Field) size => ∃ word : UInt32,
        field.type.sizeIn structures = .ok word ∧ (word.toNat : Int) = size) fields sizes := by
      refine List.forall₂_iff_zip.mpr ⟨hcounts.1, fun {field size} hpart => ?_⟩
      obtain ⟨word, hword⟩ := exists_sizeIn (hfields field (List.of_mem_zip hpart).1)
      exact ⟨word, hword, takes_unique (takes_of_sizeIn hword).1 (hcounts.2 hpart)⟩
    exact exists_packedEnd 0 0 hwords hrow

/-- A buffer that is packed is where it really is: its members start and end where they do without a
bound, and 32 bits hold all of these places.  A buffer whose bytes can be counted is packed if and
only if 32 bits hold every number on the way; otherwise packing ends with the first that they do
not hold. -/
theorem packed_fills_byteSpans (name : String) (slot : UInt32) (fields : List Field)
    (structures : List Structure) :
    (∀ buffer, packed name slot fields structures = .ok buffer →
      ∃ sizes, TakeAll structures fields sizes ∧
        (∀ others, TakeAll structures fields others → others = sizes) ∧
        buffer.members.map (fun m => ⟨m.type, m.name⟩) = fields ∧
        List.Forall₂ (UniformMember.Fills structures) buffer.members (byteSpans 0 sizes) ∧
        ∀ span ∈ byteSpans 0 sizes, FitsWord span) ∧
    ∀ sizes, TakeAll structures fields sizes →
      ((∃ buffer, packed name slot fields structures = .ok buffer) ↔
        (∀ field ∈ fields, field.type.InReach structures) ∧ RowInReach 0 sizes) ∧
      ((∃ buffer, packed name slot fields structures = .ok buffer) ∨
        packed name slot fields structures = .error .overflow) := by
  constructor
  · intro buffer hbuffer
    obtain ⟨placed, hplaced, rfl⟩ := packed_eq_ok_iff.mp hbuffer
    obtain ⟨sizes, hsizes, hfields, hfills, hfits⟩ := fills_of_placeMembers hplaced
    exact ⟨sizes, hsizes, fun others hothers => takeAll_unique hothers hsizes, hfields, hfills,
      hfits⟩
  · intro sizes hsizes
    rw [exists_packed_iff, packed_eq_error_iff]
    refine ⟨exists_placeMembers_iff_inReach hsizes, ?_⟩
    rw [exists_placeMembers_iff 0, placeMembers_eq_error_iff 0]
    refine packedEnd_cases fun type htype => ?_
    obtain ⟨field, hfield, rfl⟩ := List.mem_map.mp htype
    obtain ⟨size, -, htakes⟩ := exists_mem_of_forall₂ hsizes.flip hfield
    exact sizeIn_cases htakes

/-- A light of twenty bytes. -/
def lightStructures : List Structure :=
  [⟨"Light", [⟨.vector .float 3, "position"⟩, ⟨.scalar .float, "power"⟩]⟩]

/-- Three lights and the time: two of the lights take whole registers, the last one twenty bytes. -/
theorem packed_fills_byteSpans_lights :
    TakeAll lightStructures [⟨.array (.struct "Light") (.fixed 3), "lights"⟩,
      ⟨.scalar .float, "time"⟩] [84, 4] ∧
    ∃ buffer, packed "Frame" 0 [⟨.array (.struct "Light") (.fixed 3), "lights"⟩,
        ⟨.scalar .float, "time"⟩] lightStructures = .ok buffer ∧
      List.Forall₂ (UniformMember.Fills lightStructures) buffer.members [(0, 84), (96, 100)] ∧
      RowInReach 0 [84, 4] := by
  have hmembers : TakeAll lightStructures
      [⟨.vector .float 3, "position"⟩, ⟨.scalar .float, "power"⟩] [12, 4] :=
    .cons (.vector .float 3) (.cons (.scalar .float) .nil)
  have hlight : (ValueType.struct "Light").Takes lightStructures
      (lastEnd 0 (byteSpans 0 [12, 4])) :=
    takes_struct rfl hmembers
  have hsizes : TakeAll lightStructures [⟨.array (.struct "Light") (.fixed 3), "lights"⟩,
      ⟨.scalar .float, "time"⟩] [84, 4] :=
    .cons (.array 3 hlight) (.cons (.scalar .float) .nil)
  have hpacked : packed "Frame" 0 [⟨.array (.struct "Light") (.fixed 3), "lights"⟩,
      ⟨.scalar .float, "time"⟩] lightStructures =
        .ok ⟨"Frame", 0, [⟨.array (.struct "Light") (.fixed 3), "lights", 0⟩,
          ⟨.scalar .float, "time", 96⟩]⟩ := by decide +kernel
  obtain ⟨hplaced, hcounted⟩ := packed_fills_byteSpans "Frame" 0
    [⟨.array (.struct "Light") (.fixed 3), "lights"⟩, ⟨.scalar .float, "time"⟩] lightStructures
  obtain ⟨sizes, -, hunique, -, hfills, -⟩ := hplaced _ hpacked
  obtain rfl := hunique _ hsizes
  obtain ⟨-, hrow⟩ := (hcounted _ hsizes).1.mp ⟨_, hpacked⟩
  exact ⟨hsizes, _, hpacked, hfills, hrow⟩

/-- Not every buffer that 32 bits cannot count is refused: the first member takes 4294967296 bytes,
and the program ends when it computes their number. -/
theorem packed_overflows :
    packed "Samples" 0 [⟨.array .float4 (.fixed 268435456), "samples"⟩,
        ⟨.scalar .float, "count"⟩] [] = .error .overflow ∧
    TakeAll [] [⟨.array .float4 (.fixed 268435456), "samples"⟩, ⟨.scalar .float, "count"⟩]
      [4294967296, 4] ∧
    byteSpans 0 [4294967296, 4] = [(0, 4294967296), (4294967296, 4294967300)] ∧
    ¬∀ (fields : List Field) (structures : List Structure) (sizes : List Int) (name : String)
        (slot : UInt32), TakeAll structures fields sizes →
      (∃ span ∈ byteSpans 0 sizes, ¬FitsWord span) →
        ∃ fault, packed name slot fields structures = .error fault ∧ fault.isTold = true := by
  have hpacked : packed "Samples" 0 [⟨.array .float4 (.fixed 268435456), "samples"⟩,
      ⟨.scalar .float, "count"⟩] [] = .error .overflow := by decide +kernel
  have hsizes : TakeAll [] [⟨.array .float4 (.fixed 268435456), "samples"⟩,
      ⟨.scalar .float, "count"⟩] [4294967296, 4] :=
    .cons (.array 268435456 (.vector .float 4)) (.cons (.scalar .float) .nil)
  refine ⟨hpacked, hsizes, by decide, fun hclaim => ?_⟩
  obtain ⟨fault, hfault, htold⟩ := hclaim _ _ _ "Samples" 0 hsizes
    ⟨(0, 4294967296), by decide, fun hfits => absurd hfits.2.2 (by decide)⟩
  cases hpacked.symm.trans hfault
  cases htold

end UniformBuffer

end CrossShade
