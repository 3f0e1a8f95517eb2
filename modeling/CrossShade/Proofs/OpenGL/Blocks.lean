import CrossShade.Direct3D11.Source
import CrossShade.OpenGL.Std140
import CrossShade.Proofs.OpenGL.Document
import CrossShade.Proofs.Shader.Building
import CrossShade.Proofs.UniformBuffer.Placement

/-!
# One layout for two targets

A uniform buffer has one list of offsets, and both targets place its members by it: Direct3D 11 by
register numbers, OpenGL by floats that fill the gaps between the members of a block.

* `Overlaps` says that a member starts before the one before it ends in a block, and `Clear` says
  the opposite along the list.
* `Shows` relates members to declarations with offsets.
* `exists_member` gives the rules for a value that a block can hold: what its declaration takes is
  its size, and its alignment divides sixteen.
* `blockMembers_of_clear` and `blockMembers_of_not_clear` follow the members of a block, and
  `clear_placeMembers` those of a packed buffer.
* `layouts_agree` puts them together.
-/

namespace CrossShade

/-! ## Members that overlap -/

namespace UniformBuffer

/-- Some member starts before the end that the one before it has in a GLSL block. -/
def Overlaps (members : List UniformMember) : Prop :=
  ∃ first second size, [first, second] <:+: members ∧ first.type.blockSize = .ok size ∧
    second.offset.toNat < first.offset.toNat + size.toNat

/-- Every member can stand in a GLSL block, and ends within the reach of 32-bit numbers. -/
structure FitsBlock (members : List UniformMember) : Prop where
  values : ∀ member ∈ members, member.type.IsBlockValue
  ends : ∀ member ∈ members,
    member.offset.toNat + member.type.blockBytes < UInt32.size

/-- Every member starts at or after the end of what is before it, which ends at `position`. -/
def Clear : (position : Nat) → List UniformMember → Prop
  | _, [] => True
  | position, member :: rest =>
    position ≤ member.offset.toNat ∧ Clear (member.offset.toNat + member.type.blockBytes) rest

variable {member : UniformMember} {rest members : List UniformMember}

theorem FitsBlock.tail (h : FitsBlock (member :: rest)) : FitsBlock rest :=
  ⟨fun m hm => h.values m (List.mem_cons_of_mem _ hm),
    fun m hm => h.ends m (List.mem_cons_of_mem _ hm)⟩

theorem FitsBlock.toNat_blockSize (h : FitsBlock members) (hmember : member ∈ members) :
    ∃ size, member.type.blockSize = .ok size ∧ size.toNat = member.type.blockBytes := by
  have hends := h.ends member hmember
  rw [(h.values member hmember).blockSize_eq]
  exact exists_checkedWord (by omega)

/-- After its first member, a list overlaps where its second member does or later. -/
theorem overlaps_cons_cons (h : FitsBlock (member :: rest)) {second : UniformMember}
    {more : List UniformMember} (hrest : rest = second :: more) :
    Overlaps (member :: rest) ↔
      second.offset.toNat < member.offset.toNat + member.type.blockBytes ∨ Overlaps rest := by
  obtain ⟨size, hsize, hbytes⟩ := h.toNat_blockSize List.mem_cons_self
  subst hrest
  constructor
  · rintro ⟨a, b, sizeOfA, hinfix, hok, hlt⟩
    rcases List.infix_cons_iff.mp hinfix with hprefix | hlater
    · simp only [List.cons_prefix_cons, List.nil_prefix, and_true] at hprefix
      obtain ⟨rfl, rfl⟩ := hprefix
      obtain rfl : size = sizeOfA := Except.ok.inj (hsize.symm.trans hok)
      exact .inl (hbytes ▸ hlt)
    · exact .inr ⟨a, b, sizeOfA, hlater, hok, hlt⟩
  · rintro (hlt | ⟨a, b, sizeOfA, hinfix, hok, hlt⟩)
    · have hprefix : [member, second] <+: member :: second :: more :=
        ⟨more, rfl⟩
      exact ⟨member, second, size, hprefix.isInfix, hsize, hbytes ▸ hlt⟩
    · exact ⟨a, b, sizeOfA, hinfix.trans (List.suffix_cons ..).isInfix, hok, hlt⟩

theorem not_overlaps_of_length {members : List UniformMember} (h : members.length < 2) :
    ¬Overlaps members := by
  rintro ⟨a, b, size, hinfix, -⟩
  have hlength := hinfix.length_le
  simp only [List.length_cons, List.length_nil] at hlength
  omega

/-- From its first member on, a list is clear if it does not overlap. -/
theorem clear_cons_iff (h : FitsBlock (member :: rest)) {position : Nat}
    (hposition : position ≤ member.offset.toNat) :
    Clear position (member :: rest) ↔ ¬Overlaps (member :: rest) := by
  induction rest generalizing member position with
  | nil => simp [Clear, hposition, not_overlaps_of_length]
  | cons second more ih =>
    rw [overlaps_cons_cons h rfl, not_or, Nat.not_lt]
    constructor
    · rintro ⟨-, hclear⟩
      exact ⟨hclear.1, (ih h.tail hclear.1).mp hclear⟩
    · rintro ⟨hle, hmore⟩
      exact ⟨hposition, (ih h.tail hle).mpr hmore⟩

theorem clear_zero_iff (h : FitsBlock members) : Clear 0 members ↔ ¬Overlaps members := by
  cases members with
  | nil => simp [Clear, not_overlaps_of_length]
  | cons member rest => exact clear_cons_iff h (Nat.zero_le _)

end UniformBuffer

namespace OpenGL

open UniformBuffer

/-! ## What a declared value takes -/

namespace Std140

theorem stride_eq (width : Nat) : stride width = 16 := by
  unfold stride vectorAlignment
  split <;> rfl

theorem alignment_dvd (member : Member) : member.alignment ∣ 16 := by
  have hvector : ∀ width, vectorAlignment width ∣ 16 := by
    intro width
    unfold vectorAlignment
    split <;> decide
  unfold Member.alignment
  split
  · exact hvector _
  · simp only [stride_eq, Nat.dvd_refl]

theorem size_row (width count : Nat) : (⟨width, some count⟩ : Member).size = 16 * count := by
  show count * stride width = 16 * count
  rw [stride_eq, Nat.mul_comm]

/-- The names under which elements of a block are declared: vectors and scalars by their width,
matrices by their rows and columns. -/
def Names (type : ValueType) (name : String) : Prop :=
  (∃ width, vectorNames.lookup name = some width ∧ 1 ≤ width ∧ width ≤ 4 ∧
      type.blockBytes = 4 * width) ∨
    vectorNames.lookup name = none ∧ ∃ rows columns,
      matrixNames.lookup name = some (rows, columns) ∧ type.blockBytes = 16 * columns

theorem names_of_isBlockElement {type : ValueType} (h : type.IsBlockElement) :
    ∃ name, type.glsl = .ok name ∧ Names type name := by
  refine ValueType.IsBlockElement.induction
    (P := fun type => ∃ name, type.glsl = .ok name ∧ Names type name) ?_ ?_ ?_ h
  · intro base
    have hname : vectorNames.lookup base.word = some 1 := by cases base <;> decide +kernel
    exact ⟨base.word, rfl, .inl ⟨1, hname, by decide, by decide, rfl⟩⟩
  · intro base width hwidth
    have hname : ∀ width ∈ ([2, 3, 4] : List UInt8),
        vectorNames.lookup s!"{base.glslVector}{width}" = some width.toNat ∧
          1 ≤ width.toNat ∧ width.toNat ≤ 4 := by
      cases base <;> decide +kernel
    obtain ⟨hlookup, hpos, hle⟩ := hname width hwidth
    exact ⟨_, rfl, .inl ⟨width.toNat, hlookup, hpos, hle, rfl⟩⟩
  · intro rows hrows columns hcolumns
    have hname : ∀ rows ∈ ([2, 3, 4] : List UInt8), ∀ columns ∈ ([2, 3, 4] : List UInt8),
        ∀ name ∈ [if rows = columns then s!"mat{columns}" else s!"mat{columns}x{rows}"],
          vectorNames.lookup name = none ∧
            matrixNames.lookup name = some (rows.toNat, columns.toNat) := by
      decide +kernel
    obtain ⟨hvector, hmatrix⟩ := hname rows hrows columns hcolumns _ List.mem_cons_self
    exact ⟨_, rfl, .inr ⟨hvector, rows.toNat, columns.toNat, hmatrix, rfl⟩⟩

variable {type : ValueType} {name : String}

theorem Names.alone (h : Names type name) :
    ∃ member, Member.of? name none = some member ∧ member.size = type.blockBytes := by
  rcases h with ⟨width, hlookup, -, -, hbytes⟩ | ⟨hvector, rows, columns, hlookup, hbytes⟩
  · exact ⟨⟨width, none⟩, by simp [Member.of?, hlookup], hbytes.symm⟩
  · refine ⟨⟨rows, some columns⟩, by simp [Member.of?, hvector, hlookup], ?_⟩
    rw [size_row, hbytes]

theorem Names.row (h : Names type name) (length : Nat) :
    ∃ member, Member.of? name (some length) = some member ∧
      member.size = roundUp 16 type.blockBytes * length := by
  rcases h with ⟨width, hlookup, hpos, hle, hbytes⟩ | ⟨hvector, rows, columns, hlookup, hbytes⟩
  · refine ⟨⟨width, some length⟩, by simp [Member.of?, hlookup], ?_⟩
    have hwhole : roundUp 16 (4 * width) = 16 := by
      unfold roundUp
      omega
    rw [size_row, hbytes, hwhole]
  · refine ⟨⟨rows, some (columns * length)⟩, by simp [Member.of?, hvector, hlookup], ?_⟩
    have hwhole : roundUp 16 (16 * columns) = 16 * columns :=
      roundUp_of_dvd (by decide) (Nat.dvd_mul_right ..)
    rw [size_row, hbytes, hwhole, Nat.mul_assoc]

/-- A value of a block is declared with a type and a length, and these take as many bytes as the
value has in a block. -/
theorem exists_member (h : type.IsBlockValue) (name : String) :
    ∃ declared member, declare type name = .ok declared ∧
      Member.of? declared.type (declared.length.map (·.toNat)) = some member ∧
      member.size = type.blockBytes := by
  rcases h with helement | ⟨element, length, rfl, helement⟩
  · obtain ⟨typeName, hglsl, hnames⟩ := names_of_isBlockElement helement
    obtain ⟨member, hmember, hsize⟩ := hnames.alone
    have hlength : type.fixedLength? = none := by
      cases type <;> first | rfl | exact helement.elim
    have hdeclare : declare type name = .ok { type := typeName, name, length := none } := by
      rw [declare, OpenGL.typeName, hglsl, hlength]
      rfl
    exact ⟨_, member, hdeclare, hmember, hsize⟩
  · obtain ⟨typeName, hglsl, hnames⟩ := names_of_isBlockElement helement
    obtain ⟨member, hmember, hsize⟩ := hnames.row length.toNat
    have hdeclare : declare (.array element (.fixed length)) name =
        .ok { type := typeName, name, length := some length } := by
      rw [declare, OpenGL.typeName, ValueType.glsl, hglsl]
      rfl
    exact ⟨_, member, hdeclare, hmember, hsize⟩

end Std140

/-! ## The members of a block -/

/-- Declarations with offsets that show some members: every member stands in order at its own
offset, and what stands between them are floats that fill gaps. -/
inductive Shows : List UniformMember → List (Source.Declaration × Nat) → Prop
  | nil : Shows [] []
  | padding {members placed} (index pad offset : Nat) (rest : Shows members placed) :
      Shows members (({ type := "float", name := s!"_pad{index}_{pad}" }, offset) :: placed)
  | member {m declared members placed} (hdeclared : declare m.type m.name = .ok declared)
      (rest : Shows members placed) : Shows (m :: members) ((declared, m.offset.toNat) :: placed)

/-- The floats of a gap follow each other, and what comes after them starts where they end. -/
theorem layOut_padding (index : Nat) {position : Nat} (hposition : 4 ∣ position)
    {members : List UniformMember} {rest : List Source.Declaration}
    {placed : List (Source.Declaration × Nat)} (pads : List Nat)
    (hrest : Std140.layOut (position + 4 * pads.length) rest = some placed)
    (hdeclared : placed.map Prod.fst = rest) (hshows : Shows members placed) :
    ∃ whole, Std140.layOut position
        ((pads.map fun pad => { type := "float", name := s!"_pad{index}_{pad}" }) ++ rest) =
          some whole ∧
      whole.map Prod.fst =
        (pads.map fun pad => { type := "float", name := s!"_pad{index}_{pad}" }) ++ rest ∧
      Shows members whole := by
  induction pads generalizing position with
  | nil => exact ⟨placed, hrest, hdeclared, hshows⟩
  | cons pad pads ih =>
    have hnext : 4 ∣ position + 4 := Nat.dvd_add hposition (Nat.dvd_refl 4)
    have hfloat : Std140.Member.of? "float" none = some ⟨1, none⟩ := by decide +kernel
    have hend : position + 4 * (pads.length + 1) = position + 4 + 4 * pads.length := by omega
    rw [List.length_cons, hend] at hrest
    obtain ⟨whole, hwhole, hall, hshows⟩ := ih hnext hrest
    refine ⟨({ type := "float", name := s!"_pad{index}_{pad}" }, position) :: whole, ?_, ?_,
      .padding index pad position hshows⟩
    · have hplace : roundUp (⟨1, none⟩ : Std140.Member).alignment position = position :=
        roundUp_of_dvd (by decide) hposition
      simp only [List.map_cons, List.cons_append, Std140.layOut, Option.map_none, hfloat,
        Option.bind_eq_bind, Option.bind_some, hplace]
      rw [show position + (⟨1, none⟩ : Std140.Member).size = position + 4 from rfl, hwhole]
      rfl
    · rw [List.map_cons, hall]
      rfl

variable (buffer : String) {member : UniformMember} {rest members : List UniformMember}

/-- A member that does not start too early comes after the padding, and what follows starts where it
ends. -/
theorem blockMembers_cons (h : FitsBlock (member :: rest)) {position : UInt32}
    (hle : position.toNat ≤ member.offset.toNat) :
    ∃ declared shown ending, declare member.type member.name = .ok declared ∧
      Std140.Member.of? declared.type (declared.length.map (·.toNat)) = some shown ∧
      shown.size = member.type.blockBytes ∧
      ending.toNat = member.offset.toNat + member.type.blockBytes ∧
      ∀ index, blockMembers buffer index position (member :: rest) =
        (fun following => padding index (member.offset - position) ++ declared :: following) <$>
          blockMembers buffer (index + 1) ending rest := by
  obtain ⟨size, hsize, hsizeBytes⟩ := h.toNat_blockSize List.mem_cons_self
  obtain ⟨declared, shown, hdeclare, hshown, hshownSize⟩ :=
    Std140.exists_member (h.values member List.mem_cons_self) member.name
  have hends := h.ends member List.mem_cons_self
  obtain ⟨ending, hword, hending⟩ := exists_checkedWord hends
  have hend : blockEnd member = .ok ending := by
    rw [blockEnd, hsize, ok_bind, hsizeBytes]
    exact hword
  have hnotBefore : ¬member.offset < position := by
    rw [UInt32.lt_iff_toNat_lt]
    omega
  refine ⟨declared, shown, ending, hdeclare, hshown, hshownSize, hending, ?_⟩
  intro index
  rw [blockMembers, if_neg hnotBefore, hdeclare, ok_bind, hend]
  rfl

/-- Members that leave each other their bytes make a block in which each is at its offset. -/
theorem blockMembers_of_clear (h : FitsBlock members)
    (haligned : ∀ member ∈ members, 16 ∣ member.offset.toNat) (index : Nat) (position : UInt32)
    (hposition : 4 ∣ position.toNat) (hclear : Clear position.toNat members) :
    ∃ declared placed, blockMembers buffer index position members = .ok declared ∧
      Std140.layOut position.toNat declared = some placed ∧ placed.map Prod.fst = declared ∧
      Shows members placed := by
  induction members generalizing index position with
  | nil => exact ⟨[], [], rfl, rfl, rfl, .nil⟩
  | cons member rest ih =>
    obtain ⟨hle, hrest⟩ := hclear
    have hoffset := haligned member List.mem_cons_self
    have hbytes := member.type.four_dvd_blockBytes
    obtain ⟨declared, shown, ending, hdeclare, hshown, hsize, hending, hcons⟩ :=
      blockMembers_cons buffer h hle
    obtain ⟨following, placed, hfollowing, hlaid, hfirst, hshows⟩ :=
      ih h.tail (fun m hm => haligned m (List.mem_cons_of_mem _ hm)) (index + 1) ending
        (by omega) (by rwa [hending])
    -- the gap before the member is a number of whole floats
    have hcount : ((member.offset - position) / 4).toNat =
        (member.offset.toNat - position.toNat) / 4 := by
      rw [UInt32.toNat_div, UInt32.toNat_sub_of_le _ _ (UInt32.le_iff_toNat_le.mpr hle)]
      rfl
    have hgap : position.toNat + 4 * (List.range ((member.offset - position) / 4).toNat).length =
        member.offset.toNat := by
      rw [List.length_range, hcount]
      omega
    have hplace : roundUp shown.alignment member.offset.toNat = member.offset.toNat := by
      have hpos := Nat.pos_of_dvd_of_pos (Std140.alignment_dvd shown) (by decide)
      exact roundUp_of_dvd hpos (Nat.dvd_trans (Std140.alignment_dvd shown) hoffset)
    have hmember : Std140.layOut member.offset.toNat (declared :: following) =
        some ((declared, member.offset.toNat) :: placed) := by
      rw [hending, ← hsize] at hlaid
      simp only [Std140.layOut, hshown, hplace, hlaid, Option.bind_eq_bind, Option.bind_some,
        Option.pure_def]
    have hall : ((declared, member.offset.toNat) :: placed).map Prod.fst = declared :: following :=
      congrArg _ hfirst
    obtain ⟨whole, hwhole, hwholeFirst, hshowsAll⟩ :=
      layOut_padding index hposition (List.range ((member.offset - position) / 4).toNat)
        (by rw [hgap, hmember]) hall (.member hdeclare hshows)
    refine ⟨padding index (member.offset - position) ++ declared :: following, whole, ?_, hwhole,
      hwholeFirst, hshowsAll⟩
    rw [hcons, hfollowing]
    rfl

/-- Members of which some take bytes of each other make no block, and the error tells of one. -/
theorem blockMembers_of_not_clear (h : FitsBlock members) (index : Nat) (position : UInt32)
    (hclear : ¬Clear position.toNat members) :
    ∃ member ∈ members, blockMembers buffer index position members =
      .error (.unsupported .openGL (.overlap member.name buffer)) := by
  induction members generalizing index position with
  | nil => exact absurd trivial hclear
  | cons member rest ih =>
    by_cases hbefore : member.offset < position
    · refine ⟨member, List.mem_cons_self, ?_⟩
      rw [blockMembers, if_pos hbefore]
      rfl
    · have hle : position.toNat ≤ member.offset.toNat := by
        rw [UInt32.lt_iff_toNat_lt] at hbefore
        omega
      obtain ⟨declared, -, ending, -, -, -, hending, hcons⟩ :=
        blockMembers_cons buffer h hle
      have hrest : ¬Clear ending.toNat rest := by
        rw [hending]
        exact fun hclearRest => hclear ⟨hle, hclearRest⟩
      obtain ⟨late, hlate, herror⟩ := ih h.tail (index + 1) ending hrest
      refine ⟨late, List.mem_cons_of_mem _ hlate, ?_⟩
      rw [hcons, herror]
      rfl

end OpenGL

/-! ## Registers -/

namespace Direct3D11

/-- The declaration of a member in the register at its offset. -/
def IsInRegister (member : UniformMember) (declared : Source.Declaration) : Prop :=
  ∃ register : UInt32, member.offset.toNat = 16 * register.toNat ∧
    declared = Hlsl.declare member.type member.name s!"packoffset(c{register})"

theorem declareBuffer_eq {buffer : UniformBuffer}
    (haligned : ∀ member ∈ buffer.members, 16 ∣ member.offset.toNat) :
    ∃ declared, declareBuffer buffer = [.block buffer.name
        s!"cbuffer {buffer.name} : register(b{buffer.slot})" declared, .blank] ∧
      List.Forall₂ IsInRegister buffer.members declared := by
  refine ⟨_, rfl, ?_⟩
  rw [List.forall₂_map_right_iff, List.forall₂_same]
  intro member hmember
  refine ⟨member.offset / 16, ?_, rfl⟩
  have hoffset := haligned member hmember
  show member.offset.toNat = 16 * (member.offset.toNat / 16)
  omega

/-- Every uniform buffer of a shader has its block in the source text. -/
theorem mem_source_of_mem_declareBuffer {shader : Shader} {text : Source} {buffer : UniformBuffer}
    {item : Source.Item} (h : source shader = .ok text) (hbuffer : buffer ∈ shader.uniformBuffers)
    (hitem : item ∈ declareBuffer buffer) (hne : item ≠ .blank) : item ∈ text.items := by
  simp only [source, resources, bind_eq_ok, pure_eq_ok] at h
  obtain ⟨_, ⟨readViews, -, writeViews, -, rfl⟩, body, -, rfl⟩ := h
  rw [Source.mem_items_ofItems _ hne]
  have hflat : item ∈ shader.uniformBuffers.flatMap declareBuffer :=
    List.mem_flatMap_of_mem hbuffer hitem
  simp only [List.mem_append, hflat, true_or, or_true]

end Direct3D11

/-! ## Packed buffers -/

namespace UniformBuffer

/-- Where the last of some packed values ends, rounded up, without a bound. -/
def packedEnding : (offset : Nat) → List Field → Nat
  | offset, [] => offset
  | offset, field :: more => packedEnding (roundUp 16 (offset + field.type.packedBytes)) more

theorem le_packedEnding (offset : Nat) (fields : List Field) :
    offset ≤ packedEnding offset fields := by
  induction fields generalizing offset with
  | nil => exact Nat.le_refl offset
  | cons field more ih =>
    have hround := le_roundUp (by decide : 0 < 16) (offset + field.type.packedBytes)
    have hmore := ih (roundUp 16 (offset + field.type.packedBytes))
    rw [packedEnding]
    omega

theorem Clear.of_le {position later : Nat} {members : List UniformMember}
    (h : Clear later members) (hle : position ≤ later) : Clear position members := by
  cases members with
  | nil => trivial
  | cons member rest => exact ⟨Nat.le_trans hle h.1, h.2⟩

/-- Packed members leave each other their bytes in a block too: rounded up, a value takes as many
bytes there as it takes packed. -/
theorem clear_placeMembers {fields : List Field}
    (hvalues : ∀ field ∈ fields, field.type.IsBlockValue ∧ field.type.fixedLength? ≠ some 0)
    (structures : List Structure) (offset : UInt32) (haligned : 16 ∣ offset.toNat)
    (hending : packedEnding offset.toNat fields < UInt32.size) :
    ∃ members, placeMembers structures offset fields = .ok members ∧ FitsBlock members ∧
      (∀ member ∈ members, 16 ∣ member.offset.toNat) ∧ Clear offset.toNat members := by
  induction fields generalizing offset with
  | nil => exact ⟨[], rfl, ⟨nofun, nofun⟩, nofun, trivial⟩
  | cons field more ih =>
    obtain ⟨hvalue, hlength⟩ := hvalues field List.mem_cons_self
    have hround : roundUp 16 (offset.toNat + field.type.packedBytes) =
        offset.toNat + roundUp 16 field.type.blockBytes := by
      rw [roundUp_add (by decide) haligned, hvalue.roundUp_packedBytes hlength]
    have hblock := le_roundUp (by decide : 0 < 16) field.type.blockBytes
    have hpacked := le_roundUp (by decide : 0 < 16) (offset.toNat + field.type.packedBytes)
    have hlater := le_packedEnding (roundUp 16 (offset.toNat + field.type.packedBytes)) more
    have hwhole : 16 ∣ roundUp 16 (offset.toNat + field.type.packedBytes) := dvd_roundUp ..
    have hlt : roundUp 16 (offset.toNat + field.type.packedBytes) < UInt32.size :=
      Nat.lt_of_le_of_lt hlater hending
    obtain ⟨size, hsizeWord, hsize⟩ :=
      exists_checkedWord (by omega : field.type.packedBytes < UInt32.size)
    obtain ⟨ending, -, hend⟩ :=
      exists_checkedWord (by omega : offset.toNat + size.toNat < UInt32.size)
    -- a multiple of sixteen that 32 bits hold leaves room for fifteen bytes more
    have hroom : ending.toNat + 15 < UInt32.size := by
      simp only [UInt32.size] at hlt ⊢
      omega
    obtain ⟨next, hnextRound, hnext⟩ := exists_align16 hroom
    rw [hend, hsize] at hnext
    obtain ⟨members, hmembers, hfits, hall, hclear⟩ :=
      ih (fun f hf => hvalues f (List.mem_cons_of_mem _ hf)) next
        (by rw [hnext]; exact dvd_roundUp ..) (by rwa [hnext])
    refine ⟨⟨field.type, field.name, offset⟩ :: members, ?_, ⟨?_, ?_⟩, ?_, ?_⟩
    · have hsizeIn : field.type.sizeIn structures = .ok size :=
        (hvalue.packedSize_eq hlength _).trans hsizeWord
      exact placeMembers_cons_eq_ok_iff.mpr
        ⟨size, ending, next, members, hsizeIn, hend, hnextRound, hmembers, rfl⟩
    · exact List.forall_mem_cons.mpr ⟨hvalue, hfits.values⟩
    · have hfieldEnd : offset.toNat + field.type.blockBytes < UInt32.size := by omega
      exact List.forall_mem_cons.mpr ⟨hfieldEnd, hfits.ends⟩
    · exact List.forall_mem_cons.mpr ⟨haligned, hall⟩
    · refine ⟨Nat.le_refl _, hclear.of_le ?_⟩
      show offset.toNat + field.type.blockBytes ≤ _
      rw [hnext, hround]
      omega

/-! ## Both targets -/

/-- How the two targets lay out a buffer of a shader: the declarations of the GLSL block come, by
the rules of its layout, to the offsets of the members, and the declarations of the constant buffer
name the registers at the same offsets. -/
structure IsLaidOut (shader : Shader) (buffer : UniformBuffer)
    (declared registers : List Source.Declaration)
    (placed : List (Source.Declaration × Nat)) : Prop where
  layOut : OpenGL.Std140.layOut 0 declared = some placed
  whole : placed.map Prod.fst = declared
  shows : OpenGL.Shows buffer.members placed
  inRegisters : List.Forall₂ Direct3D11.IsInRegister buffer.members registers
  block : OpenGL.declareBlock buffer = .ok [.block buffer.name
    s!"layout(std140, set = 0, binding = {buffer.slot}) uniform {buffer.name}" declared, .blank]
  blockInText : ∀ version text, OpenGL.source version shader = .ok text → .block buffer.name
    s!"layout(std140, set = 0, binding = {buffer.slot}) uniform {buffer.name}" declared ∈ text.items
  constants : Direct3D11.declareBuffer buffer = [.block buffer.name
    s!"cbuffer {buffer.name} : register(b{buffer.slot})" registers, .blank]
  constantsInText : ∀ text, Direct3D11.source shader = .ok text → .block buffer.name
    s!"cbuffer {buffer.name} : register(b{buffer.slot})" registers ∈ text.items

/-- The error for a buffer whose members overlap tells of one of them. -/
def IsRefused (buffer : UniformBuffer) : Prop :=
  ∃ member ∈ buffer.members, OpenGL.declareBlock buffer =
    .error (.unsupported .openGL (.overlap member.name buffer.name))

theorem isRefused_of_overlaps {buffer : UniformBuffer} (h : FitsBlock buffer.members)
    (hoverlaps : Overlaps buffer.members) : buffer.IsRefused := by
  have hclear : ¬Clear (0 : UInt32).toNat buffer.members :=
    fun hclear => (clear_zero_iff h).mp hclear hoverlaps
  obtain ⟨member, hmember, herror⟩ := OpenGL.blockMembers_of_not_clear buffer.name h 0 0 hclear
  refine ⟨member, hmember, ?_⟩
  rw [OpenGL.declareBlock, herror]
  rfl

/-- A buffer without overlaps is declared with every member at its offset. -/
theorem declareBlock_of_not_overlaps (buffer : UniformBuffer) (h : FitsBlock buffer.members)
    (haligned : ∀ member ∈ buffer.members, 16 ∣ member.offset.toNat)
    (hclear : ¬Overlaps buffer.members) :
    ∃ declared placed, OpenGL.declareBlock buffer = .ok [.block buffer.name
        s!"layout(std140, set = 0, binding = {buffer.slot}) uniform {buffer.name}" declared,
        .blank] ∧
      OpenGL.Std140.layOut 0 declared = some placed ∧ placed.map Prod.fst = declared ∧
      OpenGL.Shows buffer.members placed := by
  obtain ⟨declared, placed, hmembers, hlaid, hwhole, hshows⟩ :=
    OpenGL.blockMembers_of_clear buffer.name h haligned 0 0 (by decide)
      ((clear_zero_iff h).mpr hclear)
  refine ⟨declared, placed, ?_, hlaid, hwhole, hshows⟩
  have hbinding : OpenGL.bindingBase .uniformBuffer + buffer.slot = buffer.slot :=
    UInt32.zero_add _
  rw [OpenGL.declareBlock, hmembers, hbinding]
  rfl

/-- One layout serves both targets.  A buffer of an accepted shader, with members that a GLSL block
can hold, is refused for OpenGL if and only if members overlap there; otherwise both targets lay it
out by its offsets.  Packed buffers never overlap. -/
theorem layouts_agree :
    (∀ name stage additions shader, Shader.build name stage additions = .ok shader →
      ∀ buffer ∈ shader.uniformBuffers, FitsBlock buffer.members →
        (buffer.IsRefused ↔ Overlaps buffer.members) ∧
        (Overlaps buffer.members → ∀ version text, OpenGL.source version shader ≠ .ok text) ∧
        (¬Overlaps buffer.members →
          ∃ declared registers placed, buffer.IsLaidOut shader declared registers placed)) ∧
    (∀ name slot fields structures,
      (∀ field ∈ fields, field.type.IsBlockValue ∧ field.type.fixedLength? ≠ some 0) →
      packedEnding 0 fields < UInt32.size →
        ∃ buffer items, packed name slot fields structures = .ok buffer ∧
          ¬Overlaps buffer.members ∧ OpenGL.declareBlock buffer = .ok items) := by
  constructor
  · intro name stage additions shader hbuild buffer hbuffer hfits
    obtain ⟨hwell, rfl⟩ := Shader.accept_eq_ok_iff.mp hbuild
    have haligned := (hwell.offsets buffer hbuffer).aligned
    refine ⟨⟨?_, isRefused_of_overlaps hfits⟩, ?_, ?_⟩
    · rintro ⟨member, -, herror⟩
      by_contra hnone
      obtain ⟨declared, placed, hblock, -⟩ :=
        declareBlock_of_not_overlaps buffer hfits haligned hnone
      rw [hblock] at herror
      cases herror
    · intro hoverlaps version text htext
      obtain ⟨member, -, herror⟩ := isRefused_of_overlaps hfits hoverlaps
      obtain ⟨block, hblock, -⟩ := OpenGL.block_mem_source htext hbuffer
      rw [hblock] at herror
      cases herror
    · intro hnone
      obtain ⟨declared, placed, hblock, hlaid, hwhole, hshows⟩ :=
        declareBlock_of_not_overlaps buffer hfits haligned hnone
      obtain ⟨registers, hconstants, hinRegisters⟩ := Direct3D11.declareBuffer_eq haligned
      refine ⟨declared, registers, placed, hlaid, hwhole, hshows, hinRegisters, hblock, ?_,
        hconstants, ?_⟩
      · intro version text htext
        obtain ⟨block, hblock', hmem⟩ := OpenGL.block_mem_source htext hbuffer
        obtain rfl := Except.ok.inj (hblock.symm.trans hblock')
        exact hmem _ List.mem_cons_self nofun
      · intro text htext
        refine Direct3D11.mem_source_of_mem_declareBuffer htext hbuffer ?_ nofun
        rw [hconstants]
        exact List.mem_cons_self
  · intro name slot fields structures hvalues hending
    obtain ⟨members, hplaced, hfits, haligned, hclear⟩ :=
      clear_placeMembers hvalues structures 0 (by decide) hending
    have hnone : ¬Overlaps members := (clear_zero_iff hfits).mp hclear
    obtain ⟨declared, placed, hblock, -⟩ :=
      declareBlock_of_not_overlaps ⟨name, slot, members⟩ hfits haligned hnone
    refine ⟨⟨name, slot, members⟩, _, ?_, hnone, hblock⟩
    rw [packed, hplaced]
    rfl

/-- A buffer with every kind of value that a block can hold, and with a gap before the last. -/
def scene : UniformBuffer :=
  ⟨"Scene", 1, [⟨.scalar .float, "time", 0⟩, ⟨.matrix .float 3 2, "turn", 16⟩,
    ⟨.array (.vector .float 2) (.fixed 3), "corners", 48⟩, ⟨.vector .float 3, "sun", 112⟩]⟩

/-- A buffer whose second member lies in the first. -/
def crowded : UniformBuffer :=
  ⟨"Crowded", 2, [⟨.matrix .float 4 4, "view", 0⟩, ⟨.scalar .uint, "count", 16⟩]⟩

theorem layouts_agree_scene :
    (∃ shader, Shader.build "Scene" .vertex [.uniformBuffer scene] = .ok shader ∧
      ∃ declared registers placed, scene.IsLaidOut shader declared registers placed) ∧
    (∃ shader, Shader.build "Crowded" .vertex [.uniformBuffer crowded] = .ok shader ∧
      crowded.IsRefused) ∧
    ∃ buffer items, packed "Scene" 1 [⟨.scalar .float, "time"⟩, ⟨.matrix .float 3 2, "turn"⟩] [] =
      .ok buffer ∧ ¬Overlaps buffer.members ∧ OpenGL.declareBlock buffer = .ok items := by
  have hscene : FitsBlock scene.members := by
    constructor <;> decide +kernel
  have hclear : ¬Overlaps scene.members :=
    (clear_zero_iff hscene).mp (by simp only [scene, Clear]; decide +kernel)
  have hcrowded : FitsBlock crowded.members := by
    constructor <;> decide +kernel
  have hoverlaps : Overlaps crowded.members :=
    ⟨_, _, _, List.infix_rfl, rfl, by decide +kernel⟩
  have hbuilt : Shader.build "Scene" .vertex [.uniformBuffer scene] =
      .ok { name := "Scene", stage := .vertex, uniformBuffers := [scene] } := by
    decide +kernel
  have hbuiltCrowded : Shader.build "Crowded" .vertex [.uniformBuffer crowded] =
      .ok { name := "Crowded", stage := .vertex, uniformBuffers := [crowded] } := by
    decide +kernel
  refine ⟨⟨_, hbuilt, ?_⟩, ⟨_, hbuiltCrowded, ?_⟩, ?_⟩
  · exact (layouts_agree.1 _ _ _ _ hbuilt scene List.mem_cons_self hscene).2.2 hclear
  · exact (layouts_agree.1 _ _ _ _ hbuiltCrowded crowded List.mem_cons_self hcrowded).1.mpr
      hoverlaps
  · exact layouts_agree.2 _ _ _ _ (by decide +kernel) (by decide +kernel)

end UniformBuffer

end CrossShade
