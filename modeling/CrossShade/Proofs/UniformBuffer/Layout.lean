import CrossShade.Proofs.Shader.Building
import CrossShade.Proofs.UniformBuffer.Nesting
import CrossShade.Proofs.UniformBuffer.Placement
import Mathlib.Order.Bounds.Basic

/-!
# Packed layouts

Packing gives every member bytes of its own, and gives a structure the size of a buffer of its
members.

* `UniformBuffer.HasOffsets` says where the members of a buffer start.
* `UniformBuffer.HasLayout` says that no two members share a byte, and that the buffer ends with the
  register in which its last member ends.
* `layout_of_packed` has both for packed buffers, and says that a structure is as long inside others
  as a buffer of its members, up to whole registers, unless both are beyond 32 bits.
-/

namespace CrossShade

theorem dvd_of_align16 {bytes next : UInt32} (h : align16 bytes = .ok next) : 16 ∣ next.toNat := by
  rw [(align16_eq_ok_iff.mp h).2]
  exact dvd_roundUp ..

variable {structures : List Structure}

/-- The bytes that a member takes. -/
def UniformMember.bytes (structures : List Structure) (member : UniformMember) : Set Nat :=
  {byte | ∃ size, member.type.sizeIn structures = .ok size ∧
    member.offset.toNat ≤ byte ∧ byte < member.offset.toNat + size.toNat}

namespace UniformBuffer

/-- The members of a buffer are the given ones.  The first one starts the buffer, and every other
one starts with the register after the one in which the member before it ends. -/
structure HasOffsets (structures : List Structure) (fields : List Field) (buffer : UniformBuffer) :
    Prop where
  members : buffer.members.map (fun m => ⟨m.type, m.name⟩) = fields
  first : ∀ m, buffer.members[0]? = some m → m.offset = 0
  aligned : ∀ m ∈ buffer.members, 16 ∣ m.offset.toNat
  next : ∀ i m later, buffer.members[i]? = some m → buffer.members[i + 1]? = some later →
    ∃ size ending, m.type.sizeIn structures = .ok size ∧
      ending.toNat = m.offset.toNat + size.toNat ∧ align16 ending = .ok later.offset

/-- Members share no bytes and end within the buffer, which ends as soon as its last register
does. -/
structure HasLayout (structures : List Structure) (buffer : UniformBuffer) (total : UInt32) :
    Prop where
  size : buffer.size structures = .ok total
  apart : buffer.members.Pairwise fun m later =>
    ∀ byte ∈ m.bytes structures, byte ∉ later.bytes structures
  inside : ∀ m ∈ buffer.members, ∀ byte ∈ m.bytes structures, byte < total.toNat
  least : IsLeast {bytes | 16 ∣ bytes ∧ ∀ last ∈ buffer.members.getLast?, ∀ ending,
    last.type.sizeIn structures = .ok ending → last.offset.toNat + ending.toNat ≤ bytes} total.toNat
  registers : ∃ count, buffer.registerCount structures = .ok count ∧
    total.toNat = 16 * count.toNat

variable {offset : UInt32} {fields : List Field} {placed : List UniformMember}
  {buffer : UniformBuffer}

/-! ## Offsets -/

theorem first_of_placeMembers (h : placeMembers structures offset fields = .ok placed)
    {m : UniformMember} (hm : placed[0]? = some m) : m.offset = offset := by
  cases fields with
  | nil =>
    cases h
    cases hm
  | cons field more =>
    obtain ⟨_, _, _, following, -, -, -, -, rfl⟩ := placeMembers_cons_eq_ok_iff.mp h
    cases hm
    rfl

/-- The induction is on the members; it carries the offset that comes next. -/
theorem next_of_placeMembers (h : placeMembers structures offset fields = .ok placed) {i : Nat}
    {m later : UniformMember} (hm : placed[i]? = some m) (hlater : placed[i + 1]? = some later) :
    ∃ size ending, m.type.sizeIn structures = .ok size ∧
      ending.toNat = m.offset.toNat + size.toNat ∧ align16 ending = .ok later.offset := by
  induction fields generalizing offset placed i with
  | nil =>
    cases h
    cases hm
  | cons field more ih =>
    obtain ⟨size, ending, next, following, hsize, hending, hnext, hfollowing, rfl⟩ :=
      placeMembers_cons_eq_ok_iff.mp h
    cases i with
    | zero =>
      obtain rfl : ⟨field.type, field.name, offset⟩ = m := by simpa using hm
      have hoffset := first_of_placeMembers hfollowing (by simpa using hlater)
      exact ⟨size, ending, hsize, hending, hoffset ▸ hnext⟩
    | succ i => exact ih hfollowing (by simpa using hm) (by simpa using hlater)

theorem fields_of_placeMembers (h : placeMembers structures offset fields = .ok placed) :
    placed.map (fun m => ⟨m.type, m.name⟩) = fields := by
  induction fields generalizing offset placed with
  | nil =>
    cases h
    rfl
  | cons field more ih =>
    obtain ⟨_, _, _, following, -, -, -, hfollowing, rfl⟩ := placeMembers_cons_eq_ok_iff.mp h
    rw [List.map_cons, ih hfollowing]

theorem hasOffsets_of_placeMembers (h : placeMembers structures 0 fields = .ok buffer.members) :
    buffer.HasOffsets structures fields := by
  refine ⟨fields_of_placeMembers h, fun m hm => first_of_placeMembers h hm, ?_,
    fun i m later hm hlater => next_of_placeMembers h hm hlater⟩
  intro m hmem
  obtain ⟨i, hi⟩ := List.getElem?_of_mem hmem
  cases i with
  | zero =>
    rw [first_of_placeMembers h hi]
    exact Nat.dvd_zero 16
  | succ i =>
    have hbound := (List.getElem?_eq_some_iff.mp hi).1
    obtain ⟨_, _, -, -, hnext⟩ :=
      next_of_placeMembers h (List.getElem?_eq_getElem (by omega : i < buffer.members.length)) hi
    exact dvd_of_align16 hnext

/-! ## Bytes -/

/-- The bytes of a member are in its registers. -/
theorem InRegisters.bounds_of_mem_bytes (h : buffer.InRegisters structures) {i byte : Nat}
    {m : UniformMember} (hm : buffer.members[i]? = some m) (hbyte : byte ∈ m.bytes structures) :
    16 * runStart (UniformMember.registers structures) buffer.members i ≤ byte ∧
      byte < 16 * (runStart (UniformMember.registers structures) buffer.members i +
        m.registers structures) := by
  obtain ⟨size, hsize, hle, hlt⟩ := hbyte
  have hwidth := registers_of_sizeIn hsize
  have hoffset := h.offset i m hm
  omega

theorem InRegisters.apart (h : buffer.InRegisters structures) :
    buffer.members.Pairwise fun m later =>
      ∀ byte ∈ m.bytes structures, byte ∉ later.bytes structures := by
  rw [List.pairwise_iff_getElem]
  intro i j hi hj hlt byte hfirst hsecond
  have hmi := List.getElem?_eq_getElem hi
  have hfirstBounds := h.bounds_of_mem_bytes hmi hfirst
  have hsecondBounds := h.bounds_of_mem_bytes (List.getElem?_eq_getElem hj) hsecond
  have hrow : runStart (UniformMember.registers structures) buffer.members i + _ ≤ _ :=
    runStart_add_width_le hmi hlt
  omega

/-- A buffer ends with a register. -/
theorem dvd_of_size {total : UInt32} (h : buffer.size structures = .ok total) :
    16 ∣ total.toNat := by
  unfold UniformBuffer.size at h
  split at h
  · cases h
    exact Nat.dvd_zero 16
  · simp only [bind_eq_ok] at h
    obtain ⟨_, -, _, -, hround⟩ := h
    exact dvd_of_align16 hround

theorem InRegisters.toNat_size (h : buffer.InRegisters structures) : ∃ total,
    buffer.size structures = .ok total ∧ buffer.registerCount structures = .ok (total / 16) ∧
      total.toNat = 16 * buffer.registers structures := by
  obtain ⟨count, hcount, hregisters⟩ := h.count
  have hsized := hcount
  simp only [registerCount, bind_eq_ok, pure_eq_ok] at hsized
  obtain ⟨total, htotal, rfl⟩ := hsized
  refine ⟨total, htotal, hcount, ?_⟩
  rw [← hregisters, UInt32.toNat_div]
  exact (Nat.mul_div_cancel' (dvd_of_size htotal)).symm

/-- The last member ends in the last register. -/
theorem InRegisters.registers_of_getLast? (h : buffer.InRegisters structures)
    {last : UniformMember} (hlast : buffer.members.getLast? = some last) {ending : UInt32}
    (hending : last.type.sizeIn structures = .ok ending) :
    buffer.registers structures = (last.offset.toNat + ending.toNat + 15) / 16 := by
  rw [List.getLast?_eq_getElem?] at hlast
  have hbound := (List.getElem?_eq_some_iff.mp hlast).1
  have htotal : runStart (UniformMember.registers structures) buffer.members _ = _ :=
    runStart_succ hlast
  rw [Nat.sub_add_cancel (by omega), runStart_length, registers_of_sizeIn hending] at htotal
  have hoffset := h.offset _ last hlast
  rw [registers]
  omega

theorem InRegisters.hasLayout (h : buffer.InRegisters structures) :
    ∃ total, buffer.HasLayout structures total := by
  obtain ⟨total, hsize, hcount, htotal⟩ := h.toNat_size
  refine ⟨total, hsize, h.apart, ?_, ⟨⟨?_, ?_⟩, ?_⟩, total / 16, hcount, ?_⟩
  · intro m hm byte hbyte
    obtain ⟨i, hi⟩ := List.getElem?_of_mem hm
    have hbounds := h.bounds_of_mem_bytes hi hbyte
    have hwithin : _ ≤ runTotal (UniformMember.registers structures) buffer.members :=
      add_width_le_runTotal hi
    rw [htotal, registers]
    omega
  · exact dvd_of_size hsize
  · intro last hlast ending hending
    rw [htotal, h.registers_of_getLast? hlast hending]
    omega
  · rintro bytes ⟨hwhole, hends⟩
    rw [htotal]
    cases hlast : buffer.members.getLast? with
    | none =>
      rw [List.getLast?_eq_none_iff] at hlast
      simp [registers, hlast]
    | some last =>
      obtain ⟨ending, hending, -⟩ := h.sized last (List.mem_of_getLast? hlast)
      have hle := hends last hlast ending hending
      rw [h.registers_of_getLast? hlast hending]
      omega
  · rw [UInt32.toNat_div]
    exact (Nat.mul_div_cancel' (dvd_of_size hsize)).symm

/-- Packing lays out: the members stand in order, share no bytes, and fill the buffer up to the
register in which the last of them ends.  A structure whose members have sizes can be packed itself,
unless that takes numbers beyond 32 bits; as a member it is as long as that buffer before the last
register is filled, and no depth at which it has a size gives it another. -/
theorem layout_of_packed (structures : List Structure)
    (hdistinct : (structures.map (·.name)).Nodup) :
    (∀ name slot fields buffer, packed name slot fields structures = .ok buffer →
      buffer.HasOffsets structures fields ∧ ∃ total, buffer.HasLayout structures total) ∧
    (∀ found ∈ structures,
      (∀ field ∈ found.members, ∃ size, field.type.sizeIn structures = .ok size) →
      ∀ name slot,
        (packed name slot found.members structures = .error .overflow ∧
          (ValueType.struct found.name).sizeIn structures = .error .overflow) ∨
        ∃ buffer size total, packed name slot found.members structures = .ok buffer ∧
          (ValueType.struct found.name).sizeIn structures = .ok size ∧
          align16 size = .ok total ∧ buffer.size structures = .ok total ∧
          ∀ depth, structureSizeWithin structures depth found.name = .ok size ∨
            depth < structures.length ∧
              structureSizeWithin structures depth found.name = .error .endlessStructure) := by
  constructor
  · intro name slot fields buffer h
    obtain ⟨placed, hplaced, rfl⟩ := packed_eq_ok_iff.mp h
    have hplace : InRegisters structures ⟨name, slot, placed⟩ := inRegisters_of_packed h
    exact ⟨hasOffsets_of_placeMembers hplaced, hplace.hasLayout⟩
  · intro found hmem hsized name slot
    have hfound : structures.find? (·.name == found.name) = some found :=
      (Shader.find?_name_eq_some_iff hdistinct).mpr ⟨hmem, rfl⟩
    have hrow : (∃ ending, packedEnd (ValueType.sizeIn structures) 0 0
          (found.members.map (·.type)) = .ok ending) ∨
        packedEnd (ValueType.sizeIn structures) 0 0 (found.members.map (·.type)) =
          .error .overflow := by
      refine packedEnd_cases fun type htype => ?_
      obtain ⟨field, hfield, rfl⟩ := List.mem_map.mp htype
      exact .inl (hsized field hfield)
    rcases hrow with hending | hoverflow
    · obtain ⟨buffer, hpacked⟩ := exists_packed_iff.mpr ((exists_placeMembers_iff 0).mpr hending)
      obtain ⟨ending, total, hending, htotal, hsize⟩ := size_of_packed hpacked
      have hwhole := structureSize_eq_packedEnd hfound hending
      exact .inr ⟨buffer, ending, total, hpacked, hwhole, htotal, hsize,
        structureSizeWithin_of_size hwhole⟩
    · have hacyclic : ∀ field ∈ found.members, ¬field.type.ReachesCycle structures := by
        intro field hfield
        obtain ⟨size, hsize⟩ := hsized field hfield
        exact ValueType.not_reachesCycle hsize
      exact .inl ⟨packed_eq_error_iff.mpr ((placeMembers_eq_error_iff 0).mpr hoverflow),
        structureSize_eq_overflow hfound hacyclic hoverflow⟩

/-- A scene with two lights in it, each of them a structure of its own. -/
def sceneStructures : List Structure :=
  [⟨"Scene", [⟨.array (.struct "Light") (.fixed 2), "lights"⟩, ⟨.matrix .float 4 4, "view"⟩]⟩,
    ⟨"Light", [⟨.vector .float 3, "position"⟩, ⟨.scalar .float, "power"⟩]⟩]

/-- A frame holds a scene from its second register on, and the scene two lights of twenty bytes. -/
theorem layout_of_packed_sceneStructures :
    (sceneStructures.map (·.name)).Nodup ∧
    (∃ buffer, packed "Frame" 0 [⟨.scalar .float, "time"⟩, ⟨.struct "Scene", "scene"⟩]
        sceneStructures = .ok buffer ∧
      buffer.HasOffsets sceneStructures [⟨.scalar .float, "time"⟩, ⟨.struct "Scene", "scene"⟩] ∧
      buffer.HasLayout sceneStructures 144) ∧
    (∃ buffer, packed "Light" 1 [⟨.vector .float 3, "position"⟩, ⟨.scalar .float, "power"⟩]
        sceneStructures = .ok buffer ∧
      (ValueType.struct "Light").sizeIn sceneStructures = .ok 20 ∧
      buffer.size sceneStructures = .ok 32 ∧
      structureSizeWithin sceneStructures 1 "Light" = .ok 20) := by
  have hdistinct : (sceneStructures.map (·.name)).Nodup := by decide
  obtain ⟨hlayout, hnested⟩ := layout_of_packed sceneStructures hdistinct
  refine ⟨hdistinct, ?_, ?_⟩
  · have hpacked : packed "Frame" 0 [⟨.scalar .float, "time"⟩, ⟨.struct "Scene", "scene"⟩]
        sceneStructures = .ok ⟨"Frame", 0, [⟨.scalar .float, "time", 0⟩,
          ⟨.struct "Scene", "scene", 16⟩]⟩ := by decide +kernel
    obtain ⟨hoffsets, total, htotal⟩ := hlayout _ _ _ _ hpacked
    have hsize : UniformBuffer.size ⟨"Frame", 0, [⟨.scalar .float, "time", 0⟩,
        ⟨.struct "Scene", "scene", 16⟩]⟩ sceneStructures = .ok 144 := by decide +kernel
    cases htotal.size.symm.trans hsize
    exact ⟨_, hpacked, hoffsets, htotal⟩
  · have hsized : ∀ field ∈ [(⟨.vector .float 3, "position"⟩ : Field), ⟨.scalar .float, "power"⟩],
        ∃ size, field.type.sizeIn sceneStructures = .ok size := by
      intro field hmem
      rcases List.mem_cons.mp hmem with rfl | hmem
      · exact ⟨12, rfl⟩
      · obtain rfl := List.mem_singleton.mp hmem
        exact ⟨4, rfl⟩
    have hlight : (ValueType.struct "Light").sizeIn sceneStructures = .ok 20 := by decide +kernel
    rcases hnested ⟨"Light", [⟨.vector .float 3, "position"⟩, ⟨.scalar .float, "power"⟩]⟩
        (List.mem_cons_of_mem _ List.mem_cons_self) hsized "Light" 1 with
      ⟨-, hoverflow⟩ | ⟨buffer, size, total, hpacked, hinside, htotal, hsize, -⟩
    · cases hlight.symm.trans hoverflow
    · cases hlight.symm.trans hinside
      have hround : align16 20 = .ok 32 := by decide +kernel
      cases hround.symm.trans htotal
      exact ⟨buffer, hpacked, hlight, hsize, by decide +kernel⟩

end UniformBuffer

end CrossShade
