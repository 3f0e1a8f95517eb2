import CrossShade.Proofs.Outcome
import CrossShade.Proofs.Runs
import CrossShade.Proofs.ValueType.Bytes
import CrossShade.UniformBuffer

/-!
# Members in registers

A packed buffer is a row of registers of sixteen bytes.  Every member starts a register of its own,
right after the registers of the member before it.

* `ValueType.wholeRegisters` is how many registers a value takes, the last one in part.
* `UniformBuffer.InRegisters` says where the members are and what the buffer counts.
* `inRegisters_of_packed` has it for packed buffers.
-/

namespace CrossShade

/-- How many registers a value takes beside some structures. -/
def ValueType.wholeRegisters (structures : List Structure) (type : ValueType) : Nat :=
  match type.sizeIn structures with
  | .ok size => (size.toNat + 15) / 16
  | .error _ => 0

/-- How many registers a member takes. -/
def UniformMember.registers (structures : List Structure) (member : UniformMember) : Nat :=
  member.type.wholeRegisters structures

namespace UniformBuffer

/-- How many registers the members take. -/
def registers (structures : List Structure) (buffer : UniformBuffer) : Nat :=
  runTotal (UniformMember.registers structures) buffer.members

/-- The members stand one after the other in whole registers, which the buffer counts. -/
structure InRegisters (structures : List Structure) (buffer : UniformBuffer) : Prop where
  offset : ∀ i m, buffer.members[i]? = some m →
    m.offset.toNat = 16 * runStart (UniformMember.registers structures) buffer.members i
  sized : ∀ m ∈ buffer.members, ∃ size, m.type.sizeIn structures = .ok size ∧
    m.registers structures = (size.toNat + 15) / 16
  count : ∃ count, buffer.registerCount structures = .ok count ∧
    count.toNat = buffer.registers structures

variable {structures : List Structure} {offset size ending next : UInt32} {first : Nat}

theorem registers_of_sizeIn {m : UniformMember} (h : m.type.sizeIn structures = .ok size) :
    m.registers structures = (size.toNat + 15) / 16 := by
  simp only [UniformMember.registers, ValueType.wholeRegisters, h]

/-- The first member is placed where the row starts, and the others after it. -/
theorem placeMembers_cons_eq_ok_iff {field : Field} {more : List Field}
    {placed : List UniformMember} :
    placeMembers structures offset (field :: more) = .ok placed ↔
      ∃ size ending next following, field.type.sizeIn structures = .ok size ∧
        ending.toNat = offset.toNat + size.toNat ∧ align16 ending = .ok next ∧
        placeMembers structures next more = .ok following ∧
        placed = ⟨field.type, field.name, offset⟩ :: following := by
  simp only [placeMembers, bind_eq_ok, pure_eq_ok, checkedWord_eq_ok_iff]
  constructor
  · rintro ⟨size, hsize, ending, hending, next, hnext, following, hfollowing, rfl⟩
    exact ⟨size, ending, next, following, hsize, by omega, hnext, hfollowing, rfl⟩
  · rintro ⟨size, ending, next, following, hsize, hending, hnext, hfollowing, rfl⟩
    exact ⟨size, hsize, ending, by omega, next, hnext, following, hfollowing, rfl⟩

theorem packed_eq_ok_iff {name : String} {slot : UInt32} {fields : List Field}
    {buffer : UniformBuffer} : packed name slot fields structures = .ok buffer ↔
      ∃ placed, placeMembers structures 0 fields = .ok placed ∧ ⟨name, slot, placed⟩ = buffer := by
  simp only [packed, bind_eq_ok, pure_eq_ok]

/-- What follows a value that starts a register starts a register. -/
theorem toNat_next (hoffset : offset.toNat = 16 * first)
    (hending : ending.toNat = offset.toNat + size.toNat) (hnext : align16 ending = .ok next) :
    next.toNat = 16 * (first + (size.toNat + 15) / 16) := by
  rw [(align16_eq_ok_iff.mp hnext).2, hending, hoffset,
    roundUp_add (by decide) (Nat.dvd_mul_right 16 first), roundUp]
  omega

/-- Every member that is placed ends, and behind its end there is room to round it up. -/
theorem end_of_placeMembers {fields : List Field} {placed : List UniformMember}
    (h : placeMembers structures offset fields = .ok placed) {m : UniformMember}
    (hm : m ∈ placed) :
    ∃ size ending next, m.type.sizeIn structures = .ok size ∧
      ending.toNat = m.offset.toNat + size.toNat ∧ align16 ending = .ok next := by
  induction fields generalizing offset placed with
  | nil =>
    cases h
    cases hm
  | cons field more ih =>
    obtain ⟨size, ending, next, following, hsize, hending, hnext, hfollowing, rfl⟩ :=
      placeMembers_cons_eq_ok_iff.mp h
    rcases List.mem_cons.mp hm with rfl | hmore
    · exact ⟨size, ending, next, hsize, hending, hnext⟩
    · exact ih hfollowing hmore

/-- Each member that is placed starts where those before it end. -/
theorem offset_of_placeMembers {fields : List Field} {placed : List UniformMember}
    (h : placeMembers structures offset fields = .ok placed) (hoffset : offset.toNat = 16 * first)
    {i : Nat} {m : UniformMember} (hm : placed[i]? = some m) :
    m.offset.toNat = 16 * (first + runStart (UniformMember.registers structures) placed i) := by
  induction fields generalizing offset first placed i with
  | nil =>
    cases h
    simp at hm
  | cons field more ih =>
    obtain ⟨size, ending, next, following, hsize, hending, hnext, hfollowing, rfl⟩ :=
      placeMembers_cons_eq_ok_iff.mp h
    cases i with
    | zero =>
      obtain rfl : ⟨field.type, field.name, offset⟩ = m := by simpa using hm
      simpa using hoffset
    | succ i =>
      have hwidth := registers_of_sizeIn (m := ⟨field.type, field.name, offset⟩) hsize
      rw [runStart_cons_succ, hwidth, ← Nat.add_assoc]
      exact ih hfollowing (toNat_next hoffset hending hnext) (by simpa using hm)

/-- Packing places members in whole registers. -/
theorem inRegisters_of_packed {buffer : UniformBuffer} {fields : List Field}
    (h : packed buffer.name buffer.slot fields structures = .ok buffer) :
    buffer.InRegisters structures := by
  obtain ⟨placed, hplaced, hbuffer⟩ := packed_eq_ok_iff.mp h
  obtain rfl : placed = buffer.members := by rw [← hbuffer]
  have hoffset : ∀ i m, buffer.members[i]? = some m →
      m.offset.toNat = 16 * runStart (UniformMember.registers structures) buffer.members i := by
    intro i m hm
    have hzero : (0 : UInt32).toNat = 16 * 0 := rfl
    have hplace := offset_of_placeMembers hplaced hzero hm
    rwa [Nat.zero_add] at hplace
  refine ⟨hoffset, fun m hm => ?_, ?_⟩
  · obtain ⟨size, -, -, hsize, -⟩ := end_of_placeMembers hplaced hm
    exact ⟨size, hsize, registers_of_sizeIn hsize⟩
  · unfold registerCount UniformBuffer.size
    cases hlast : buffer.members.getLast? with
    | none =>
      rw [List.getLast?_eq_none_iff] at hlast
      exact ⟨0, rfl, by simp [registers, hlast]⟩
    | some last =>
      obtain ⟨size, ending, next, hsize, hending, hnext⟩ :=
        end_of_placeMembers hplaced (List.mem_of_getLast? hlast)
      have hword : checkedWord (last.offset.toNat + size.toNat) = .ok ending :=
        checkedWord_eq_ok_iff.mpr (by omega)
      -- the last member ends with the last register
      rw [List.getLast?_eq_getElem?] at hlast
      have hlength : buffer.members.length - 1 + 1 = buffer.members.length := by
        have hbound := (List.getElem?_eq_some_iff.mp hlast).1
        omega
      have htotal : runStart (UniformMember.registers structures) buffer.members _ = _ :=
        runStart_succ hlast
      rw [hlength, runStart_length, registers_of_sizeIn hsize] at htotal
      have hend := toNat_next (hoffset _ last hlast) hending hnext
      refine ⟨next / 16, ?_, ?_⟩
      · dsimp only
        rw [hsize, ok_bind, hword, ok_bind, hnext, ok_bind]
        rfl
      · rw [UInt32.toNat_div, hend, ← htotal]
        exact Nat.mul_div_cancel_left _ (by decide)

end UniformBuffer

end CrossShade
