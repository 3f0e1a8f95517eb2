import CrossShade.Proofs.Shader.RefusedLines
import CrossShade.Proofs.UniformBuffer.Hollow

/-!
# Offsets that packing gives and validation accepts

Descriptions have no offsets.  Reading gives them to the members of uniform buffers, and validation
looks at them again.

* `avoids_validate` says that validation tells of the offset of a member only if a buffer is out of
  order.
* `Description.inOrder_iff_of_shader` says which buffers of a description are packed in order.
* `packedOffsets_inOrder` is the conclusion, and `packed_shares_offset` says what happens to a
  member behind a hollow one.
-/

namespace CrossShade

variable {structures : List Structure} {type : ValueType}

namespace Shader

/-! ## What validation tells of offsets -/

/-- The fault is an offset in a buffer. -/
def Fault.IsOffsetOf (buffer : String) : Fault → Prop
  | .memberOffset _ other _ => other = buffer
  | _ => False

section Avoids

variable {bad : Fault → Prop} {first second : Check}

theorem avoids_then (hfirst : Avoids bad first) (hsecond : Avoids bad second) :
    Avoids bad (first >>= fun _ => second) :=
  avoids_bind_iff.mpr ⟨hfirst, fun _ _ => hsecond⟩

theorem avoids_checkAll {α : Type} {check : α → Check} {list : List α}
    (h : ∀ x ∈ list, Avoids bad (check x)) : Avoids bad (checkAll check list) := by
  induction list with
  | nil => exact avoids_ok ()
  | cons x rest ih =>
    obtain ⟨hx, hrest⟩ := List.forall_mem_cons.mp h
    exact avoids_then hx (ih hrest)

theorem avoids_requireDistinct {names : List String} {fault : String → Fault}
    (h : ∀ name, ¬bad (fault name)) : Avoids bad (requireDistinct names fault) := by
  unfold requireDistinct
  split
  · exact avoids_ok ()
  · exact avoids_error_iff.mpr (h _)

theorem avoids_requireType {fault : TypeRule → Fault} (h : ∀ rule, ¬bad (fault rule)) :
    Avoids bad (requireType structures type fault) := by
  unfold requireType
  split
  · exact avoids_ok ()
  · exact avoids_error_iff.mpr (h _)

theorem avoids_checkBindings {category : BindingCategory}
    (hname : ∀ name, ¬bad (.duplicateBinding category name))
    (hslot : ∀ slot, ¬bad (.slotTwice category slot)) (seen entries : List (String × UInt32)) :
    Avoids bad (checkBindings category seen entries) := by
  induction entries generalizing seen with
  | nil => exact avoids_ok ()
  | cons entry rest ih =>
    exact avoids_then (avoids_require (.inr (hname _)))
      (avoids_then (avoids_require (.inr (hslot _))) (ih _))

end Avoids

variable {shader : Shader} {buffer : String}

/-- Offsets in order are not found fault with.  The induction carries the offset before them. -/
theorem avoids_checkMembers {owner : String} {before : Option UInt32}
    {members : List UniformMember} (haligned : ∀ member ∈ members, 16 ∣ member.offset.toNat)
    (hincreasing : (members.map (·.offset)).Pairwise (· < ·))
    (hbefore : ∀ member ∈ members, ∀ least ∈ before, least < member.offset) :
    Avoids (Fault.IsOffsetOf buffer) (checkMembers structures owner before members) := by
  induction members generalizing before with
  | nil => exact avoids_ok ()
  | cons member rest ih =>
    obtain ⟨hoffset, hoffsets⟩ := List.forall_mem_cons.mp haligned
    obtain ⟨hleast, hlater⟩ := List.forall_mem_cons.mp hbefore
    rw [List.map_cons, List.pairwise_cons, List.forall_mem_map] at hincreasing
    refine avoids_then (avoids_requireType fun _ => id) (avoids_then
      (avoids_require (.inl (inLine_iff.mpr ⟨hoffset, hleast⟩))) (ih hoffsets hincreasing.2 ?_))
    rintro later hmem least ⟨⟩
    exact hincreasing.1 later hmem

/-- Offsets of another buffer are not found fault with in this one. -/
theorem avoids_checkMembers_of_ne {owner : String} (hne : owner ≠ buffer)
    (before : Option UInt32) (members : List UniformMember) :
    Avoids (Fault.IsOffsetOf buffer) (checkMembers structures owner before members) := by
  induction members generalizing before with
  | nil => exact avoids_ok ()
  | cons member rest ih =>
    exact avoids_then (avoids_requireType fun _ => id)
      (avoids_then (avoids_require (.inr hne)) (ih _))

theorem avoids_checkUniformBuffers
    (h : ∀ b ∈ shader.uniformBuffers, b.name = buffer → b.InOrder) :
    Avoids (Fault.IsOffsetOf buffer) shader.checkUniformBuffers := by
  refine avoids_checkAll fun b hb => avoids_then (avoids_requireDistinct fun _ => id) ?_
  by_cases hname : b.name = buffer
  · exact avoids_checkMembers (h b hb hname).aligned (h b hb hname).increasing nofun
  · exact avoids_checkMembers_of_ne hname none b.members

/-- Validation tells of an offset in a buffer only if the offsets of such a buffer are out of
order. -/
theorem avoids_validate (h : ∀ b ∈ shader.uniformBuffers, b.name = buffer → b.InOrder) :
    Avoids (Fault.IsOffsetOf buffer) shader.validate := by
  -- The checks of all other parts have faults of their own, and none of these is an offset.
  have hprofile : Avoids (Fault.IsOffsetOf buffer) shader.checkProfile := by
    unfold checkProfile
    split
    · exact avoids_ok ()
    · exact avoids_require (.inr id)
  have hnames : Avoids (Fault.IsOffsetOf buffer) shader.checkVariableNames :=
    avoids_then (avoids_checkAll fun _ _ => avoids_requireDistinct fun _ => id)
      (avoids_then (avoids_checkAll fun _ _ => avoids_requireDistinct fun _ => id)
        (avoids_requireDistinct fun _ => id))
  have hparts : Avoids (Fault.IsOffsetOf buffer) shader.checkStageParts :=
    avoids_then (avoids_checkAll fun _ _ => avoids_require (.inr id)) (avoids_require (.inr id))
  have htypes : Avoids (Fault.IsOffsetOf buffer) shader.checkVariableTypes :=
    avoids_then (avoids_checkAll fun _ _ => avoids_requireType fun _ => id)
      (avoids_checkAll fun _ _ =>
        avoids_then (avoids_requireType fun _ => id) (avoids_require (.inr id)))
  have hstructures : Avoids (Fault.IsOffsetOf buffer) shader.checkStructures :=
    avoids_checkAll fun _ _ => avoids_then (avoids_requireDistinct fun _ => id)
      (avoids_checkAll fun _ _ => avoids_requireType fun _ => id)
  have hslots : Avoids (Fault.IsOffsetOf buffer) shader.checkSlots := by
    have hcategory : ∀ category entries,
        Avoids (Fault.IsOffsetOf buffer) (checkBindings category [] entries) :=
      fun category entries => avoids_checkBindings (fun _ => id) (fun _ => id) [] entries
    exact avoids_then (hcategory _ _)
      (avoids_then (hcategory _ _) (avoids_then (hcategory _ _) (hcategory _ _)))
  have hviews : Avoids (Fault.IsOffsetOf buffer) shader.checkViews :=
    avoids_checkAll fun _ _ => avoids_requireType fun _ => id
  have hfixed : Avoids (Fault.IsOffsetOf buffer) shader.checkFixedSampling :=
    avoids_then (avoids_checkAll fun _ _ =>
      avoids_then (avoids_require (.inr id)) (avoids_require (.inr id)))
      (avoids_requireDistinct fun _ => id)
  exact avoids_then hprofile (avoids_then hnames (avoids_then hparts
    (avoids_then (avoids_requireDistinct fun _ => id) (avoids_then htypes
      (avoids_then hstructures (avoids_then (avoids_checkUniformBuffers h)
        (avoids_then hslots (avoids_then hviews hfixed))))))))

end Shader

/-! ## Uniform buffers of descriptions -/

/-- The error is an offset in a buffer. -/
def ShaderError.IsOffsetOf (buffer : String) : ShaderError → Prop
  | .malformed _ fault => fault.IsOffsetOf buffer
  | _ => False

namespace BufferDraft

variable {structures : List Structure}

/-- Some member takes no bytes, and it is not the last one. -/
def HasHollow (structures : List Structure) (draft : BufferDraft) : Prop :=
  ∃ field ∈ draft.members.dropLast, field.type.Hollow structures

end BufferDraft

namespace Description

variable {bad : ShaderError → Prop} {description : Description} {count : Nat} {built : Shader}

/-- A description is at fault for what a line says or for what cannot be packed. -/
theorem avoids_shader (hline : ∀ k fault, ¬bad (.description k fault))
    (hbuffer : ∀ name buffer fault, ¬bad (.malformed name (.uniformBuffer buffer fault)))
    (description : Description) (count : Nat) : Avoids bad (description.shader count) := by
  have hstage : Avoids bad (description.stage.mapError (.description count)) :=
    avoids_mapError_iff.mpr (avoids_of_forall (hline count) _)
  unfold Description.shader
  cases description.properties.get? "Name" with
  | none => exact avoids_error_iff.mpr (hline _ _)
  | some name =>
    have hbuffers := avoids_packBuffers (hbuffer name) description.structures
      description.uniformBuffers
    simp [hstage, hbuffers]

/-- Those buffers are packed in order in which only the last member may be hollow. -/
theorem inOrder_iff_of_shader (hreadable : ∀ type ∈ description.resourceTypes, type.IsReadable)
    (hbuilt : description.shader count = .ok built) :
    List.Forall₂ (fun (draft : BufferDraft) buffer => buffer.name = draft.name ∧
        (buffer.InOrder ↔ ¬draft.HasHollow description.structures))
      description.uniformBuffers built.uniformBuffers := by
  have hstructures : ∀ s ∈ description.structures, ∀ field ∈ s.members, field.type.IsReadable := by
    intro s hs field hfield
    refine hreadable _ ?_
    simp only [resourceTypes, List.mem_append, List.mem_map, List.mem_flatMap]
    exact .inl (.inl ⟨field, ⟨s, hs, hfield⟩, rfl⟩)
  have hmembers : ∀ draft ∈ description.uniformBuffers, ∀ field ∈ draft.members,
      field.type.IsReadable := by
    intro draft hdraft field hfield
    refine hreadable _ ?_
    simp only [resourceTypes, List.mem_append, List.mem_map, List.mem_flatMap]
    exact .inl (.inr ⟨field, ⟨draft, hdraft, hfield⟩, rfl⟩)
  obtain ⟨-, -, hpacked⟩ := parts_of_shader hbuilt
  obtain ⟨hlength, hpackedEach⟩ := List.forall₂_iff_zip.mp (forall₂_of_packBuffers hpacked)
  refine List.forall₂_iff_zip.mpr ⟨hlength, fun {draft buffer} hpart => ?_⟩
  have hdraft := (List.of_mem_zip hpart).1
  have hbuffer := hpackedEach hpart
  constructor
  · obtain ⟨placed, -, rfl⟩ := UniformBuffer.packed_eq_ok_iff.mp hbuffer
    rfl
  · rw [UniformBuffer.inOrder_iff_not_hollow hstructures (hmembers draft hdraft) hbuffer,
      BufferDraft.HasHollow, not_exists]
    simp only [not_and]

end Description

namespace Shader

open Description (linesOf)

variable {text owner member buffer : String} {reading : Reading} {offset : UInt32}

/-- An offset is told of only for a shader that is described and has a buffer that is out of
order. -/
theorem exists_not_inOrder (hsteps : Reading.steps {} 1 (linesOf text) = .ok reading)
    (h : Shader.read text = .error (.malformed owner (.memberOffset member buffer offset))) :
    ∃ built, reading.description.shader (linesOf text).length = .ok built ∧
      ∃ b ∈ built.uniformBuffers, b.name = buffer ∧ ¬b.InOrder := by
  rw [Shader.read, hsteps, ok_bind] at h
  cases hshader : reading.description.shader (linesOf text).length with
  | error error =>
    have havoids : Avoids (ShaderError.IsOffsetOf buffer)
        (reading.description.shader (linesOf text).length) :=
      Description.avoids_shader (fun _ _ => id) (fun _ _ _ => id) _ _
    rw [hshader, error_bind] at h
    cases h
    exact absurd rfl (havoids _ hshader)
  | ok built =>
    refine ⟨built, rfl, ?_⟩
    rw [hshader, ok_bind, accept] at h
    by_contra hnone
    push Not at hnone
    have havoids := avoids_validate hnone
    split at h
    · cases h
    · rename_i fault hfault
      cases h
      exact havoids _ hfault rfl

/-- The offsets that packing gives and the offsets that validation accepts.  Packed members start at
multiples of 16, and they start one behind the other if and only if all of them take bytes, apart
from the last one.  So it is with descriptions: one that is read has no hollow member before
another, and if one is refused for the offset of a member, such a member is in the buffer. -/
theorem packedOffsets_inOrder (name : String) (slot : UInt32) (fields : List Field)
    (structures : List Structure) (text : String) :
    (∀ buffer, UniformBuffer.packed name slot fields structures = .ok buffer →
      (∀ member ∈ buffer.members, 16 ∣ member.offset.toNat) ∧
      ∀ sizes, TakeAll structures fields sizes →
        (buffer.InOrder ↔ ∀ size ∈ sizes.dropLast, 0 < size)) ∧
    ∀ reading, Reading.steps {} 1 (linesOf text) = .ok reading →
      (∀ shader, Shader.read text = .ok shader → ∀ draft ∈ reading.description.uniformBuffers,
        ¬draft.HasHollow reading.description.structures) ∧
      ∀ owner member buffer offset,
        Shader.read text = .error (.malformed owner (.memberOffset member buffer offset)) →
          ∃ draft ∈ reading.description.uniformBuffers, draft.name = buffer ∧
            draft.HasHollow reading.description.structures := by
  constructor
  · intro buffer hpacked
    refine ⟨?_, fun sizes hsizes => UniformBuffer.inOrder_iff_sizes hsizes hpacked⟩
    obtain ⟨placed, hplaced, rfl⟩ := UniformBuffer.packed_eq_ok_iff.mp hpacked
    have hoffsets : UniformBuffer.HasOffsets structures fields ⟨name, slot, placed⟩ :=
      UniformBuffer.hasOffsets_of_placeMembers hplaced
    exact hoffsets.aligned
  · intro reading hsteps
    have hreadable := Reading.isReadable_foldlM (Reading.steps_eq_ok_iff.mp hsteps)
    constructor
    · intro shader hread
      rw [Shader.read, hsteps, ok_bind, bind_eq_ok] at hread
      obtain ⟨built, hbuilt, haccept⟩ := hread
      obtain ⟨hformed, -⟩ := accept_eq_ok_iff.mp haccept
      have horder := Description.inOrder_iff_of_shader hreadable hbuilt
      exact (forall_iff_of_forall₂ (horder.imp fun _ _ h => h.2.symm)).mpr hformed.offsets
    · intro owner member buffer offset hread
      obtain ⟨built, hbuilt, b, hb, rfl, hnot⟩ := exists_not_inOrder hsteps hread
      have horder := Description.inOrder_iff_of_shader hreadable hbuilt
      obtain ⟨draft, hdraft, hname, hiff⟩ := exists_mem_of_forall₂ horder hb
      exact ⟨draft, hdraft, hname.symm, not_not.mp (mt hiff.mpr hnot)⟩

/-- A structure that has no members. -/
def nothing : Structure := ⟨"Nothing", []⟩

/-- A member that takes no bytes. -/
def hollowField : Field := ⟨.struct "Nothing", "none"⟩

def colorField : Field := ⟨.float4, "color"⟩

/-- A buffer with such a member before another one. -/
def sharedOffset : UniformBuffer :=
  ⟨"Scene", 0, [⟨.struct "Nothing", "none", 0⟩, ⟨.float4, "color", 0⟩]⟩

/-- A description with some members in its one buffer. -/
def hollowText (members : List String) : String :=
  "\n".intercalate (["%meta", "Name = Hollow", "Stage = Pixel", "%structures", "struct Nothing",
    "%ubuffers", "ubuffer Scene : 0"] ++ members)

def hollowReading (members : List Field) : Reading where
  openSection := .uniformBuffers
  description :=
    { properties := [("Name", "Hollow"), ("Stage", "Pixel")]
      uniformBuffers := [⟨"Scene", 0, members⟩]
      structures := [nothing] }

theorem takes_nothing : (ValueType.struct "Nothing").Takes [nothing] 0 := by
  have hmembers : TakeAll [nothing] nothing.members [] := .nil
  exact takes_struct rfl hmembers

theorem takeAll_hollowFields : TakeAll [nothing] [hollowField, colorField] [0, 16] :=
  .cons takes_nothing (.cons (.vector .float 4) .nil)

theorem packedOffsets_inOrder_nothing :
    ¬sharedOffset.InOrder ∧
      ¬(⟨"Scene", 0, [colorField, hollowField]⟩ : BufferDraft).HasHollow [nothing] ∧
      ∃ draft ∈ (hollowReading [hollowField, colorField]).description.uniformBuffers,
        draft.name = "Scene" ∧ draft.HasHollow [nothing] := by
  obtain ⟨hbuffers, hrefused⟩ := packedOffsets_inOrder "Scene" 0 [hollowField, colorField] [nothing]
    (hollowText ["Nothing none", "float4 color"])
  obtain ⟨-, htaken⟩ := packedOffsets_inOrder "Scene" 0 [colorField, hollowField] [nothing]
    (hollowText ["float4 color", "Nothing none"])
  refine ⟨?_, ?_, ?_⟩
  · have hpacked : UniformBuffer.packed "Scene" 0 [hollowField, colorField] [nothing] =
        .ok sharedOffset := by
      decide +kernel
    rw [(hbuffers _ hpacked).2 _ takeAll_hollowFields]
    decide
  · have hread : Shader.read (hollowText ["float4 color", "Nothing none"]) = .ok
        { name := "Hollow", stage := .pixel, structures := [nothing],
          uniformBuffers :=
            [⟨"Scene", 0, [⟨.float4, "color", 0⟩, ⟨.struct "Nothing", "none", 16⟩]⟩] } := by
      decide +kernel
    have hsteps : Reading.steps {} 1 (linesOf (hollowText ["float4 color", "Nothing none"])) =
        .ok (hollowReading [colorField, hollowField]) := by
      decide +kernel
    exact (htaken _ hsteps).1 _ hread _ List.mem_cons_self
  · have hread : Shader.read (hollowText ["Nothing none", "float4 color"]) =
        .error (.malformed "Hollow" (.memberOffset "color" "Scene" 0)) := by
      decide +kernel
    have hsteps : Reading.steps {} 1 (linesOf (hollowText ["Nothing none", "float4 color"])) =
        .ok (hollowReading [hollowField, colorField]) := by
      decide +kernel
    exact (hrefused _ hsteps).2 _ _ _ _ hread

/-- Packing gives two members of a buffer the same offset if the first one takes no bytes, although
there is room for both, and a description with this buffer is refused for an offset that does not
stand in it. -/
theorem packed_shares_offset :
    UniformBuffer.packed "Scene" 0 [hollowField, colorField] [nothing] =
        .ok sharedOffset ∧
      TakeAll [nothing] [hollowField, colorField] [0, 16] ∧
      (∀ span ∈ byteSpans 0 [0, 16], FitsWord span) ∧
      ¬sharedOffset.InOrder ∧
      Shader.read (hollowText ["Nothing none", "float4 color"]) =
        .error (.malformed "Hollow" (.memberOffset "color" "Scene" 0)) := by
  refine ⟨by decide +kernel, takeAll_hollowFields, ?_,
    fun horder => absurd horder.increasing (by decide), by decide +kernel⟩
  simp [byteSpans, nextMultiple, FitsWord, UInt32.size]

end Shader

end CrossShade
