import CrossShade.Proofs.Hlsl.Annotations
import CrossShade.Proofs.Runs
import CrossShade.Proofs.Shader.Building
import CrossShade.Proofs.UniformBuffer.Placement
import Mathlib.Data.List.Sort

/-!
# Constant registers of Direct3D 9

The uniform buffers of a shader lie in the constant registers one after the other, in the order of
their slots, and their members lie in them as they are packed.

* `globals_constants` reads the register of every member off the declarations.
* `buffersBySlot_of_perm` says that the order of the slots is all that counts.
* `ConstantsApart` is what a reader of the text relies on, and `constantsApart_of_packed` has it for
  packed buffers.
-/

namespace CrossShade

namespace Source

/-- Empty lines declare nothing. -/
theorem globals_ofItems (items : List Item) : (ofItems items).globals = globals ⟨items⟩ :=
  filterMap_items_ofItems rfl items

theorem globals_append (first second : List Item) :
    globals ⟨first ++ second⟩ = globals ⟨first⟩ ++ globals ⟨second⟩ :=
  List.filterMap_append ..

end Source

namespace Direct3D9

open Source

variable {shader : Shader} {text : Source} {structures : List Structure}

/-! ## Declarations -/

/-- How a text names a constant register. -/
def constantRegister (n : Nat) : String :=
  s!"register(c{n})"

theorem globals_members (members : List UniformMember) (declare : UniformMember → Declaration) :
    globals ⟨members.map fun m => .global (declare m)⟩ = members.map declare := by
  rw [globals, List.filterMap_map, ← List.filterMap_eq_map]
  rfl

/-- The members of a buffer are declared with the registers at their offsets. -/
theorem eq_map_of_declareConstant {base : UInt32} {members : List UniformMember} {items : List Item}
    (h : members.mapM (declareConstant base) = .ok items) :
    items = members.map fun m => .global
      (Hlsl.declare m.type m.name (constantRegister (base.toNat + (m.offset / 16).toNat))) := by
  rw [← List.map_id items]
  refine map_eq_map_of_mapM_eq_ok (fun m item hitem => ?_) h
  obtain ⟨first, hfirst, rfl⟩ := declareConstant_eq_ok_iff.mp hitem
  rw [← hfirst]
  rfl

/-- The members are declared buffer by buffer, each with the register that follows from the buffers
and members before it. -/
theorem globals_constants {buffers : List UniformBuffer} {base : UInt32} {items : List Item}
    (h : constants shader base buffers = .ok items)
    (hplaced : ∀ buffer ∈ buffers, buffer.InRegisters shader.structures)
    {j i : Nat} {buffer : UniformBuffer} {m : UniformMember} (hbuffer : buffers[j]? = some buffer)
    (hm : buffer.members[i]? = some m) :
    (globals ⟨items⟩)[runStart (·.members.length) buffers j + i]? =
      some (Hlsl.declare m.type m.name (constantRegister (base.toNat +
        (runStart (UniformBuffer.registers shader.structures) buffers j +
          runStart (UniformMember.registers shader.structures) buffer.members i)))) := by
  induction buffers generalizing base items j with
  | nil => simp at hbuffer
  | cons head rest ih =>
    obtain ⟨members, count, next, following, hmembers, hcount, hnext, hfollowing, rfl⟩ :=
      constants_cons_eq_ok h
    obtain ⟨hoffset, -, counted, hcounted, hregisters⟩ := hplaced head List.mem_cons_self
    obtain rfl : counted = count := Except.ok.inj (hcounted.symm.trans hcount)
    have hglobals : globals ⟨.comment s!"{head.name} (slot {head.slot})" :: members ++
        following⟩ = globals ⟨members⟩ ++ globals ⟨following⟩ := by
      rw [← globals_append]
      rfl
    rw [hglobals, eq_map_of_declareConstant hmembers, globals_members]
    cases j with
    | zero =>
      obtain rfl : head = buffer := by simpa using hbuffer
      have hbound : i < head.members.length := (List.getElem?_eq_some_iff.mp hm).1
      have hregister : (m.offset / 16).toNat =
          runStart (UniformMember.registers shader.structures) head.members i := by
        rw [UInt32.toNat_div, hoffset i m hm]
        exact Nat.mul_div_cancel_left _ (by decide)
      rw [runStart_zero, runStart_zero, Nat.zero_add, Nat.zero_add,
        List.getElem?_append_left (by simpa using hbound), List.getElem?_map, hm, Option.map_some,
        hregister]
    | succ j =>
      have hrest := ih hfollowing (fun b hb => hplaced b (List.mem_cons_of_mem _ hb))
        (by simpa using hbuffer)
      rw [runStart_cons_succ, runStart_cons_succ, Nat.add_assoc,
        List.getElem?_append_right (by simp), List.length_map, Nat.add_sub_cancel_left, hrest,
        hnext, hregisters, Nat.add_assoc, Nat.add_assoc]

/-- The constants of a text are the first of its globals. -/
theorem exists_globals_of_source (h : source shader = .ok text) :
    ∃ items, constants shader 0 (buffersBySlot shader) = .ok items ∧
      globals ⟨items⟩ <+: text.globals := by
  simp only [source] at h
  split at h
  · cases h
  · simp only [bind_eq_ok, pure_eq_ok] at h
    obtain ⟨resourceItems, hresources, _, -, _, -, input, -, output, -, rfl⟩ := h
    obtain ⟨items, views, hconstants, -, rfl⟩ := resources_eq_ok hresources
    have hcode : globals ⟨globalItems shader⟩ = [] := by
      rw [globals, List.filterMap_eq_nil_iff]
      intro item hitem
      simp only [globalItems, List.mem_append, List.mem_map, List.mem_singleton] at hitem
      rcases hitem with ⟨line, -, rfl⟩ | rfl <;> rfl
    have hstructures : globals ⟨Hlsl.structures shader⟩ = [] := by
      rw [globals, List.filterMap_eq_nil_iff]
      intro item hitem
      simp only [Hlsl.structures, List.mem_flatMap, List.mem_cons, List.not_mem_nil,
        or_false] at hitem
      obtain ⟨s, -, rfl | rfl⟩ := hitem <;> rfl
    refine ⟨items, hconstants, ?_⟩
    rw [globals_ofItems]
    simp only [List.append_assoc, globals_append, hcode, hstructures, List.nil_append]
    exact ⟨_, rfl⟩

/-! ## The order of the slots -/

/-- The slots of a well-formed shader are distinct, so a slot belongs to one buffer. -/
theorem nodup_slots (h : shader.WellFormed) : (shader.uniformBuffers.map (·.slot)).Nodup := by
  have hslots := h.bindingSlots .uniformBuffer
  rwa [Shader.bindings, List.map_map] at hslots

theorem pairwise_buffersBySlot (shader : Shader) :
    (buffersBySlot shader).Pairwise (·.slot ≤ ·.slot) := by
  have htrans : ∀ a b c : UniformBuffer, decide (a.slot ≤ b.slot) = true →
      decide (b.slot ≤ c.slot) = true → decide (a.slot ≤ c.slot) = true :=
    fun a b c hab hbc =>
      decide_eq_true (UInt32.le_trans (of_decide_eq_true hab) (of_decide_eq_true hbc))
  have htotal : ∀ a b : UniformBuffer,
      (decide (a.slot ≤ b.slot) || decide (b.slot ≤ a.slot)) = true :=
    fun a b => by simpa using UInt32.le_total a.slot b.slot
  exact (List.pairwise_mergeSort htrans htotal shader.uniformBuffers).imp of_decide_eq_true

theorem buffersBySlot_perm (shader : Shader) :
    (buffersBySlot shader).Perm shader.uniformBuffers :=
  List.mergeSort_perm ..

theorem pairwise_lt_buffersBySlot (h : shader.WellFormed) :
    (buffersBySlot shader).Pairwise (·.slot < ·.slot) := by
  have hdistinct : ((buffersBySlot shader).map (·.slot)).Nodup :=
    ((buffersBySlot_perm shader).map _).nodup_iff.mpr (nodup_slots h)
  have hne := List.pairwise_map.mp (List.nodup_iff_pairwise_ne.mp hdistinct)
  exact ((pairwise_buffersBySlot shader).and hne).imp fun hslots =>
    UInt32.lt_of_le_of_ne hslots.1 hslots.2

/-- Whatever has the same buffers in the order of distinct slots is the row of buffers. -/
theorem buffersBySlot_eq {row : List UniformBuffer} (hperm : row.Perm shader.uniformBuffers)
    (hsorted : row.Pairwise (·.slot < ·.slot)) : buffersBySlot shader = row := by
  have hsame := (buffersBySlot_perm shader).trans hperm.symm
  have hdistinct : (row.map (·.slot)).Nodup :=
    List.nodup_iff_pairwise_ne.mpr (List.pairwise_map.mpr (hsorted.imp UInt32.ne_of_lt))
  refine List.Perm.eq_of_pairwise ?_ (pairwise_buffersBySlot shader)
    (hsorted.imp UInt32.le_of_lt) hsame
  intro a b ha hb hab hba
  exact List.inj_on_of_nodup_map hdistinct (hsame.mem_iff.mp ha) hb (UInt32.le_antisymm hab hba)

/-- The order in which the buffers are declared does not matter. -/
theorem buffersBySlot_of_perm (h : shader.WellFormed) {buffers : List UniformBuffer}
    (hperm : buffers.Perm shader.uniformBuffers) :
    buffersBySlot { shader with uniformBuffers := buffers } = buffersBySlot shader :=
  buffersBySlot_eq ((buffersBySlot_perm shader).trans hperm.symm) (pairwise_lt_buffersBySlot h)

/-- Which buffers a shader declares, its constants do not say. -/
theorem constants_with_uniformBuffers (buffers : List UniformBuffer) (base : UInt32)
    (row : List UniformBuffer) :
    constants { shader with uniformBuffers := buffers } base row = constants shader base row := by
  induction row generalizing base with
  | nil => rfl
  | cons buffer rest ih =>
    simp only [constants, ih]
    rfl

/-- An interface structure knows the name and the stage of its shader only. -/
theorem interfaceStruct_with_uniformBuffers (buffers : List UniformBuffer) (role : String)
    (domain : Option TessellationDomain)
    (declare : Variable → MemberLength → Except ShaderError Declaration) (vars : List Variable) :
    interfaceStruct { shader with uniformBuffers := buffers } role domain declare vars =
      interfaceStruct shader role domain declare vars := by
  have hmembers : interfaceMembers { shader with uniformBuffers := buffers } domain declare vars =
      interfaceMembers shader domain declare vars := by
    induction vars with
    | nil => rfl
    | cons v rest ih =>
      simp only [interfaceMembers, ih]
      rfl
  rw [interfaceStruct, hmembers]
  rfl

theorem source_of_perm (h : shader.WellFormed) {buffers : List UniformBuffer}
    (hperm : buffers.Perm shader.uniformBuffers) :
    source { shader with uniformBuffers := buffers } = source shader := by
  have hresources : resources { shader with uniformBuffers := buffers } = resources shader := by
    simp only [resources, buffersBySlot_of_perm h hperm, constants_with_uniformBuffers]
    rfl
  simp only [source, hresources, interfaceStruct_with_uniformBuffers]

/-! ## What members claim -/

/-- The first register of the buffer at a place in the order of the slots. -/
def blockStart (shader : Shader) (j : Nat) : Nat :=
  runStart (UniformBuffer.registers shader.structures) (buffersBySlot shader) j

/-- The first register of the member at a place of such a buffer. -/
def firstRegister (shader : Shader) (j : Nat) (buffer : UniformBuffer) (i : Nat) : Nat :=
  blockStart shader j + runStart (UniformMember.registers shader.structures) buffer.members i

/-- The registers of that member. -/
def claimed (shader : Shader) (j : Nat) (buffer : UniformBuffer) (i : Nat) (m : UniformMember) :
    List Nat :=
  List.range' (firstRegister shader j buffer i) (m.registers shader.structures)

section Claims

variable {buffer buffer' : UniformBuffer} {m m' : UniformMember} {i i' j j' : Nat}

theorem blockStart_succ (hj : (buffersBySlot shader)[j]? = some buffer) :
    blockStart shader (j + 1) = blockStart shader j + buffer.registers shader.structures :=
  runStart_succ hj

/-- What a member claims lies before the next buffer. -/
theorem firstRegister_add_le (hj : (buffersBySlot shader)[j]? = some buffer)
    (hi : buffer.members[i]? = some m) :
    firstRegister shader j buffer i + m.registers shader.structures ≤
      blockStart shader (j + 1) := by
  have hle : runStart (UniformMember.registers shader.structures) buffer.members i +
      m.registers shader.structures ≤ buffer.registers shader.structures :=
    add_width_le_runTotal hi
  rw [blockStart_succ hj, firstRegister, Nat.add_assoc]
  exact Nat.add_le_add_left hle _

/-- What a member claims lies before the members of later buffers and the later members of its
own. -/
theorem firstRegister_add_le_of_lt (hj : (buffersBySlot shader)[j]? = some buffer)
    (hi : buffer.members[i]? = some m) (hj' : (buffersBySlot shader)[j']? = some buffer')
    (hlt : j < j' ∨ j = j' ∧ i < i') :
    firstRegister shader j buffer i + m.registers shader.structures ≤
      firstRegister shader j' buffer' i' := by
  rcases hlt with hbuffers | ⟨rfl, hmembers⟩
  · have hend := firstRegister_add_le hj hi
    have hlater : blockStart shader j + buffer.registers shader.structures ≤
        blockStart shader j' := runStart_add_width_le hj hbuffers
    rw [blockStart_succ hj] at hend
    exact (hend.trans hlater).trans (Nat.le_add_right _ _)
  · obtain rfl : buffer = buffer' := Option.some.inj (hj.symm.trans hj')
    have hlater : runStart (UniformMember.registers shader.structures) buffer.members i +
        m.registers shader.structures ≤
          runStart (UniformMember.registers shader.structures) buffer.members i' :=
      runStart_add_width_le hi hmembers
    rw [firstRegister, firstRegister, Nat.add_assoc]
    exact Nat.add_le_add_left hlater _

theorem mem_claimed {n : Nat} : n ∈ claimed shader j buffer i m ↔
    firstRegister shader j buffer i ≤ n ∧
      n < firstRegister shader j buffer i + m.registers shader.structures :=
  List.mem_range'_1

end Claims

/-- How the members of uniform buffers share the constant registers. -/
structure ConstantsApart (shader : Shader) (text : Source) : Prop where
  isPerm : (buffersBySlot shader).Perm shader.uniformBuffers
  bySlot : (buffersBySlot shader).Pairwise (·.slot < ·.slot)
  /-- What a member claims is as long as its type, in whole registers. -/
  sized : ∀ buffer ∈ shader.uniformBuffers, ∀ m ∈ buffer.members, ∃ size,
    m.type.sizeIn shader.structures = .ok size ∧
      m.registers shader.structures = (size.toNat + 15) / 16
  /-- The register that a member is annotated with is the first that it claims. -/
  annotated : ∀ j buffer, (buffersBySlot shader)[j]? = some buffer →
    ∀ i m, buffer.members[i]? = some m →
      text.globals[runStart (·.members.length) (buffersBySlot shader) j + i]? =
        some (Hlsl.declare m.type m.name (constantRegister (firstRegister shader j buffer i)))
  blocksFromZero : blockStart shader 0 = 0
  /-- A block is as long as its buffer says, and the next follows it without a gap. -/
  blocks : ∀ j buffer, (buffersBySlot shader)[j]? = some buffer → ∃ count,
    buffer.registerCount shader.structures = .ok count ∧
      blockStart shader (j + 1) = blockStart shader j + count.toNat
  within : ∀ j buffer, (buffersBySlot shader)[j]? = some buffer →
    ∀ i m, buffer.members[i]? = some m →
      ∀ n ∈ claimed shader j buffer i m, blockStart shader j ≤ n ∧ n < blockStart shader (j + 1)
  /-- No register is claimed twice. -/
  apart : ∀ j buffer, (buffersBySlot shader)[j]? = some buffer →
    ∀ i m, buffer.members[i]? = some m →
    ∀ j' buffer', (buffersBySlot shader)[j']? = some buffer' →
    ∀ i' m', buffer'.members[i']? = some m' → (j, i) ≠ (j', i') →
      (claimed shader j buffer i m).Disjoint (claimed shader j' buffer' i' m')

/-- Uniform buffers that are packed beside the structures of a shader share the constant registers,
and the text does not depend on the order in which they are declared. -/
theorem constantsApart_of_packed {name : String} {stage : Stage} {additions : List Addition}
    (hbuild : Shader.build name stage additions = .ok shader)
    (hpacked : ∀ buffer ∈ shader.uniformBuffers, ∃ fields,
      UniformBuffer.packed buffer.name buffer.slot fields shader.structures = .ok buffer)
    (h : source shader = .ok text) :
    ConstantsApart shader text ∧
      ∀ buffers : List UniformBuffer, buffers.Perm shader.uniformBuffers →
        source { shader with uniformBuffers := buffers } = .ok text := by
  have hformed := Shader.wellFormed_of_build hbuild
  refine ⟨?_, fun buffers hperm => by rw [source_of_perm hformed hperm, h]⟩
  have hperm := buffersBySlot_perm shader
  have hplaced : ∀ buffer ∈ shader.uniformBuffers, buffer.InRegisters shader.structures := by
    intro buffer hbuffer
    obtain ⟨fields, hfields⟩ := hpacked buffer hbuffer
    exact UniformBuffer.inRegisters_of_packed hfields
  have hrow : ∀ buffer ∈ buffersBySlot shader, buffer.InRegisters shader.structures :=
    fun buffer hbuffer => hplaced buffer (hperm.mem_iff.mp hbuffer)
  obtain ⟨items, hconstants, rest, hglobals⟩ := exists_globals_of_source h
  refine ⟨hperm, pairwise_lt_buffersBySlot hformed, fun buffer hb => (hplaced buffer hb).sized, ?_,
    runStart_zero _, ?_, ?_, ?_⟩
  · intro j buffer hj i m hi
    have hbase : (0 : UInt32).toNat = 0 := rfl
    have hdeclared := globals_constants hconstants hrow hj hi
    rw [hbase, Nat.zero_add] at hdeclared
    rw [← hglobals, List.getElem?_append_left (List.getElem?_eq_some_iff.mp hdeclared).1]
    exact hdeclared
  · intro j buffer hj
    obtain ⟨count, hcount, hregisters⟩ := (hrow buffer (List.mem_of_getElem? hj)).count
    exact ⟨count, hcount, by rw [hregisters, blockStart_succ hj]⟩
  · intro j buffer hj i m hi n hn
    obtain ⟨hfirst, hend⟩ := mem_claimed.mp hn
    exact ⟨(Nat.le_add_right _ _).trans hfirst,
      Nat.lt_of_lt_of_le hend (firstRegister_add_le hj hi)⟩
  · intro j buffer hj i m hi j' buffer' hj' i' m' hi' hne n hn hn'
    obtain ⟨hfirst, hend⟩ := mem_claimed.mp hn
    obtain ⟨hfirst', hend'⟩ := mem_claimed.mp hn'
    -- one of the two places is before the other
    have hcases : (j < j' ∨ j = j' ∧ i < i') ∨ (j' < j ∨ j' = j ∧ i' < i) := by
      rw [Ne, Prod.mk.injEq] at hne
      omega
    rcases hcases with hlt | hlt
    · have hbefore := firstRegister_add_le_of_lt hj hi hj' hlt
      omega
    · have hbefore := firstRegister_add_le_of_lt hj' hi' hj hlt
      omega

/-- The members of a buffer as they are given to be packed. -/
def fieldsOf (buffer : UniformBuffer) : List Field :=
  buffer.members.map fun m => ⟨m.type, m.name⟩

/-- A shader whose buffers are declared in another order than that of their slots. -/
def lamps : Shader where
  name := "Lamps"
  stage := .pixel
  structures := [⟨"Lamp", [⟨.float4, "color"⟩, ⟨.vector .float 3, "place"⟩]⟩]
  uniformBuffers := [⟨"Scene", 4, [⟨.array (.struct "Lamp") (.fixed 2), "lamps", 0⟩,
      ⟨.scalar .float, "time", 64⟩]⟩,
    ⟨"Camera", 0, [⟨.matrix .float 4 4, "view", 0⟩]⟩,
    ⟨"Weights", 1, [⟨.array (.vector .float 3) (.fixed 3), "weights", 0⟩]⟩]

theorem constantsApart_of_packed_lamps :
    Shader.build "Lamps" .pixel lamps.additions = .ok lamps ∧
      ∃ text, source lamps = .ok text ∧ ConstantsApart lamps text ∧
        source { lamps with uniformBuffers := lamps.uniformBuffers.reverse } = .ok text ∧
        text.globals.map (fun d => (d.name, d.boundTo)) =
          [("view", some "register(c0)"), ("weights", some "register(c4)"),
            ("lamps", some "register(c7)"), ("time", some "register(c11)")] := by
  have hbuild : Shader.build "Lamps" .pixel lamps.additions = .ok lamps := by decide +kernel
  have hpacked : ∀ buffer ∈ lamps.uniformBuffers,
      UniformBuffer.packed buffer.name buffer.slot (fieldsOf buffer) lamps.structures =
        .ok buffer := by
    decide +kernel
  -- sorting does not compute, so the row is named
  have hrow : buffersBySlot lamps = lamps.uniformBuffers.rotate 1 :=
    buffersBySlot_eq (by decide +kernel) (by decide +kernel)
  obtain ⟨text, htext⟩ : ∃ text, source lamps = .ok text := by
    apply exists_of_isOk
    simp only [source, resources, hrow]
    decide +kernel
  have hglobals : (source lamps).map (fun text => text.globals.map fun d => (d.name, d.boundTo)) =
      .ok [("view", some "register(c0)"), ("weights", some "register(c4)"),
        ("lamps", some "register(c7)"), ("time", some "register(c11)")] := by
    simp only [source, resources, hrow]
    decide +kernel
  obtain ⟨hapart, hsame⟩ := constantsApart_of_packed hbuild
    (fun buffer hbuffer => ⟨_, hpacked buffer hbuffer⟩) htext
  rw [htext] at hglobals
  exact ⟨hbuild, text, htext, hapart, hsame _ (List.reverse_perm _), Except.ok.inj hglobals⟩

/-- The structure of `dimmed` as it was when the buffer was packed. -/
def shortLamp : Structure :=
  ⟨"Lamp", [⟨.float4, "color"⟩]⟩

/-- A shader whose buffer was packed beside another structure than the one that it declares. -/
def dimmed : Shader where
  name := "Dimmed"
  stage := .pixel
  structures := [⟨"Lamp", [⟨.float4, "color"⟩, ⟨.float4, "place"⟩]⟩]
  uniformBuffers := [⟨"Scene", 0, [⟨.struct "Lamp", "lamp", 0⟩, ⟨.float4, "tint", 16⟩]⟩]

/-- A buffer that is packed beside another structure of the same name leaves a member too little
room. -/
theorem not_constantsApart_of_packed :
    Shader.build "Dimmed" .pixel dimmed.additions = .ok dimmed ∧
      (∀ buffer ∈ dimmed.uniformBuffers,
        UniformBuffer.packed buffer.name buffer.slot (fieldsOf buffer) [shortLamp] = .ok buffer) ∧
      (∃ text, source dimmed = .ok text ∧ ¬ConstantsApart dimmed text ∧ text.globals =
        [Hlsl.declare (.struct "Lamp") "lamp" (constantRegister 0),
          Hlsl.declare .float4 "tint" (constantRegister 1)]) ∧
      1 ∈ List.range' 0 ((ValueType.struct "Lamp").wholeRegisters dimmed.structures) ∧
      1 ∈ List.range' 1 (ValueType.float4.wholeRegisters dimmed.structures) := by
  have hdimmed : buffersBySlot dimmed = dimmed.uniformBuffers :=
    buffersBySlot_eq (List.Perm.refl _) (by decide +kernel)
  refine ⟨by decide +kernel, by decide +kernel, ?_, by decide +kernel, by decide +kernel⟩
  have hglobals : (source dimmed).map globals =
      .ok [Hlsl.declare (.struct "Lamp") "lamp" (constantRegister 0),
        Hlsl.declare .float4 "tint" (constantRegister 1)] := by
    simp only [source, resources, hdimmed]
    decide +kernel
  obtain ⟨text, htext, hglobals⟩ := map_eq_ok.mp hglobals
  refine ⟨text, htext, fun hapart => ?_, hglobals⟩
  have htint := hapart.annotated 0 _ (by rw [hdimmed]; rfl) 1 _ rfl
  rw [hglobals, firstRegister, blockStart, hdimmed] at htint
  exact absurd htint (by decide +kernel)

end Direct3D9

end CrossShade
