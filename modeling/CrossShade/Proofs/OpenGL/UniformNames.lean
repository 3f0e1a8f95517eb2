import CrossShade.Proofs.OpenGL.Document
import CrossShade.Proofs.Shader.Building
import CrossShade.Proofs.Text.Plain
import CrossShade.Proofs.ValueType.Bytes

/-!
# Names in uniform blocks

The uniform blocks of a GLSL text have no names for their instances, so the names of all their
members, and of the floats that fill gaps between them, are in one scope.

* `uniformNames_source` says which names a text has there: those of the members, and with them the
  names of the floats that `gaps` asks for.
* `padName_inj`: the name of such a float tells the number of the member behind it.
* `nodup_uniformNames_iff` is what follows.  The numbers begin anew in every block, and that is the
  only way in which two names can meet.
-/

namespace CrossShade

namespace Source

/-- The names that an item brings into the scope of uniform blocks. -/
def Item.uniformNames : Item → List String
  | .block _ header members =>
    if "layout(std140".toList <+: header.toList then members.map (·.name) else []
  | _ => []

/-- The names in the uniform blocks of a text, in order. -/
def uniformNames (source : Source) : List String :=
  source.items.flatMap Item.uniformNames

/-- Empty lines have no names. -/
theorem uniformNames_ofItems (items : List Item) :
    (ofItems items).uniformNames = items.flatMap Item.uniformNames := by
  have hkept : ∀ list : List Item, list.flatMap Item.uniformNames =
      (list.filter (· ≠ .blank)).flatMap Item.uniformNames := by
    intro list
    induction list with
    | nil => rfl
    | cons item rest ih =>
      by_cases hitem : item = .blank
      · rw [List.filter_cons_of_neg (by simpa using hitem), hitem, ← ih]
        rfl
      · rw [List.filter_cons_of_pos (by simpa using hitem), List.flatMap_cons, List.flatMap_cons,
          ih]
  rw [uniformNames, hkept, filter_items_ofItems, ← hkept]

end Source

namespace OpenGL

open Source

/-! ## Gaps -/

/-- Where a member ends in a uniform block. -/
def memberEnd (member : UniformMember) : UInt32 :=
  member.offset + (member.type.blockSize.toOption).getD 0

/-- How many bytes are free before each member, when those before the first end at `position`. -/
def gaps : (position : UInt32) → List UniformMember → List UInt32
  | _, [] => []
  | position, member :: rest => (member.offset - position) :: gaps (memberEnd member) rest

/-- There is room for a float before the member with a number. -/
def HasGap (buffer : UniformBuffer) (index : Nat) : Prop :=
  ∃ bytes, (gaps 0 buffer.members)[index]? = some bytes ∧ 4 ≤ bytes

/-- The name of a float in the gap before the member with a number. -/
def padName (index pad : Nat) : String :=
  s!"_pad{index}_{pad}"

/-- The names in a uniform block, with those of the floats before each member. -/
def paddedNames : (index : Nat) → (position : UInt32) → List UniformMember → List String
  | _, _, [] => []
  | index, position, member :: rest =>
    (List.range ((member.offset - position) / 4).toNat).map (padName index) ++
      member.name :: paddedNames (index + 1) (memberEnd member) rest

variable {buffer : String} {index : Nat} {position : UInt32} {members : List UniformMember}
  {declared : List Declaration} {name : String}

theorem blockEnd_eq_ok {member : UniformMember} {ending : UInt32}
    (h : blockEnd member = .ok ending) : ending = memberEnd member := by
  simp only [blockEnd, bind_eq_ok, checkedWord_eq_ok_iff] at h
  obtain ⟨size, hsize, hending⟩ := h
  have hlt := ending.toNat_lt
  rw [memberEnd, hsize]
  show ending = member.offset + size
  rw [← UInt32.toNat_inj, UInt32.toNat_add]
  omega

theorem names_blockMembers (h : blockMembers buffer index position members = .ok declared) :
    declared.map (·.name) = paddedNames index position members := by
  induction members generalizing index position declared with
  | nil =>
    cases h
    rfl
  | cons member rest ih =>
    rw [blockMembers] at h
    split at h
    · cases h
    · obtain ⟨value, hvalue, h⟩ := bind_eq_ok.mp h
      have hname : value.name = member.name := by
        obtain ⟨type, -, hpure⟩ := bind_eq_ok.mp hvalue
        cases hpure
        rfl
      cases hend : blockEnd member with
      | error fault =>
        rw [hend] at h
        cases h
      | ok ending =>
        simp only [hend, bind_eq_ok, pure_eq_ok] at h
        obtain ⟨following, hfollowing, rfl⟩ := h
        rw [paddedNames, ← blockEnd_eq_ok hend, ← ih hfollowing, List.map_append, List.map_cons,
          hname, padding, List.map_map]
        rfl

/-- The names in a block are those of the members and those of the floats that fit. -/
theorem mem_paddedNames : name ∈ paddedNames index position members ↔
    name ∈ members.map (·.name) ∨ ∃ gap bytes pad, (gaps position members)[gap]? = some bytes ∧
      pad < (bytes / 4).toNat ∧ name = padName (index + gap) pad := by
  induction members generalizing index position with
  | nil => simp [paddedNames, gaps]
  | cons member rest ih =>
    rw [paddedNames, List.mem_append, List.mem_cons, ih, List.map_cons, List.mem_cons]
    constructor
    · rintro (hpad | rfl | hrest | ⟨gap, bytes, pad, hgap, hfits, rfl⟩)
      · obtain ⟨pad, hfits, rfl⟩ := List.mem_map.mp hpad
        exact .inr ⟨0, _, pad, rfl, List.mem_range.mp hfits, rfl⟩
      · exact .inl (.inl rfl)
      · exact .inl (.inr hrest)
      · refine .inr ⟨gap + 1, bytes, pad, hgap, hfits, ?_⟩
        rw [Nat.add_right_comm, Nat.add_assoc]
    · rintro ((rfl | hrest) | ⟨gap, bytes, pad, hgap, hfits, rfl⟩)
      · exact .inr (.inl rfl)
      · exact .inr (.inr (.inl hrest))
      · cases gap with
        | zero =>
          obtain rfl : member.offset - position = bytes := Option.some.inj hgap
          exact .inl (List.mem_map.mpr ⟨pad, List.mem_range.mpr hfits, rfl⟩)
        | succ gap =>
          refine .inr (.inr (.inr ⟨gap, bytes, pad, hgap, hfits, ?_⟩))
          rw [Nat.add_right_comm, Nat.add_assoc]

/-! ## Names of floats -/

theorem toList_padName (index pad : Nat) : (padName index pad).toList =
    "_pad".toList ++ (Nat.toDigits 10 index ++ '_' :: Nat.toDigits 10 pad) := by
  have htext : padName index pad = "_pad" ++ (index.repr ++ ("_" ++ pad.repr)) := by
    simp only [← String.append_assoc]
    rfl
  rw [htext, String.toList_append, String.toList_append, String.toList_append, Nat.toList_repr,
    Nat.toList_repr]
  rfl

theorem toDigits_inj {first second : Nat} (h : Nat.toDigits 10 first = Nat.toDigits 10 second) :
    first = second := by
  have hvalues := congrArg (Nat.ofDigitChars 10 · 0) h
  simpa only [Nat.ofDigitChars_ten_toDigits] using hvalues

/-- Both numbers can be read off a name, since no digit is an underscore. -/
theorem padName_inj {first second pad other : Nat} (h : padName first pad = padName second other) :
    first = second ∧ pad = other := by
  have hunderscore : ∀ n, '_' ∉ Nat.toDigits 10 n := by
    intro n hmem
    have hdigit := Nat.isDigit_of_mem_toDigits (by decide) (by decide) hmem
    exact absurd hdigit (by decide)
  have hlists := congrArg String.toList h
  rw [toList_padName, toList_padName, List.append_cancel_left_eq] at hlists
  have hcut := Text.cutAt?_append (hunderscore first) (Nat.toDigits 10 pad)
  rw [hlists, Text.cutAt?_append (hunderscore second), Option.some.injEq, Prod.mk.injEq] at hcut
  exact ⟨toDigits_inj hcut.1.symm, toDigits_inj hcut.2.symm⟩

/-- A name that could be that of a float. -/
def IsReserved (name : String) : Prop :=
  "_pad".toList <+: name.toList
  deriving Decidable

theorem isReserved_padName (index pad : Nat) : IsReserved (padName index pad) := by
  rw [IsReserved, toList_padName]
  exact List.prefix_append ..

/-- Inside a block names are distinct, since members are counted. -/
theorem nodup_paddedNames (hnodup : (members.map (·.name)).Nodup)
    (hreserved : ∀ member ∈ members, ¬IsReserved member.name) :
    (paddedNames index position members).Nodup := by
  induction members generalizing index position with
  | nil => exact List.nodup_nil
  | cons member rest ih =>
    rw [List.map_cons, List.nodup_cons] at hnodup
    have hnotPad : ∀ gap pad, member.name ≠ padName gap pad := fun gap pad hname =>
      hreserved member List.mem_cons_self (hname ▸ isReserved_padName gap pad)
    have hinjective : Function.Injective (padName index) := fun _ _ hsame => (padName_inj hsame).2
    rw [paddedNames, List.nodup_append, List.nodup_cons]
    refine ⟨List.nodup_range.map hinjective, ⟨?_, ?_⟩, ?_⟩
    · intro hmem
      rcases mem_paddedNames.mp hmem with hrest | ⟨gap, _, pad, -, -, hname⟩
      · exact hnodup.1 hrest
      · exact hnotPad _ pad hname
    · exact ih hnodup.2 fun m hm => hreserved m (List.mem_cons_of_mem member hm)
    · intro first hfirst second hsecond hsame
      obtain ⟨pad, -, rfl⟩ := List.mem_map.mp hfirst
      subst hsame
      rcases List.mem_cons.mp hsecond with hname | hlater
      · exact hnotPad index pad hname.symm
      · rcases mem_paddedNames.mp hlater with hrest | ⟨gap, _, other, -, -, hname⟩
        · obtain ⟨m, hm, hname⟩ := List.mem_map.mp hrest
          refine hreserved m (List.mem_cons_of_mem member hm) ?_
          rw [hname]
          exact isReserved_padName index pad
        · have hindex := (padName_inj hname).1
          omega

/-! ## Two blocks -/

/-- The names in the block of a buffer. -/
def blockNames (buffer : UniformBuffer) : List String :=
  paddedNames 0 0 buffer.members

/-- A float fits into four bytes. -/
theorem four_le_iff (bytes : UInt32) : 4 ≤ bytes ↔ 0 < (bytes / 4).toNat := by
  have hquarter : (bytes / 4).toNat = bytes.toNat / 4 := UInt32.toNat_div ..
  rw [hquarter, UInt32.le_iff_toNat_le]
  show 4 ≤ bytes.toNat ↔ 0 < bytes.toNat / 4
  omega

theorem padName_mem_of_hasGap {buffer : UniformBuffer} (h : HasGap buffer index) :
    padName index 0 ∈ blockNames buffer := by
  obtain ⟨bytes, hgap, hroom⟩ := h
  refine mem_paddedNames.mpr (.inr ⟨index, bytes, 0, hgap, ?_, by rw [Nat.zero_add]⟩)
  exact (four_le_iff bytes).mp hroom

section Block

variable {buffer : UniformBuffer} (hreserved : ∀ member ∈ buffer.members, ¬IsReserved member.name)

include hreserved

theorem hasGap_of_padName_mem {pad : Nat} (h : padName index pad ∈ blockNames buffer) :
    HasGap buffer index := by
  rcases mem_paddedNames.mp h with hmember | ⟨gap, bytes, _, hgap, hfits, hname⟩
  · obtain ⟨member, hmember, hname⟩ := List.mem_map.mp hmember
    exact absurd (hname ▸ isReserved_padName index pad) (hreserved member hmember)
  · obtain ⟨rfl, rfl⟩ := padName_inj hname
    refine ⟨bytes, by rwa [Nat.zero_add], (four_le_iff bytes).mpr ?_⟩
    omega

/-- Reserved names belong to floats, and all others to members. -/
theorem mem_blockNames_cases (h : name ∈ blockNames buffer) :
    (¬IsReserved name ∧ name ∈ buffer.members.map (·.name)) ∨
      ∃ index pad, name = padName index pad := by
  rcases mem_paddedNames.mp h with hmember | ⟨gap, _, pad, -, -, hname⟩
  · obtain ⟨member, hmem, rfl⟩ := List.mem_map.mp hmember
    exact .inl ⟨hreserved member hmem, hmember⟩
  · exact .inr ⟨0 + gap, pad, hname⟩

end Block

/-- Blocks whose members have different names share a name if both have a gap before the member of
the same number. -/
theorem disjoint_blockNames_iff {first second : UniformBuffer}
    (hfirst : ∀ member ∈ first.members, ¬IsReserved member.name)
    (hsecond : ∀ member ∈ second.members, ¬IsReserved member.name)
    (hnames : List.Disjoint (first.members.map (·.name)) (second.members.map (·.name))) :
    List.Disjoint (blockNames first) (blockNames second) ↔
      ∀ index, ¬(HasGap first index ∧ HasGap second index) := by
  constructor
  · rintro hdisjoint index ⟨hgapFirst, hgapSecond⟩
    exact hdisjoint (padName_mem_of_hasGap hgapFirst) (padName_mem_of_hasGap hgapSecond)
  · intro hapart text hmemFirst hmemSecond
    rcases mem_blockNames_cases hfirst hmemFirst with ⟨hfree, hmember⟩ | ⟨index, pad, rfl⟩
    · rcases mem_blockNames_cases hsecond hmemSecond with ⟨-, hother⟩ | ⟨index, pad, rfl⟩
      · exact hnames hmember hother
      · exact hfree (isReserved_padName index pad)
    · exact hapart index
        ⟨hasGap_of_padName_mem hfirst hmemFirst, hasGap_of_padName_mem hsecond hmemSecond⟩

/-! ## Whole texts -/

/-- None of the items is a uniform block. -/
def NoUniforms (items : List Item) : Prop :=
  ∀ item ∈ items, item.uniformNames = []

theorem flatMap_of_noUniforms {items : List Item} (h : NoUniforms items) :
    items.flatMap Item.uniformNames = [] :=
  List.flatMap_eq_nil_iff.mpr h

theorem noUniforms_flatten {α : Type} {declare : α → Except ShaderError (List Item)}
    (hdeclare : ∀ a items, declare a = .ok items → NoUniforms items) {list : List α}
    {results : List (List Item)} (h : list.mapM declare = .ok results) :
    NoUniforms results.flatten := by
  intro item hitem
  obtain ⟨items, hitems, hmem⟩ := List.mem_flatten.mp hitem
  obtain ⟨a, -, hresult⟩ := exists_eq_ok_of_mem_mapM h hitems
  exact hdeclare a items hresult item hmem

theorem noUniforms_of_mapM {α : Type} {declare : α → Except ShaderError Item}
    (hdeclare : ∀ a item, declare a = .ok item → item.uniformNames = []) {list : List α}
    {results : List Item} (h : list.mapM declare = .ok results) : NoUniforms results := by
  intro item hitem
  obtain ⟨a, -, hresult⟩ := exists_eq_ok_of_mem_mapM h hitem
  exact hdeclare a item hresult

theorem noUniforms_declareStructure (s : Structure) (items : List Item)
    (h : declareStructure s = .ok items) : NoUniforms items := by
  obtain ⟨members, -, hpure⟩ := bind_eq_ok.mp h
  cases hpure
  intro item hitem
  simp only [List.mem_cons, List.not_mem_nil, or_false] at hitem
  rcases hitem with rfl | rfl <;> rfl

/-- A block of elements of any number has another layout. -/
theorem uniformNames_declareStorage {access : String} {binding : UInt32} {view : ViewBinding}
    {item : Item} (h : declareStorage access binding view = .ok item) : item.uniformNames = [] := by
  obtain ⟨type, -, hpure⟩ := bind_eq_ok.mp h
  cases hpure
  refine if_neg ?_
  simp only [String.toList_append, List.append_assoc]
  show ¬"layout(std140".toList <+: "layout(std430, set = 0, binding = ".toList ++ _
  simp [List.cons_prefix_cons]

theorem uniformNames_declareReadView (view : ViewBinding) (item : Item)
    (h : declareReadView view = .ok item) : item.uniformNames = [] := by
  unfold declareReadView at h
  dsimp only at h
  split at h
  · exact uniformNames_declareStorage h
  · split at h
    · cases h
    · cases h
      rfl

theorem uniformNames_declareWriteView (view : ViewBinding) (item : Item)
    (h : declareWriteView view = .ok item) : item.uniformNames = [] := by
  unfold declareWriteView at h
  dsimp only at h
  split at h
  · exact uniformNames_declareStorage h
  · split at h
    · cases h
    · cases h
    · cases h
      rfl

theorem noUniforms_samplePair {shader : Shader} (pair : FixedSampling) (items : List Item)
    (h : samplePair shader pair = .ok items) : NoUniforms items := by
  unfold samplePair at h
  split at h
  · cases h
    exact nofun
  · split at h
    · cases h
    · cases h
      intro item hitem
      simp only [samplingMacros, macroOf, List.mem_cons, List.not_mem_nil, or_false] at hitem
      rcases hitem with rfl | rfl <;> rfl

theorem noUniforms_interface (interface : StageInterface) : NoUniforms interface.items := by
  have hstruct : ∀ s : Option InterfaceStruct, NoUniforms (InterfaceStruct.items s) := by
    intro s item hitem
    cases s with
    | none => cases hitem
    | some s =>
      simp only [InterfaceStruct.items, List.mem_cons, List.not_mem_nil, or_false] at hitem
      rcases hitem with rfl | rfl <;> rfl
  intro item hitem
  simp only [StageInterface.items, List.mem_append, List.mem_singleton, List.mem_map] at hitem
  rcases hitem with ((hinput | houtput) | ⟨declared, -, rfl⟩) | rfl
  · exact hstruct _ item hinput
  · exact hstruct _ item houtput
  · rfl
  · rfl

theorem noUniforms_threadGroup {shader : Shader} {items : List Item}
    (h : threadGroup shader = .ok items) : NoUniforms items := by
  unfold threadGroup at h
  split at h
  · obtain ⟨group, -, hpure⟩ := bind_eq_ok.mp h
    cases hpure
    intro item hitem
    simp only [List.mem_cons, List.not_mem_nil, or_false] at hitem
    rcases hitem with rfl | rfl <;> rfl
  · cases h
    exact nofun

theorem uniformNames_declareBlock (buffer : UniformBuffer) (items : List Item)
    (h : declareBlock buffer = .ok items) :
    items.flatMap Item.uniformNames = blockNames buffer := by
  obtain ⟨members, hmembers, hpure⟩ := bind_eq_ok.mp h
  cases hpure
  have hstart : "layout(std140".toList <+: "layout(std140, set = 0, binding = ".toList := by decide
  have hheader : "layout(std140".toList <+: (s!"layout(std140, set = 0, binding = {
      bindingBase .uniformBuffer + buffer.slot}) uniform {buffer.name}").toList := by
    simp only [String.toList_append, List.append_assoc]
    exact hstart.trans (List.prefix_append ..)
  rw [blockNames, ← names_blockMembers hmembers, List.flatMap_cons, Item.uniformNames,
    if_pos hheader]
  exact List.append_nil _

theorem uniformNames_resources {shader : Shader} {items : List Item}
    (h : resources shader = .ok items) :
    items.flatMap Item.uniformNames = shader.uniformBuffers.flatMap blockNames := by
  obtain ⟨structures, blocks, readViews, writeViews, sampling, hstructures, hblocks, hreadViews,
    hwriteViews, hsampling, rfl⟩ := resources_eq_ok_iff.mp h
  have hglobal : NoUniforms (globalItems shader) := by
    intro item hitem
    simp only [globalItems, List.mem_append, List.mem_map, List.mem_singleton] at hitem
    rcases hitem with ⟨line, -, rfl⟩ | rfl <;> rfl
  have hsamplers : NoUniforms (shader.samplers.map declareSampler) := by
    intro item hitem
    obtain ⟨sampler, -, rfl⟩ := List.mem_map.mp hitem
    rfl
  have hblockNames : blocks.flatten.flatMap Item.uniformNames =
      shader.uniformBuffers.flatMap blockNames := by
    rw [← List.flatMap_id, List.flatMap_assoc, List.flatMap_def, List.flatMap_def,
      ← map_eq_map_of_mapM_eq_ok uniformNames_declareBlock hblocks]
    rfl
  have hblank : [Item.blank].flatMap Item.uniformNames = [] := rfl
  simp only [List.flatMap_append, flatMap_of_noUniforms hglobal,
    flatMap_of_noUniforms (noUniforms_flatten noUniforms_declareStructure hstructures),
    hblockNames, flatMap_of_noUniforms hsamplers,
    flatMap_of_noUniforms (noUniforms_of_mapM uniformNames_declareReadView hreadViews),
    flatMap_of_noUniforms (noUniforms_of_mapM uniformNames_declareWriteView hwriteViews),
    flatMap_of_noUniforms (noUniforms_flatten noUniforms_samplePair hsampling), hblank,
    List.nil_append, List.append_nil]

/-- The uniform blocks of a source text are those of the buffers of its shader. -/
theorem uniformNames_source {version : Version} {shader : Shader} {text : Source}
    (h : source version shader = .ok text) :
    text.uniformNames = shader.uniformBuffers.flatMap blockNames := by
  obtain ⟨resourceItems, interface, group, hresources, -, hgroup, rfl⟩ := parts_of_source h
  have hopening : ∀ version comment : String,
      [Item.verbatim version, .comment comment, .blank].flatMap Item.uniformNames = [] :=
    fun _ _ => rfl
  have hprelude : prelude_.flatMap Item.uniformNames = [] := rfl
  have hmacros : ∀ input output : String, [macroOf "INPUT" ["x"] input,
      macroOf "OUTPUT" ["x"] output, .blank].flatMap Item.uniformNames = [] := fun _ _ => rfl
  have hmain : ∀ main : Function, [Item.function main].flatMap Item.uniformNames = [] :=
    fun _ => rfl
  rw [uniformNames_ofItems]
  simp only [List.flatMap_append, hopening, hprelude, uniformNames_resources hresources,
    flatMap_of_noUniforms (noUniforms_interface interface), hmacros,
    flatMap_of_noUniforms (noUniforms_threadGroup hgroup), hmain, List.nil_append, List.append_nil]

/-! ## Distinct names -/

/-- The names of the members of all uniform buffers. -/
def memberNames (shader : Shader) : List String :=
  shader.uniformBuffers.flatMap fun buffer => buffer.members.map (·.name)

/-- When the members of all uniform buffers have distinct names, of which none is reserved, the
names in the uniform blocks of the source text are distinct if and only if no two buffers have a gap
before the members of one number. -/
theorem nodup_uniformNames_iff {version : Version} {shader : Shader} {text : Source}
    (hnames : (memberNames shader).Nodup) (hreserved : ∀ name ∈ memberNames shader,
      ¬IsReserved name) (htext : source version shader = .ok text) :
    text.uniformNames.Nodup ↔ shader.uniformBuffers.Pairwise fun first second =>
      ∀ index, ¬(HasGap first index ∧ HasGap second index) := by
  obtain ⟨hinside, hbetween⟩ := List.nodup_flatMap.mp hnames
  have hfree : ∀ buffer ∈ shader.uniformBuffers, ∀ member ∈ buffer.members,
      ¬IsReserved member.name := by
    intro buffer hbuffer member hmember
    exact hreserved _ (List.mem_flatMap.mpr ⟨buffer, hbuffer, List.mem_map_of_mem hmember⟩)
  have hblocks : ∀ buffer ∈ shader.uniformBuffers, (blockNames buffer).Nodup :=
    fun buffer hbuffer => nodup_paddedNames (hinside buffer hbuffer) (hfree buffer hbuffer)
  rw [uniformNames_source htext, List.nodup_flatMap, and_iff_right hblocks]
  have hpairs : ∀ {first second}, first ∈ shader.uniformBuffers → second ∈ shader.uniformBuffers →
      Function.onFun List.Disjoint (fun buffer => buffer.members.map (·.name)) first second →
      (Function.onFun List.Disjoint blockNames first second ↔
        ∀ index, ¬(HasGap first index ∧ HasGap second index)) := by
    intro first second hfirst hsecond hdisjoint
    exact disjoint_blockNames_iff (hfree first hfirst) (hfree second hsecond) hdisjoint
  constructor
  · intro hdisjoint
    exact (hbetween.and hdisjoint).imp_of_mem fun hfirst hsecond h =>
      (hpairs hfirst hsecond h.1).mp h.2
  · intro hapart
    exact (hbetween.and hapart).imp_of_mem fun hfirst hsecond h =>
      (hpairs hfirst hsecond h.1).mpr h.2

/-- A vertex shader with two uniform buffers; the second has a member in a register of its own for
every name. -/
def viewing (names : List String) : Shader where
  name := "View"
  stage := .vertex
  uniformBuffers := [⟨"Camera", 0, [⟨.scalar .float, "near", 0⟩, ⟨.scalar .float, "far", 16⟩]⟩,
    ⟨"Light", 1, names.zipIdx.map fun (name, register) =>
      ⟨.scalar .float, name, .ofNat (16 * register)⟩⟩]

theorem nodup_uniformNames_viewing : ∃ text,
    source .v450 (viewing ["power"]) = .ok text ∧ text.uniformNames.Nodup := by
  have htext : (source .v450 (viewing ["power"])).isOk = true := by decide +kernel
  obtain ⟨text, htext⟩ := exists_of_isOk htext
  refine ⟨text, htext, (nodup_uniformNames_iff (by decide) (by decide) htext).mpr ?_⟩
  have hlight : ∀ index, ¬HasGap ⟨"Light", 1, [⟨.scalar .float, "power", 0⟩]⟩ index := by
    rintro index ⟨bytes, hgap, hroom⟩
    cases index with
    | zero =>
      cases hgap
      exact absurd hroom (by decide)
    | succ index => cases hgap
  exact List.pairwise_pair.mpr fun index h => hlight index h.2

/-- With two members in each of two buffers, the floats before the second have the same names. -/
theorem uniformNames_viewing_clash : ∃ text,
    Shader.build "View" .vertex (viewing ["power", "range"]).additions =
        .ok (viewing ["power", "range"]) ∧
      (memberNames (viewing ["power", "range"])).Nodup ∧
      (∀ name ∈ memberNames (viewing ["power", "range"]), ¬IsReserved name) ∧
      source .v450 (viewing ["power", "range"]) = .ok text ∧
      text.uniformNames = ["near", "_pad1_0", "_pad1_1", "_pad1_2", "far",
        "power", "_pad1_0", "_pad1_1", "_pad1_2", "range"] ∧
      ¬text.uniformNames.Nodup := by
  have hbuild : Shader.build "View" .vertex (viewing ["power", "range"]).additions =
      .ok (viewing ["power", "range"]) := by
    decide +kernel
  refine ⟨_, hbuild, by decide, by decide, rfl, by decide +kernel, by decide +kernel⟩

end OpenGL

end CrossShade
