import CrossShade.Proofs.OpenGL.Document
import CrossShade.Proofs.Shader.Building
import CrossShade.Proofs.Text.Plain
import CrossShade.Pipeline

/-!
# Bindings in GLSL texts

The numbers that a source text gives to blocks, samplers, textures and images.

* `bindingIn?` reads a number off a line and `Source.bindings` those of a whole text.
* `bindings_source` says which numbers a text has: those of the slots, category by category.
* `nodup_bindings_iff` is what follows.  Read views have more slots than there are numbers between
  their base and the base of write views, and that is the only way in which two numbers can meet.
-/

namespace CrossShade

/-! ## Reading numbers -/

namespace Source

/-- What stands before a binding in a line. -/
def bindingMark : List Char :=
  "binding = ".toList

/-- The number after the first mark of a line. -/
def bindingIn? : List Char → Option Nat
  | [] => none
  | c :: rest =>
    match Text.afterStart? bindingMark (c :: rest) with
    | some number => some (Text.digitsValue (number.takeWhile Char.isDigit))
    | none => bindingIn? rest

/-- The binding that an item names: a block in its header, a global in its qualifiers. -/
def Item.binding? : Item → Option Nat
  | .block _ header _ => bindingIn? header.toList
  | .global declaration => declaration.qualifiers.findSome? fun text => bindingIn? text.toList
  | _ => none

/-- All bindings that a text names, in order. -/
def bindings (source : Source) : List Nat :=
  source.items.filterMap Item.binding?

theorem bindingMark_eq : bindingMark = 'b' :: bindingMark.tail :=
  rfl

/-- A part without the first letter of the mark is passed over. -/
theorem bindingIn?_append {before : List Char} (h : 'b' ∉ before) (text : List Char) :
    bindingIn? (before ++ text) = bindingIn? text := by
  induction before with
  | nil => rfl
  | cons c rest ih =>
    have hfirst : 'b' ≠ c := fun hc => h (hc ▸ List.mem_cons_self)
    have hnone : Text.afterStart? bindingMark (c :: (rest ++ text)) = none := by
      rw [bindingMark_eq, Text.afterStart?, if_neg hfirst]
    rw [List.cons_append, bindingIn?, hnone]
    exact ih fun hmem => h (List.mem_cons_of_mem _ hmem)

theorem bindingIn?_eq_none {text : List Char} (h : 'b' ∉ text) : bindingIn? text = none := by
  rw [← List.append_nil text, bindingIn?_append h]
  rfl

theorem bindingIn?_mark (number : List Char) : bindingIn? (bindingMark ++ number) =
    some (Text.digitsValue (number.takeWhile Char.isDigit)) := by
  have hcons : bindingMark ++ number = 'b' :: (bindingMark.tail ++ number) := by
    rw [← List.cons_append, ← bindingMark_eq]
  rw [hcons, bindingIn?, ← hcons, Text.afterStart?_append]

/-- The number that was written after the mark is read. -/
theorem bindingIn?_eq_some {text start after : String} (before : String) {n : UInt32}
    (htext : text = start ++ toString n ++ after) (hstart : start = before ++ "binding = ")
    (hbefore : 'b' ∉ before.toList) (hafter : after.toList.head?.any Char.isDigit = false) :
    bindingIn? text.toList = some n.toNat := by
  have hdigits : ∀ c ∈ (toString n).toList, c.isDigit = true := by
    rw [Text.toList_toString_uint32]
    exact fun c hc => Nat.isDigit_of_mem_toDigits (by decide) (by decide) hc
  have hvalue : Text.digitsValue (toString n).toList = n.toNat := by
    rw [Text.toList_toString_uint32, Text.digitsValue_eq_ofDigitChars,
      Nat.ofDigitChars_ten_toDigits]
  have hend : after.toList.takeWhile Char.isDigit = [] := by
    cases hlist : after.toList with
    | nil => rfl
    | cons c rest =>
      rw [hlist] at hafter
      exact List.takeWhile_cons_of_neg (by simpa using hafter)
  have hlist : text.toList =
      before.toList ++ (bindingMark ++ ((toString n).toList ++ after.toList)) := by
    rw [htext, hstart, String.toList_append, String.toList_append, String.toList_append,
      List.append_assoc, List.append_assoc]
    rfl
  rw [hlist, bindingIn?_append hbefore, bindingIn?_mark, List.takeWhile_append_of_pos hdigits, hend,
    List.append_nil, hvalue]

/-- A text names what its items name, and empty lines name nothing. -/
theorem bindings_ofItems (items : List Item) :
    (ofItems items).bindings = items.filterMap Item.binding? :=
  filterMap_items_ofItems rfl items

end Source

/-! ## What is declared -/

namespace OpenGL

open Source

/-- The binding of a slot. -/
def bindingOf (category : BindingCategory) (slot : UInt32) : Nat :=
  (bindingBase category + slot).toNat

theorem bindings_declareBlock {buffer : UniformBuffer} {items : List Item}
    (h : declareBlock buffer = .ok items) :
    items.filterMap Item.binding? = [bindingOf .uniformBuffer buffer.slot] := by
  simp only [declareBlock, bind_eq_ok, pure_eq_ok] at h
  obtain ⟨members, -, rfl⟩ := h
  have hheader : bindingIn? (s!"layout(std140, set = 0, binding = {bindingBase .uniformBuffer +
      buffer.slot}) uniform {buffer.name}").toList =
      some (bindingOf .uniformBuffer buffer.slot) :=
    bindingIn?_eq_some "layout(std140, set = 0, " (String.append_assoc ..) rfl (by simp)
      (by rw [String.toList_append]; rfl)
  simp only [List.filterMap_cons, Item.binding?, hheader, List.filterMap_nil]

theorem bindingIn?_bindingLayout (binding : UInt32) :
    bindingIn? (bindingLayout binding).toList = some binding.toNat :=
  bindingIn?_eq_some "layout(set = 0, " rfl rfl (by simp) rfl

theorem binding?_declareOpaque {layout : String} {binding : Nat}
    (h : bindingIn? layout.toList = some binding) (type name : String) :
    (declareOpaque layout type name).binding? = some binding := by
  rw [declareOpaque, Item.binding?, List.findSome?_cons, h]

theorem binding?_declareStorage {access : String} {binding : UInt32} {view : ViewBinding}
    {item : Item} (h : declareStorage access binding view = .ok item) :
    item.binding? = some binding.toNat := by
  simp only [declareStorage, bind_eq_ok, pure_eq_ok] at h
  obtain ⟨type, -, rfl⟩ := h
  have htext : s!"layout(std430, set = 0, binding = {binding}) {access}buffer {view.name}_Data" =
      "layout(std430, set = 0, binding = " ++ toString binding ++
        (") " ++ (access ++ ("buffer " ++ (view.name ++ "_Data")))) := by
    simp only [String.append_assoc]
    rfl
  exact bindingIn?_eq_some "layout(std430, set = 0, " htext rfl (by simp)
    (by rw [String.toList_append]; rfl)

theorem binding?_declareSampler (sampler : SamplerBinding) :
    (declareSampler sampler).binding? = some (bindingOf .sampler sampler.slot) :=
  binding?_declareOpaque (bindingIn?_bindingLayout _) ..

theorem binding?_declareReadView {view : ViewBinding} {item : Item}
    (h : declareReadView view = .ok item) :
    item.binding? = some (bindingOf .readView view.slot) := by
  unfold declareReadView at h
  dsimp only at h
  split at h
  · exact binding?_declareStorage h
  · split at h
    · cases h
    · cases h
      exact binding?_declareOpaque (bindingIn?_bindingLayout _) ..

theorem binding?_declareWriteView {view : ViewBinding} {item : Item}
    (h : declareWriteView view = .ok item) :
    item.binding? = some (bindingOf .writeView view.slot) := by
  unfold declareWriteView at h
  dsimp only at h
  split at h
  · exact binding?_declareStorage h
  · split at h
    · cases h
    · cases h
    · rename_i dimension format _ _
      cases h
      have htext : s!"layout(set = 0, binding = {bindingBase .writeView + view.slot}, {format})" =
          "layout(set = 0, binding = " ++ toString (bindingBase .writeView + view.slot) ++
            (", " ++ (format ++ ")")) := by
        simp only [String.append_assoc]
        rfl
      exact binding?_declareOpaque (bindingIn?_eq_some "layout(set = 0, " htext rfl (by simp)
        (by rw [String.toList_append]; rfl)) ..

/-! ## What names no binding -/

/-- Names nothing: neither of the items of a list is bound to a number. -/
def NamesNothing (items : List Item) : Prop :=
  ∀ item ∈ items, item.binding? = none

theorem filterMap_of_namesNothing {items : List Item} (h : NamesNothing items) :
    items.filterMap Item.binding? = [] :=
  List.filterMap_eq_nil_iff.mpr h

theorem namesNothing_globalItems (shader : Shader) : NamesNothing (globalItems shader) := by
  intro item hitem
  simp only [globalItems, List.mem_append, List.mem_map, List.mem_singleton] at hitem
  rcases hitem with ⟨line, -, rfl⟩ | rfl <;> rfl

theorem namesNothing_declareStructure {s : Structure} {items : List Item}
    (h : declareStructure s = .ok items) : NamesNothing items := by
  simp only [declareStructure, bind_eq_ok, pure_eq_ok] at h
  obtain ⟨members, -, rfl⟩ := h
  intro item hitem
  simp only [List.mem_cons, List.not_mem_nil, or_false] at hitem
  rcases hitem with rfl | rfl <;> rfl

theorem namesNothing_samplePair {shader : Shader} {pair : FixedSampling} {items : List Item}
    (h : samplePair shader pair = .ok items) : NamesNothing items := by
  unfold samplePair at h
  split at h
  · cases h
    exact nofun
  · split at h
    · cases h
    · cases h
      intro item hitem
      simp only [samplingMacros, macroOf, List.mem_cons, List.not_mem_nil, or_false] at hitem
      rcases hitem with rfl | rfl <;> rfl

theorem not_mem_toString (n : UInt32) : 'b' ∉ (toString n).toList := by
  rw [Text.toList_toString_uint32]
  intro hmem
  have hdigit := Nat.isDigit_of_mem_toDigits (by decide) (by decide) hmem
  exact absurd hdigit (by decide)

theorem not_mem_interpolationQualifier {v : Variable} {word : String}
    (h : interpolationQualifier? v = some word) : 'b' ∉ word.toList := by
  unfold interpolationQualifier? at h
  split at h
  · cases h
    simp
  · split at h <;> cases h <;> simp

/-- A location is no binding, and the words around it have no letter of the mark. -/
theorem binding?_declareGlobal {shader : Shader} {v : Variable} {type name direction : String}
    {location : UInt32} {isVarying : Bool} {declared : Declaration}
    (h : declareGlobal shader v type name location isVarying direction = .ok declared)
    (hdirection : 'b' ∉ direction.toList) : (Item.global declared).binding? = none := by
  simp only [declareGlobal, bind_eq_ok, pure_eq_ok] at h
  obtain ⟨length, -, rfl⟩ := h
  rw [Item.binding?, List.findSome?_eq_none_iff]
  intro text htext
  refine bindingIn?_eq_none ?_
  simp only [List.cons_append, List.mem_cons, List.mem_append, List.not_mem_nil, or_false] at htext
  rcases htext with rfl | hinterpolation | rfl
  · have hparts : (s!"layout(location = {location})").toList =
        "layout(location = ".toList ++ (toString location).toList ++ ")".toList := by
      rw [← String.toList_append, ← String.toList_append]
      rfl
    rw [hparts, List.mem_append, List.mem_append, not_or, not_or]
    exact ⟨⟨by simp, not_mem_toString location⟩, by simp⟩
  · cases isVarying with
    | false => cases hinterpolation
    | true => exact not_mem_interpolationQualifier (Option.mem_toList.mp hinterpolation)
  · exact hdirection

/-- What a transfer declares names nothing. -/
def Transfer.NamesNothing (transfer : Transfer) : Prop :=
  ∀ declared ∈ transfer.global?, (Item.global declared).binding? = none

theorem namesNothing_receive {shader : Shader} {v : Variable} {location : Option UInt32}
    {transfer : Transfer} (h : receive shader v location = .ok transfer) :
    transfer.NamesNothing := by
  obtain ⟨type, -, ⟨-, builtin, -, rfl⟩ | ⟨-, first, declared, -, hdeclared, rfl⟩⟩ :=
    receive_cases h
  · exact nofun
  · rintro _ ⟨⟩
    exact binding?_declareGlobal hdeclared (by simp)

theorem namesNothing_pass {shader : Shader} {v : Variable} {location : Option UInt32}
    {transfer : Transfer} (h : pass shader v location = .ok transfer) :
    transfer.NamesNothing := by
  obtain ⟨type, -, ⟨builtin, -, rfl⟩ | ⟨-, first, declared, -, hdeclared, rfl⟩⟩ := pass_cases h
  · exact nofun
  · rintro _ ⟨⟩
    exact binding?_declareGlobal hdeclared (by simp)

theorem namesNothing_interfaceStruct (s : Option InterfaceStruct) :
    NamesNothing (InterfaceStruct.items s) := by
  intro item hitem
  cases s with
  | none => cases hitem
  | some s =>
    simp only [InterfaceStruct.items, List.mem_cons, List.not_mem_nil, or_false] at hitem
    rcases hitem with rfl | rfl <;> rfl

theorem namesNothing_stageInterface {shader : Shader} {interface : StageInterface}
    (h : stageInterface shader = .ok interface) : NamesNothing interface.items := by
  simp only [stageInterface, transfers, bind_eq_ok, pure_eq_ok] at h
  obtain ⟨input, -, output, -, received, hreceived, passed, hpassed, rfl⟩ := h
  have hall : ∀ transfer ∈ received ++ passed, transfer.NamesNothing := by
    intro transfer htransfer
    rcases List.mem_append.mp htransfer with hmem | hmem
    · obtain ⟨_, -, hreceive⟩ := exists_eq_ok_of_mem_mapM hreceived hmem
      exact namesNothing_receive hreceive
    · obtain ⟨_, -, hpass⟩ := exists_eq_ok_of_mem_mapM hpassed hmem
      exact namesNothing_pass hpass
  intro item hitem
  simp only [StageInterface.items, List.mem_append, List.mem_singleton] at hitem
  rcases hitem with ((hinput | houtput) | hglobal) | rfl
  · exact namesNothing_interfaceStruct _ item hinput
  · exact namesNothing_interfaceStruct _ item houtput
  · obtain ⟨declared, hdeclared, rfl⟩ := List.mem_map.mp hglobal
    obtain ⟨transfer, htransfer, hglobal?⟩ := List.mem_filterMap.mp hdeclared
    exact hall transfer htransfer declared hglobal?
  · rfl

theorem namesNothing_threadGroup {shader : Shader} {items : List Item}
    (h : threadGroup shader = .ok items) : NamesNothing items := by
  unfold threadGroup at h
  split at h
  · obtain ⟨group, -, hpure⟩ := bind_eq_ok.mp h
    cases hpure
    intro item hitem
    simp only [List.mem_cons, List.not_mem_nil, or_false] at hitem
    rcases hitem with rfl | rfl <;> rfl
  · cases h
    exact nofun

/-! ## Whole texts -/

theorem namesNothing_flatten {α : Type} {declare : α → Except ShaderError (List Item)}
    (hdeclare : ∀ a items, declare a = .ok items → NamesNothing items) {list : List α}
    {results : List (List Item)} (h : list.mapM declare = .ok results) :
    NamesNothing results.flatten := by
  intro item hitem
  obtain ⟨items, hitems, hmem⟩ := List.mem_flatten.mp hitem
  obtain ⟨a, -, hresult⟩ := exists_eq_ok_of_mem_mapM h hitems
  exact hdeclare a items hresult item hmem

/-- What is declared one by one, names one by one what its elements are bound to. -/
theorem filterMap_of_mapM {α : Type} {declare : α → Except ShaderError Item} {number : α → Nat}
    (hdeclare : ∀ a item, declare a = .ok item → item.binding? = some (number a)) {list : List α}
    {results : List Item} (h : list.mapM declare = .ok results) :
    results.filterMap Item.binding? = list.map number := by
  rw [mapM_eq_ok_iff] at h
  induction h with
  | nil => rfl
  | cons hfirst _ ih => rw [List.filterMap_cons_some (hdeclare _ _ hfirst), List.map_cons, ih]

/-- The bindings of the slots of a category. -/
def slotBindings (shader : Shader) (category : BindingCategory) : List Nat :=
  (shader.bindings category).map fun binding => bindingOf category binding.2

theorem bindings_resources {shader : Shader} {items : List Item}
    (h : resources shader = .ok items) :
    items.filterMap Item.binding? = BindingCategory.all.flatMap (slotBindings shader) := by
  obtain ⟨structures, blocks, readViews, writeViews, sampling, hstructures, hblocks, hreadViews,
    hwriteViews, hsampling, rfl⟩ := resources_eq_ok_iff.mp h
  have hblockNumbers : blocks.flatten.filterMap Item.binding? =
      slotBindings shader .uniformBuffer := by
    rw [List.filterMap_flatten, map_eq_map_of_mapM_eq_ok (fun _ _ => bindings_declareBlock) hblocks,
      ← List.flatMap_def, ← List.map_eq_flatMap, slotBindings, Shader.bindings, List.map_map]
    rfl
  have hsamplerNumbers : (shader.samplers.map declareSampler).filterMap Item.binding? =
      slotBindings shader .sampler := by
    have hone : Item.binding? ∘ declareSampler =
        some ∘ fun sampler => bindingOf .sampler sampler.slot := funext binding?_declareSampler
    rw [List.filterMap_map, hone, List.filterMap_eq_map, slotBindings, Shader.bindings,
      List.map_map]
    rfl
  have hreadNumbers : readViews.filterMap Item.binding? = slotBindings shader .readView := by
    rw [filterMap_of_mapM (fun _ _ => binding?_declareReadView) hreadViews, slotBindings,
      Shader.bindings, List.map_map]
    rfl
  have hwriteNumbers : writeViews.filterMap Item.binding? = slotBindings shader .writeView := by
    rw [filterMap_of_mapM (fun _ _ => binding?_declareWriteView) hwriteViews, slotBindings,
      Shader.bindings, List.map_map]
    rfl
  have hglobal := filterMap_of_namesNothing (namesNothing_globalItems shader)
  have hstructureItems := filterMap_of_namesNothing
    (namesNothing_flatten (fun _ _ => namesNothing_declareStructure) hstructures)
  have hsamplingItems := filterMap_of_namesNothing
    (namesNothing_flatten (fun _ _ => namesNothing_samplePair) hsampling)
  have hblank : [Item.blank].filterMap Item.binding? = [] := rfl
  simp only [List.filterMap_append, hglobal, hstructureItems, hblockNumbers, hsamplerNumbers,
    hreadNumbers, hwriteNumbers, hblank, hsamplingItems, List.nil_append, List.append_nil,
    BindingCategory.all, List.flatMap_cons, List.flatMap_nil, List.append_assoc]

/-- A source text names the bindings of all slots of its shader and no others. -/
theorem bindings_source {version : Version} {shader : Shader} {text : Source}
    (h : source version shader = .ok text) :
    text.bindings = BindingCategory.all.flatMap (slotBindings shader) := by
  obtain ⟨resourceItems, interface, group, hresources, hinterface, hgroup, rfl⟩ :=
    parts_of_source h
  have hopening : ∀ version comment : String,
      [Item.verbatim version, .comment comment, .blank].filterMap Item.binding? = [] :=
    fun _ _ => rfl
  have hprelude : prelude_.filterMap Item.binding? = [] := rfl
  have hmacros : ∀ input output : String, [macroOf "INPUT" ["x"] input,
      macroOf "OUTPUT" ["x"] output, .blank].filterMap Item.binding? = [] := fun _ _ => rfl
  have hmain : ∀ main : Function, [Item.function main].filterMap Item.binding? = [] := fun _ => rfl
  have hinterfaceItems := filterMap_of_namesNothing (namesNothing_stageInterface hinterface)
  have hgroupItems := filterMap_of_namesNothing (namesNothing_threadGroup hgroup)
  rw [bindings_ofItems]
  simp only [List.filterMap_append, hopening, hprelude, bindings_resources hresources,
    hinterfaceItems, hmacros, hgroupItems, hmain, List.nil_append, List.append_nil]

/-! ## Distinct numbers -/

/-- Numbers of slots that fit are counted from the base of their category. -/
theorem mem_slotBindings {shader : Shader} {category : BindingCategory} {n : Nat}
    (hslots : ∀ binding ∈ shader.bindings category,
      binding.2.toNat < StageState.slotCount .pixel category) :
    n ∈ slotBindings shader category ↔ ∃ binding ∈ shader.bindings category,
      n = (bindingBase category).toNat + binding.2.toNat := by
  have hnumber : ∀ binding ∈ shader.bindings category, bindingOf category binding.2 =
      (bindingBase category).toNat + binding.2.toNat := by
    intro binding hbinding
    have hslot := hslots binding hbinding
    have hlimit : (bindingBase category).toNat + StageState.slotCount .pixel category <
        UInt32.size := by
      cases category <;> decide
    rw [bindingOf, UInt32.toNat_add, Nat.mod_eq_of_lt]
    exact Nat.lt_trans (Nat.add_lt_add_left hslot _) hlimit
  rw [slotBindings, List.mem_map]
  constructor
  · rintro ⟨binding, hbinding, rfl⟩
    exact ⟨binding, hbinding, hnumber binding hbinding⟩
  · rintro ⟨binding, hbinding, rfl⟩
    exact ⟨binding, hbinding, hnumber binding hbinding⟩

/-- Within a category numbers are as distinct as slots. -/
theorem nodup_slotBindings {shader : Shader} (h : shader.WellFormed) (category : BindingCategory) :
    (slotBindings shader category).Nodup := by
  have hinjective : Function.Injective (bindingOf category) := by
    intro first second hsame
    exact (UInt32.add_right_inj _).mp (UInt32.toNat_inj.mp hsame)
  have hslots := (h.bindingSlots category).map hinjective
  rwa [List.map_map] at hslots

/-- The numbers of two categories whose ranges are apart. -/
theorem disjoint_slotBindings {shader : Shader}
    (hslots : ∀ category, ∀ binding ∈ shader.bindings category,
      binding.2.toNat < StageState.slotCount .pixel category)
    {first second : BindingCategory}
    (hapart : (bindingBase first).toNat + StageState.slotCount .pixel first ≤
      (bindingBase second).toNat) :
    List.Disjoint (slotBindings shader first) (slotBindings shader second) := by
  intro n hfirst hsecond
  obtain ⟨binding, hbinding, hn⟩ := (mem_slotBindings (hslots first)).mp hfirst
  obtain ⟨other, -, hother⟩ := (mem_slotBindings (hslots second)).mp hsecond
  have hslot := hslots first binding hbinding
  omega

/-- Read views reach into the numbers of write views, and meet them where the slots are thirty-two
apart. -/
theorem disjoint_views_iff {shader : Shader}
    (hslots : ∀ category, ∀ binding ∈ shader.bindings category,
      binding.2.toNat < StageState.slotCount .pixel category) :
    List.Disjoint (slotBindings shader .readView) (slotBindings shader .writeView) ↔
      ∀ read ∈ shader.readViews, ∀ write ∈ shader.writeViews,
        read.slot.toNat ≠ write.slot.toNat + 32 := by
  constructor
  · intro hdisjoint read hread write hwrite hsame
    have hreadNumber : 32 + read.slot.toNat ∈ slotBindings shader .readView :=
      (mem_slotBindings (hslots .readView)).mpr
        ⟨(read.name, read.slot), List.mem_map_of_mem hread, rfl⟩
    have hwriteNumber : 64 + write.slot.toNat ∈ slotBindings shader .writeView :=
      (mem_slotBindings (hslots .writeView)).mpr
        ⟨(write.name, write.slot), List.mem_map_of_mem hwrite, rfl⟩
    have hmeet : 32 + read.slot.toNat = 64 + write.slot.toNat := by omega
    exact hdisjoint hreadNumber (hmeet ▸ hwriteNumber)
  · intro hapart n hreadNumber hwriteNumber
    obtain ⟨_, hbinding, hread⟩ := (mem_slotBindings (hslots .readView)).mp hreadNumber
    obtain ⟨read, hreadView, rfl⟩ := List.mem_map.mp hbinding
    obtain ⟨_, hother, hwrite⟩ := (mem_slotBindings (hslots .writeView)).mp hwriteNumber
    obtain ⟨write, hwriteView, rfl⟩ := List.mem_map.mp hother
    have hbases : (bindingBase .readView).toNat = 32 ∧ (bindingBase .writeView).toNat = 64 :=
      ⟨rfl, rfl⟩
    have hne := hapart read hreadView write hwriteView
    dsimp only at hread hwrite
    omega

/-- The bindings of the source text of an accepted shader, whose slots a context has, are distinct
if and only if no read view is thirty-two slots after a write view. -/
theorem nodup_bindings_iff {name : String} {stage : Stage} {additions : List Addition}
    {shader : Shader} {version : Version} {text : Source}
    (hbuild : Shader.build name stage additions = .ok shader)
    (hslots : ∀ category, ∀ binding ∈ shader.bindings category,
      binding.2.toNat < StageState.slotCount .pixel category)
    (htext : source version shader = .ok text) :
    text.bindings.Nodup ↔ ∀ read ∈ shader.readViews, ∀ write ∈ shader.writeViews,
      read.slot.toNat ≠ write.slot.toNat + 32 := by
  obtain ⟨hwell, rfl⟩ := Shader.accept_eq_ok_iff.mp hbuild
  rw [bindings_source htext, List.nodup_flatMap, ← disjoint_views_iff hslots]
  constructor
  · rintro ⟨-, hpairwise⟩
    simp only [BindingCategory.all, List.pairwise_cons] at hpairwise
    exact hpairwise.2.2.1 .writeView List.mem_cons_self
  · intro hviews
    refine ⟨fun category _ => nodup_slotBindings hwell category, ?_⟩
    have hapart : ∀ first second : BindingCategory, (bindingBase first).toNat +
        StageState.slotCount .pixel first ≤ (bindingBase second).toNat →
        Function.onFun List.Disjoint (slotBindings _) first second :=
      fun first second => disjoint_slotBindings hslots
    simp only [BindingCategory.all, List.pairwise_cons, List.mem_cons, List.not_mem_nil, or_false,
      forall_eq_or_imp, forall_eq, IsEmpty.forall_iff, implies_true, List.Pairwise.nil, and_true]
    exact ⟨⟨hapart _ _ (by decide), hapart _ _ (by decide), hapart _ _ (by decide)⟩,
      ⟨hapart _ _ (by decide), hapart _ _ (by decide)⟩, hviews⟩

/-- A pixel shader that reads one view and writes another. -/
def copying (read write : UInt32) : Shader where
  name := "Copy"
  stage := .pixel
  readViews := [⟨"from", read, .texture2D, .float4⟩]
  writeViews := [⟨"to", write, .texture2D, .float4⟩]

theorem nodup_bindings_iff_copying : ∃ text,
    Shader.build "Copy" .pixel (copying 31 0).additions = .ok (copying 31 0) ∧
      source .v450 (copying 31 0) = .ok text ∧ text.bindings.Nodup := by
  have hbuild : Shader.build "Copy" .pixel (copying 31 0).additions = .ok (copying 31 0) := by
    decide +kernel
  have hslots : ∀ category, ∀ binding ∈ (copying 31 0).bindings category,
      binding.2.toNat < StageState.slotCount .pixel category := by
    intro category
    cases category <;> decide
  exact ⟨_, hbuild, rfl, (nodup_bindings_iff hbuild hslots rfl).mpr (by decide)⟩

/-- In slots thirty-two and zero, which a context has, the two views get one number. -/
theorem bindings_copying_collide : ∃ text,
    Shader.build "Copy" .pixel (copying 32 0).additions = .ok (copying 32 0) ∧
      (∀ category, ∀ binding ∈ (copying 32 0).bindings category,
        binding.2.toNat < StageState.slotCount .pixel category) ∧
      source .v450 (copying 32 0) = .ok text ∧ text.bindings = [64, 64] ∧
      ¬text.bindings.Nodup := by
  have hbuild : Shader.build "Copy" .pixel (copying 32 0).additions = .ok (copying 32 0) := by
    decide +kernel
  refine ⟨_, hbuild, ?_, rfl, by decide +kernel, by decide +kernel⟩
  intro category
  cases category <;> decide

end OpenGL

end CrossShade
