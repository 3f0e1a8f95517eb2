import CrossShade.Proofs.ValueType.Bytes
import CrossShade.UniformBuffer

/-!
# Sizing structures

What the size of a type, of a row of members and of a structure depends on, and that more depth
changes no size.

* `ValueType.structure?` is the structure that a type mentions and `ValueType.sizedBy?` the one that
  has to be sized for it.
* `Extends` compares two ways to size structures, one of which may give up where the other goes on;
  `packedSize`, `packedEnd` and `Structure.sizeWith` respect it.
* `Structure.sizeWith_eq_endless_iff` finds the one member because of which sizing a structure never
  ends.
* `structureSizeWithin_extends` is the conclusion: a size that is settled at some depth is the size
  at every greater depth.
-/

namespace CrossShade

/-! ## Types -/

namespace ValueType

variable {sizeOf : String → Except Fault UInt32} {type : ValueType} {name : String}

/-- The structure that a type is made of, through arrays of any length. -/
def structure? : ValueType → Option String
  | array element _ => element.structure?
  | struct name => some name
  | scalar _ | vector _ _ | matrix _ _ _ => none

/-- The structure that has to be sized for a type.  An array of tessellation factors has no size,
whatever its elements are. -/
def sizedBy? : ValueType → Option String
  | array element (.fixed _) => element.sizedBy?
  | struct name => some name
  | array _ _ | scalar _ | vector _ _ | matrix _ _ _ => none

theorem structure?_of_sizedBy? (h : type.sizedBy? = some name) : type.structure? = some name := by
  induction type with
  | array element size ih =>
    cases size with
    | fixed length => exact ih h
    | outerFactors => simp [sizedBy?] at h
    | innerFactors => simp [sizedBy?] at h
  | struct other => exact h
  | _ => simp [sizedBy?] at h

/-- A type with a size is made of a structure with a size. -/
theorem size_of_packedSize {size : UInt32} (h : type.packedSize sizeOf = .ok size)
    (hname : type.structure? = some name) : ∃ inner, sizeOf name = .ok inner := by
  induction type generalizing size with
  | array element length ih =>
    cases length with
    | fixed count =>
      simp only [packedSize, bind_eq_ok] at h
      obtain ⟨inner, hinner, -⟩ := h
      exact ih hinner hname
    | outerFactors => simp [packedSize] at h
    | innerFactors => simp [packedSize] at h
  | struct other =>
    obtain rfl : other = name := by simpa [structure?] using hname
    exact ⟨size, h⟩
  | _ => simp [structure?] at hname

/-- Sizing a type goes on for ever if and only if sizing its structure does. -/
theorem packedSize_eq_endless_iff :
    type.packedSize sizeOf = .error .endlessStructure ↔
      ∃ name, type.sizedBy? = some name ∧ sizeOf name = .error .endlessStructure := by
  induction type with
  | array element length ih =>
    cases length with
    | fixed count =>
      rw [packedSize, sizedBy?, ← ih]
      simp [bind_eq_error_iff]
    | outerFactors => simp [packedSize, sizedBy?]
    | innerFactors => simp [packedSize, sizedBy?]
  | matrix base rows columns => simp [packedSize, sizedBy?, bind_eq_error_iff]
  | struct other => simp [packedSize, sizedBy?]
  | _ => simp [packedSize, sizedBy?]

end ValueType

/-! ## Giving up and going on -/

/-- Where one way to size things comes to a result, another comes to the same. -/
def Extends {α : Type} (first second : α → Except ValueType.Fault UInt32) : Prop :=
  ∀ x, first x ≠ .error .endlessStructure → second x = first x

variable {first second : String → Except ValueType.Fault UInt32}

theorem Extends.refl {α : Type} (sizeOf : α → Except ValueType.Fault UInt32) :
    Extends sizeOf sizeOf :=
  fun _ _ => rfl

theorem Extends.sizeFromInside (h : Extends first second) (name : String) :
    Extends (sizeFromInside name first) (sizeFromInside name second) := by
  intro other hsettled
  unfold CrossShade.sizeFromInside at hsettled ⊢
  split
  · rfl
  · rename_i hother
    rw [if_neg hother] at hsettled
    exact h other hsettled

theorem Extends.packedSize (h : Extends first second) :
    Extends (ValueType.packedSize first) (ValueType.packedSize second) := by
  intro type hsettled
  induction type with
  | array element length ih =>
    cases length with
    | fixed count =>
      have helement : element.packedSize first ≠ .error .endlessStructure := by
        intro hendless
        simp [ValueType.packedSize, hendless] at hsettled
      simp only [ValueType.packedSize, ih helement]
    | outerFactors => rfl
    | innerFactors => rfl
  | struct name => exact h name hsettled
  | _ => rfl

/-! ## Rows of members -/

section PackedEnd

variable {sizeOf : ValueType → Except ValueType.Fault UInt32} {offset last : UInt32}

/-- Behind a member that has an end, a row goes on. -/
theorem packedEnd_cons {type : ValueType} {more : List ValueType} {size ending next : UInt32}
    (hsize : sizeOf type = .ok size)
    (hending : checkedWord (offset.toNat + size.toNat) = .ok ending)
    (hnext : align16 ending = .ok next) :
    packedEnd sizeOf offset last (type :: more) = packedEnd sizeOf next ending more := by
  rw [packedEnd, hsize, ok_bind, hending, ok_bind, hnext, ok_bind]

/-- A row has an end if its first member has, and what follows has behind that. -/
theorem packedEnd_cons_eq_ok_iff {type : ValueType} {more : List ValueType} {result : UInt32} :
    packedEnd sizeOf offset last (type :: more) = .ok result ↔
      ∃ size ending next, sizeOf type = .ok size ∧
        ending.toNat = offset.toNat + size.toNat ∧ align16 ending = .ok next ∧
        packedEnd sizeOf next ending more = .ok result := by
  simp only [packedEnd, bind_eq_ok, checkedWord_eq_ok_iff]
  constructor
  · rintro ⟨size, hsize, ending, hending, next, hnext, hmore⟩
    exact ⟨size, ending, next, hsize, by omega, hnext, hmore⟩
  · rintro ⟨size, ending, next, hsize, hending, hnext, hmore⟩
    exact ⟨size, hsize, ending, by omega, next, hnext, hmore⟩

/-- A row that has an end has a size at every place. -/
theorem size_of_packedEnd {fields : List Field} {size : UInt32}
    (h : packedEnd sizeOf offset last (fields.map (·.type)) = .ok size) {field : Field}
    (hmem : field ∈ fields) : ∃ inner, sizeOf field.type = .ok inner := by
  induction fields generalizing offset last with
  | nil => simp at hmem
  | cons head rest ih =>
    obtain ⟨inner, ending, next, hinner, -, -, hrest⟩ := packedEnd_cons_eq_ok_iff.mp h
    rcases List.mem_cons.mp hmem with rfl | hmem
    · exact ⟨inner, hinner⟩
    · exact ih hrest hmem

/-- A row of things that have sizes or are beyond 32 bits has an end or is beyond 32 bits itself. -/
theorem packedEnd_cases {types : List ValueType}
    (h : ∀ type ∈ types, (∃ size, sizeOf type = .ok size) ∨ sizeOf type = .error .overflow) :
    (∃ ending, packedEnd sizeOf offset last types = .ok ending) ∨
      packedEnd sizeOf offset last types = .error .overflow := by
  induction types generalizing offset last with
  | nil => exact .inl ⟨last, rfl⟩
  | cons type more ih =>
    obtain ⟨htype, hmore⟩ := List.forall_mem_cons.mp h
    rw [packedEnd]
    refine bind_cases htype fun size _ => ?_
    refine bind_cases (checkedWord_cases (offset.toNat + size.toNat)) fun ending _ => ?_
    exact bind_cases (align16_cases ending) fun _ _ => ih hmore

/-- A row goes on for ever because of its first member or behind that. -/
theorem packedEnd_cons_eq_endless_iff {type : ValueType} {more : List ValueType} :
    packedEnd sizeOf offset last (type :: more) = .error .endlessStructure ↔
      sizeOf type = .error .endlessStructure ∨ ∃ size ending next, sizeOf type = .ok size ∧
        checkedWord (offset.toNat + size.toNat) = .ok ending ∧ align16 ending = .ok next ∧
        packedEnd sizeOf next ending more = .error .endlessStructure := by
  simp only [packedEnd, bind_eq_error_iff, checkedWord_ne_endless, align16_ne_endless, false_or,
    exists_and_left]

/-- A row goes on for ever if what is before some endless place can be packed or is endless too. -/
theorem packedEnd_eq_endless {before after : List ValueType} {type : ValueType}
    (hbefore : packedEnd sizeOf offset last before = .error .endlessStructure ∨
      ∃ ending, packedEnd sizeOf offset last before = .ok ending)
    (htype : sizeOf type = .error .endlessStructure) :
    packedEnd sizeOf offset last (before ++ type :: after) = .error .endlessStructure := by
  induction before generalizing offset last with
  | nil => exact packedEnd_cons_eq_endless_iff.mpr (.inl htype)
  | cons head rest ih =>
    rw [List.cons_append, packedEnd_cons_eq_endless_iff]
    rcases hbefore with hendless | ⟨result, hresult⟩
    · rcases packedEnd_cons_eq_endless_iff.mp hendless with
        hhead | ⟨size, ending, next, hsize, hending, hnext, hrest⟩
      · exact .inl hhead
      · exact .inr ⟨size, ending, next, hsize, hending, hnext, ih (.inl hrest)⟩
    · simp only [packedEnd, bind_eq_ok] at hresult
      obtain ⟨size, hsize, ending, hending, next, hnext, hrest⟩ := hresult
      exact .inr ⟨size, ending, next, hsize, hending, hnext, ih (.inr ⟨result, hrest⟩)⟩

/-- A row goes on for ever because of one place, and all before it can be packed. -/
theorem packedEnd_eq_endless_iff {fields : List Field} :
    packedEnd sizeOf offset last (fields.map (·.type)) = .error .endlessStructure ↔
      ∃ before field after, fields = before ++ field :: after ∧
        (∃ ending, packedEnd sizeOf offset last (before.map (·.type)) = .ok ending) ∧
        sizeOf field.type = .error .endlessStructure := by
  constructor
  · intro h
    induction fields generalizing offset last with
    | nil => cases h
    | cons head rest ih =>
      rcases packedEnd_cons_eq_endless_iff.mp h with
        hhead | ⟨size, ending, next, hsize, hending, hnext, hrest⟩
      · exact ⟨[], head, rest, rfl, ⟨last, rfl⟩, hhead⟩
      · obtain ⟨before, field, after, rfl, ⟨result, hresult⟩, hfield⟩ := ih hrest
        refine ⟨head :: before, field, after, rfl, ⟨result, ?_⟩, hfield⟩
        exact (packedEnd_cons hsize hending hnext).trans hresult
  · rintro ⟨before, field, after, rfl, hbefore, hfield⟩
    rw [List.map_append, List.map_cons]
    exact packedEnd_eq_endless (.inr hbefore) hfield

theorem packedEnd_of_extends {wider : ValueType → Except ValueType.Fault UInt32}
    (h : Extends sizeOf wider) {types : List ValueType}
    (hsettled : packedEnd sizeOf offset last types ≠ .error .endlessStructure) :
    packedEnd wider offset last types = packedEnd sizeOf offset last types := by
  induction types generalizing offset last with
  | nil => rfl
  | cons head rest ih =>
    rw [Ne, packedEnd_cons_eq_endless_iff, not_or] at hsettled
    obtain ⟨hhead, hrest⟩ := hsettled
    rw [packedEnd, packedEnd, h head hhead]
    refine bind_congr_of_ok fun size hsize => ?_
    refine bind_congr_of_ok fun ending hending => ?_
    refine bind_congr_of_ok fun next hnext => ?_
    exact ih fun hendless => hrest ⟨size, ending, next, hsize, hending, hnext, hendless⟩

end PackedEnd

/-! ## Structures -/

/-- Sizing a structure goes on to size another: it is needed for some member, and all members before
that one can be packed. -/
def Structure.Enters (sizeOf : String → Except ValueType.Fault UInt32) (structure_ : Structure)
    (name : String) : Prop :=
  ∃ before field after, structure_.members = before ++ field :: after ∧
    (∃ ending, packedEnd (ValueType.packedSize (sizeFromInside structure_.name sizeOf)) 0 0
      (before.map (·.type)) = .ok ending) ∧
    field.type.sizedBy? = some name ∧ name ≠ structure_.name

namespace Structure

variable {structure_ : Structure} {name : String}

/-- The size of a structure is the end of its members, if that can be settled. -/
theorem sizeWith_eq_ok_iff {size : UInt32} :
    structure_.sizeWith first = .ok size ↔
      packedEnd (ValueType.packedSize (sizeFromInside structure_.name first)) 0 0
        (structure_.members.map (·.type)) = .ok size := by
  unfold sizeWith
  split <;> simp_all

/-- With a fault that ends the program, it ends inside of the structure. -/
theorem sizeWith_eq_error_iff {fault : ValueType.Fault} (hfault : fault.isTold = false) :
    structure_.sizeWith first = .error fault ↔
      packedEnd (ValueType.packedSize (sizeFromInside structure_.name first)) 0 0
        (structure_.members.map (·.type)) = .error fault := by
  unfold sizeWith
  split
  · simp_all
  · rename_i other hother
    rw [hother, Except.error.injEq, Except.error.injEq]
    split
    · constructor
      · rintro rfl
        cases hfault
      · rintro rfl
        simp_all
    · exact Iff.rfl

theorem sizeFromInside_eq_endless_iff {sizeOf : String → Except ValueType.Fault UInt32}
    {inside : String} :
    sizeFromInside inside sizeOf name = .error .endlessStructure ↔
      name ≠ inside ∧ sizeOf name = .error .endlessStructure := by
  unfold sizeFromInside
  split <;> simp_all

/-- Sizing a structure never ends if and only if it goes on to one for which it never ends. -/
theorem sizeWith_eq_endless_iff :
    structure_.sizeWith first = .error .endlessStructure ↔
      ∃ name, structure_.Enters first name ∧ first name = .error .endlessStructure := by
  rw [sizeWith_eq_error_iff rfl, packedEnd_eq_endless_iff]
  constructor
  · rintro ⟨before, field, after, hmembers, hbefore, hfield⟩
    obtain ⟨name, hname, hinside⟩ := ValueType.packedSize_eq_endless_iff.mp hfield
    obtain ⟨hother, hendless⟩ := sizeFromInside_eq_endless_iff.mp hinside
    exact ⟨name, ⟨before, field, after, hmembers, hbefore, hname, hother⟩, hendless⟩
  · rintro ⟨name, ⟨before, field, after, hmembers, hbefore, hname, hother⟩, hendless⟩
    refine ⟨before, field, after, hmembers, hbefore, ?_⟩
    exact ValueType.packedSize_eq_endless_iff.mpr
      ⟨name, hname, sizeFromInside_eq_endless_iff.mpr ⟨hother, hendless⟩⟩

theorem sizeWith_of_extends (h : Extends first second)
    (hsettled : structure_.sizeWith first ≠ .error .endlessStructure) :
    structure_.sizeWith second = structure_.sizeWith first := by
  rw [Ne, sizeWith_eq_error_iff rfl] at hsettled
  have hends := packedEnd_of_extends (h.sizeFromInside structure_.name).packedSize hsettled
  simp only [sizeWith, hends]

/-- A way to size structures that goes further enters what the other enters. -/
theorem Enters.of_extends (h : Extends first second) (henters : structure_.Enters first name) :
    structure_.Enters second name := by
  obtain ⟨before, field, after, hmembers, ⟨ending, hending⟩, hname, hother⟩ := henters
  have hsame := packedEnd_of_extends (h.sizeFromInside structure_.name).packedSize
    (by rw [hending]; nofun)
  exact ⟨before, field, after, hmembers, ⟨ending, hsame.trans hending⟩, hname, hother⟩

end Structure

/-! ## Depth -/

variable {structures : List Structure} {name : String}

theorem structureSizeWithin_succ {found : Structure} (depth : Nat)
    (h : structures.find? (·.name == name) = some found) :
    structureSizeWithin structures (depth + 1) name =
      found.sizeWith (structureSizeWithin structures depth) := by
  rw [structureSizeWithin, h]

/-- Whatever the depth, what is not declared has no size. -/
theorem structureSizeWithin_of_find?_eq_none (depth : Nat)
    (h : structures.find? (·.name == name) = none) :
    structureSizeWithin structures depth name = .error (.unknownStructure name) := by
  cases depth <;> rw [structureSizeWithin, h]

theorem structureSizeWithin_zero {found : Structure}
    (h : structures.find? (·.name == name) = some found) :
    structureSizeWithin structures 0 name = .error .endlessStructure := by
  rw [structureSizeWithin, h]

/-- One more level changes no size that is settled.  The induction is on the depth. -/
private theorem structureSizeWithin_extends_succ (structures : List Structure) (depth : Nat) :
    Extends (structureSizeWithin structures depth)
      (structureSizeWithin structures (depth + 1)) := by
  induction depth with
  | zero =>
    intro name hsettled
    cases hfind : structures.find? (·.name == name) with
    | none => rw [structureSizeWithin_of_find?_eq_none _ hfind,
        structureSizeWithin_of_find?_eq_none _ hfind]
    | some found => exact absurd (structureSizeWithin_zero hfind) hsettled
  | succ depth ih =>
    intro name hsettled
    cases hfind : structures.find? (·.name == name) with
    | none => rw [structureSizeWithin_of_find?_eq_none _ hfind,
        structureSizeWithin_of_find?_eq_none _ hfind]
    | some found =>
      rw [structureSizeWithin_succ _ hfind] at hsettled
      rw [structureSizeWithin_succ _ hfind, structureSizeWithin_succ _ hfind]
      exact Structure.sizeWith_of_extends ih hsettled

/-- A size that is settled at some depth is the size at every greater depth. -/
theorem structureSizeWithin_extends (structures : List Structure) {depth deeper : Nat}
    (hle : depth ≤ deeper) :
    Extends (structureSizeWithin structures depth) (structureSizeWithin structures deeper) := by
  induction hle with
  | refl => exact Extends.refl _
  | @step deeper hle ih =>
    intro name hsettled
    have hsame := ih name hsettled
    rw [structureSizeWithin_extends_succ structures deeper name (by rwa [hsame]), hsame]

end CrossShade
