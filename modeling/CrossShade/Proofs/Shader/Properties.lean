import CrossShade.Shader
import Mathlib.Data.List.Sort
import Mathlib.Data.String.Basic

/-!
# Properties as a map

Properties are kept sorted by key, so they are determined by the values of their keys.

* `Sorted` is the invariant, kept by `set` and `erase`.
* `get?_set`, `get?_erase` and `get?_setAll` say what is found afterwards.
* `Sorted.ext` is the conclusion: sorted properties with the same values are the same.
-/

namespace CrossShade.Properties

variable {properties : Properties} {key other value : String}

/-- Every key stands before the ones that follow it. -/
def Sorted (properties : Properties) : Prop :=
  properties.Pairwise fun row later => row.1 < later.1

/-- Sets one key after the other. -/
def setAll (properties : Properties) (rows : List (String × String)) : Properties :=
  rows.foldl (fun all row => all.set row.1 row.2) properties

theorem sorted_nil : Sorted [] :=
  List.Pairwise.nil

/-- A key of the result is the new one or was there before. -/
theorem mem_set {row : String × String} (h : row ∈ properties.set key value) :
    row = (key, value) ∨ row ∈ properties := by
  induction properties with
  | nil => exact .inl (by simpa [set] using h)
  | cons head rest ih =>
    obtain ⟨k, v⟩ := head
    unfold set at h
    split at h
    · simpa using h
    · split at h
      · rcases List.mem_cons.mp h with hrow | hrest
        · exact .inl hrow
        · exact .inr (by simp [hrest])
      · rcases List.mem_cons.mp h with hrow | hrest
        · exact .inr (by simp [hrow])
        · rcases ih hrest with hrow | hrest
          · exact .inl hrow
          · exact .inr (by simp [hrest])

theorem Sorted.set (h : properties.Sorted) (key value : String) :
    (properties.set key value).Sorted := by
  induction properties with
  | nil => simp [Properties.set, Sorted]
  | cons head rest ih =>
    obtain ⟨k, v⟩ := head
    obtain ⟨hhead, hrest⟩ := List.pairwise_cons.mp h
    unfold Properties.set
    split
    · rename_i hlt
      refine List.pairwise_cons.mpr ⟨?_, h⟩
      intro row hrow
      rcases List.mem_cons.mp hrow with rfl | hrow
      · exact hlt
      · exact lt_trans hlt (hhead row hrow)
    · split
      · rename_i heq
        exact List.pairwise_cons.mpr ⟨fun row hrow => heq ▸ hhead row hrow, hrest⟩
      · rename_i hlt hne
        have hbefore : k < key := lt_of_le_of_ne (not_lt.mp hlt) (Ne.symm hne)
        refine List.pairwise_cons.mpr ⟨?_, ih hrest⟩
        intro row hrow
        rcases mem_set hrow with rfl | hrow
        · exact hbefore
        · exact hhead row hrow

theorem Sorted.setAll (h : properties.Sorted) (rows : List (String × String)) :
    (properties.setAll rows).Sorted := by
  induction rows generalizing properties with
  | nil => exact h
  | cons row rest ih => exact ih (h.set row.1 row.2)

theorem Sorted.erase (h : properties.Sorted) (key : String) : (properties.erase key).Sorted :=
  List.Pairwise.filter _ h

/-! ## Values -/

@[simp] theorem get?_cons (row : String × String) (rest : Properties) (key : String) :
    get? (row :: rest) key = if key = row.1 then some row.2 else get? rest key := by
  obtain ⟨k, v⟩ := row
  by_cases hkey : key = k
  · simp [get?, hkey]
  · have hne : (key == k) = false := by simpa using hkey
    simp [get?, List.lookup_cons, hkey, hne]

theorem get?_set : (properties.set key value).get? other =
    if other = key then some value else properties.get? other := by
  induction properties with
  | nil => simp [set]
  | cons head rest ih =>
    unfold set
    split
    · simp
    · split
      · rename_i hkey
        by_cases hother : other = key
        · simp [hother]
        · simp [hother, ← hkey]
      · rename_i hkey
        by_cases hother : other = key
        · simp [hother, hkey, get?_set_self]
        · simp [hother, ih]

theorem get?_erase : (properties.erase key).get? other =
    if other = key then none else properties.get? other := by
  induction properties with
  | nil => simp [erase]
  | cons head rest ih =>
    by_cases hhead : head.1 = key
    · have hsame : erase (head :: rest) key = erase rest key := by simp [erase, hhead]
      rw [hsame, ih, get?_cons]
      by_cases hother : other = key
      · simp [hother]
      · simp [hother, hhead]
    · have hsame : erase (head :: rest) key = head :: erase rest key := by simp [erase, hhead]
      rw [hsame, get?_cons, get?_cons, ih]
      by_cases hother : other = key
      · have hne : key ≠ head.1 := fun h => hhead h.symm
        simp [hother, hne]
      · simp [hother]

theorem get?_eq_none {rows : List (String × String)} (h : key ∉ rows.map (·.1)) :
    get? rows key = none := by
  simp only [get?, List.lookup_eq_none_iff]
  intro row hrow
  have hne : key ≠ row.1 := fun hsame => h (hsame ▸ List.mem_map_of_mem hrow)
  simpa using hne

/-- The rows that are set last count; with distinct keys the order does not matter. -/
theorem get?_setAll {rows : List (String × String)} (hdistinct : (rows.map (·.1)).Nodup) :
    (properties.setAll rows).get? key = (get? rows key).or (properties.get? key) := by
  induction rows generalizing properties with
  | nil => simp [setAll]
  | cons row rest ih =>
    obtain ⟨hfresh, hrest⟩ := List.nodup_cons.mp hdistinct
    have hstep : properties.setAll (row :: rest) = (properties.set row.1 row.2).setAll rest := rfl
    rw [hstep, ih hrest, get?_set, get?_cons]
    by_cases hkey : key = row.1
    · rw [get?_eq_none (hkey ▸ hfresh), if_pos hkey, if_pos hkey]
      rfl
    · simp [hkey]

/-! ## Sorted properties -/

/-- A key that stands before all others is not among them. -/
theorem get?_eq_none_of_lt {rest : Properties} (h : ∀ row ∈ rest, key < row.1) :
    get? rest key = none := by
  refine get?_eq_none ?_
  intro hmem
  obtain ⟨row, hrow, rfl⟩ := List.mem_map.mp hmem
  exact lt_irrefl row.1 (h row hrow)

theorem Sorted.mem_iff (h : properties.Sorted) {row : String × String} :
    row ∈ properties ↔ properties.get? row.1 = some row.2 := by
  induction properties with
  | nil => simp
  | cons head rest ih =>
    obtain ⟨hhead, hrest⟩ := List.pairwise_cons.mp h
    rw [List.mem_cons, ih hrest, get?_cons]
    by_cases hkey : row.1 = head.1
    · rw [if_pos hkey, hkey, get?_eq_none_of_lt hhead]
      simp [Prod.ext_iff, hkey, eq_comm]
    · rw [if_neg hkey]
      simp [Prod.ext_iff, hkey]

/-- Sorted properties in which every key has the same value are the same. -/
theorem Sorted.ext {a b : Properties} (ha : a.Sorted) (hb : b.Sorted)
    (h : ∀ key, a.get? key = b.get? key) : a = b := by
  have hmem : ∀ row, row ∈ a ↔ row ∈ b := by
    intro row
    rw [ha.mem_iff, hb.mem_iff, h]
  have hirrefl : Std.Irrefl fun row later : String × String => row.1 < later.1 :=
    ⟨fun row => lt_irrefl row.1⟩
  have hasymm : Std.Antisymm fun row later : String × String => row.1 < later.1 :=
    ⟨fun _ _ hlt hgt => absurd hgt (lt_asymm hlt)⟩
  exact List.Pairwise.eq_of_mem_iff ha hb (fun {row} => hmem row)

theorem Sorted.nodup_keys (h : properties.Sorted) : (properties.map (·.1)).Nodup :=
  List.pairwise_map.mpr (h.imp fun hlt => ne_of_lt hlt)

/-- Setting the rows of sorted properties one after the other gives these properties. -/
theorem Sorted.setAll_nil (h : properties.Sorted) :
    Properties.setAll [] properties = properties := by
  refine Sorted.ext (sorted_nil.setAll properties) h ?_
  intro key
  simp [get?_setAll h.nodup_keys]

end CrossShade.Properties
