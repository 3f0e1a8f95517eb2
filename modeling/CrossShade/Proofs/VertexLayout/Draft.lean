import CrossShade.Proofs.Outcome
import CrossShade.Proofs.Runs
import CrossShade.VertexLayout

/-!
# Entries of layout drafts

Which element of which input stands at which place of a draft, whatever a target makes of it.

* `placeCount` is how many places an input takes, so that `runStart placeCount` gives the place of
  its first element.
* `IsEntry` says what an entry tells of an element.
* `exists_entry` and `exists_input` go from elements to entries and back (`feedsAll`), and
  `filter_entries` finds all entries of one input.
-/

namespace CrossShade.LayoutDraft

variable {α : Type} {shader : Shader} {part : LayoutPart α} {draft : LayoutDraft α}
  {entries own : List (LayoutEntry α)} {entry : LayoutEntry α} {vars : List Variable} {v : Variable}
  {base : ScalarType} {input place element count i e : Nat}

/-- How many places of a layout a variable takes. -/
def placeCount (v : Variable) : Nat :=
  if isFed v then
    match v.type.layoutElements with
    | .ok count => count.toNat
    | .error _ => 0
  else 0

/-- An entry at a place that belongs to an element of a variable, which is the input with a number.
-/
structure IsEntry (part : LayoutPart α) (v : Variable) (input element place : Nat)
    (entry : LayoutEntry α) : Prop where
  part : part v (UInt32.ofNat element) place = .ok entry.part
  input : entry.input = input
  name : entry.name = v.name
  element : entry.element = UInt32.ofNat element
  base : v.type.base? = some entry.base

/-- The entries of a variable from some element on, the first of them at a place. -/
def AreEntries (part : LayoutPart α) (v : Variable) (input element place : Nat)
    (own : List (LayoutEntry α)) : Prop :=
  ∀ e entry, own[e]? = some entry → IsEntry part v input (element + e) (place + e) entry

/-- Every element of every input that is fed has an entry. -/
def FeedsAll (shader : Shader) (draft : LayoutDraft α) : Prop :=
  ∀ i v count e, shader.input[i]? = some v → isFed v = true → v.type.layoutElements = .ok count →
    e < count.toNat → ∃ entry ∈ draft.entries, entry.input = i ∧ entry.element = UInt32.ofNat e

theorem AreEntries.input_of_mem (h : AreEntries part v input element place own)
    (hentry : entry ∈ own) : entry.input = input := by
  obtain ⟨e, he⟩ := List.getElem?_of_mem hentry
  exact (h e entry he).input

/-! ## One input -/

theorem placeCount_of_not_isFed (h : isFed v = false) : placeCount v = 0 := by
  simp [placeCount, h]

theorem placeCount_of_isFed {count : UInt32} (h : isFed v = true)
    (hcount : v.type.layoutElements = .ok count) : placeCount v = count.toNat := by
  simp [placeCount, h, hcount]

theorem isFed_of_lt_placeCount (h : e < placeCount v) : isFed v = true := by
  by_contra hfed
  rw [placeCount_of_not_isFed (by simpa using hfed)] at h
  exact Nat.not_lt_zero e h

theorem areEntries_variableEntries (hbase : v.type.base? = some base)
    (h : variableEntries part v input base element place count = .ok own) :
    own.length = count ∧ AreEntries part v input element place own := by
  induction count generalizing element place own with
  | zero =>
    cases h
    exact ⟨rfl, by simp [AreEntries]⟩
  | succ count ih =>
    simp only [variableEntries, bind_eq_ok, pure_eq_ok] at h
    obtain ⟨first, hfirst, following, hfollowing, rfl⟩ := h
    obtain ⟨hlength, hentries⟩ := ih hfollowing
    refine ⟨by rw [List.length_cons, hlength], ?_⟩
    intro e entry hentry
    cases e with
    | zero =>
      simp only [List.getElem?_cons_zero, Option.some.injEq] at hentry
      subst hentry
      exact ⟨hfirst, rfl, rfl, rfl, hbase⟩
    | succ e =>
      have hlater := hentries e entry (by simpa using hentry)
      rwa [Nat.add_assoc, Nat.add_comm 1 e, Nat.add_assoc, Nat.add_comm 1 e] at hlater

/-- What the inputs of a draft have in common with its entries: the first input has its own entries
in front, and the entries of the others follow. -/
theorem inputEntries_cons (h : inputEntries shader part input place (v :: vars) = .ok entries) :
    ∃ own following, entries = own ++ following ∧ own.length = placeCount v ∧
      AreEntries part v input 0 place own ∧
      (isFed v = true → ∃ count, v.type.layoutElements = .ok count) ∧
      inputEntries shader part (input + 1) (place + placeCount v) vars = .ok following := by
  rw [inputEntries] at h
  split at h
  · rename_i hfed
    obtain ⟨count, hcount, h⟩ := bind_eq_ok.mp h
    cases hlayout : v.type.layoutElements with
    | error fault =>
      rw [hlayout] at hcount
      cases hcount
    | ok number =>
      rw [hlayout] at hcount
      cases hcount
      have hplaces := placeCount_of_isFed hfed hlayout
      cases hbase : v.type.base? with
      | none =>
        rw [hbase] at h
        cases h
      | some base =>
        simp only [hbase, bind_eq_ok, pure_eq_ok] at h
        obtain ⟨own, hown, following, hfollowing, rfl⟩ := h
        obtain ⟨hlength, hentries⟩ := areEntries_variableEntries hbase hown
        exact ⟨own, following, rfl, hlength.trans hplaces.symm, hentries, fun _ => ⟨count, rfl⟩,
          hplaces ▸ hfollowing⟩
  · rename_i hfed
    have hplaces := placeCount_of_not_isFed (by simpa using hfed)
    refine ⟨[], entries, rfl, hplaces.symm, by simp [AreEntries], fun h => absurd h hfed, ?_⟩
    rwa [hplaces]

/-! ## All inputs -/

/-- Every fed input has a number of elements, and there are no other entries. -/
theorem length_inputEntries (h : inputEntries shader part input place vars = .ok entries) :
    entries.length = runTotal placeCount vars := by
  induction vars generalizing input place entries with
  | nil =>
    cases h
    rfl
  | cons first rest ih =>
    obtain ⟨own, following, rfl, hlength, -, -, hfollowing⟩ := inputEntries_cons h
    rw [List.length_append, hlength, ih hfollowing, runTotal_cons]

theorem exists_layoutElements_of_inputEntries
    (h : inputEntries shader part input place vars = .ok entries) (hv : v ∈ vars)
    (hfed : isFed v = true) : ∃ count, v.type.layoutElements = .ok count := by
  induction vars generalizing input place entries with
  | nil => cases hv
  | cons first rest ih =>
    obtain ⟨own, following, -, -, -, hcount, hfollowing⟩ := inputEntries_cons h
    rcases List.mem_cons.mp hv with rfl | hrest
    · exact hcount hfed
    · exact ih hfollowing hrest

theorem le_input_of_mem_inputEntries
    (h : inputEntries shader part input place vars = .ok entries) (hentry : entry ∈ entries) :
    input ≤ entry.input := by
  induction vars generalizing input place entries with
  | nil =>
    cases h
    cases hentry
  | cons first rest ih =>
    obtain ⟨own, following, rfl, -, hown, -, hfollowing⟩ := inputEntries_cons h
    rcases List.mem_append.mp hentry with hmem | hmem
    · exact Nat.le_of_eq (hown.input_of_mem hmem).symm
    · exact Nat.le_of_succ_le (ih hfollowing hmem)

/-- The entries of an input stand in a row at its places: those of the inputs before it are in
front, those of the inputs after it behind. -/
theorem inputEntries_split (h : inputEntries shader part input place vars = .ok entries)
    (hv : vars[i]? = some v) :
    ∃ before own after, entries = before ++ own ++ after ∧
      before.length = runStart placeCount vars i ∧ own.length = placeCount v ∧
      AreEntries part v (input + i) 0 (place + runStart placeCount vars i) own ∧
      (∀ entry ∈ before, entry.input < input + i) ∧ ∀ entry ∈ after, input + i < entry.input := by
  induction vars generalizing input place entries i with
  | nil => simp at hv
  | cons first rest ih =>
    obtain ⟨own, following, rfl, hlength, hown, -, hfollowing⟩ := inputEntries_cons h
    cases i with
    | zero =>
      simp only [List.getElem?_cons_zero, Option.some.injEq] at hv
      subst hv
      exact ⟨[], own, following, rfl, by simp, hlength, by simpa using hown, nofun,
        fun entry hentry => le_input_of_mem_inputEntries hfollowing hentry⟩
    | succ i =>
      obtain ⟨before, found, after, rfl, hbefore, hcount, hfound, hless, hgreater⟩ :=
        ih hfollowing (by simpa using hv)
      have hinput : input + (i + 1) = input + 1 + i := by omega
      have hstart : runStart placeCount (first :: rest) (i + 1) =
          placeCount first + runStart placeCount rest i := rfl
      rw [hinput, hstart, ← Nat.add_assoc place]
      refine ⟨own ++ before, found, after, by simp, by simp [hlength, hbefore], hcount, hfound, ?_,
        hgreater⟩
      intro entry hentry
      rcases List.mem_append.mp hentry with hmem | hmem
      · have := hown.input_of_mem hmem
        omega
      · exact hless entry hmem

/-! ## Drafts -/

theorem inputEntries_of_ofShader (h : ofShader shader part = .ok draft) :
    shader.stage = .vertex ∧ inputEntries shader part 0 0 shader.input = .ok draft.entries := by
  unfold ofShader at h
  split at h
  · cases h
  · rename_i hstage
    simp only [bind_eq_ok, pure_eq_ok] at h
    obtain ⟨entries, hentries, rfl⟩ := h
    exact ⟨not_not.mp hstage, hentries⟩

theorem exists_layoutElements (h : ofShader shader part = .ok draft) (hv : v ∈ shader.input)
    (hfed : isFed v = true) : ∃ count, v.type.layoutElements = .ok count :=
  exists_layoutElements_of_inputEntries (inputEntries_of_ofShader h).2 hv hfed

theorem length_eq_runTotal (h : ofShader shader part = .ok draft) :
    draft.length = runTotal placeCount shader.input :=
  length_inputEntries (inputEntries_of_ofShader h).2

/-- The entries of an input are its own ones, in order. -/
theorem filter_entries (h : ofShader shader part = .ok draft) (hv : shader.input[i]? = some v) :
    (draft.entries.filter (·.input = i)).length = placeCount v ∧
      AreEntries part v i 0 (runStart placeCount shader.input i)
        (draft.entries.filter (·.input = i)) := by
  obtain ⟨before, own, after, hentries, -, hlength, hown, hless, hgreater⟩ :=
    inputEntries_split (inputEntries_of_ofShader h).2 hv
  rw [Nat.zero_add] at hless hgreater
  have hfilter : draft.entries.filter (·.input = i) = own := by
    rw [hentries, List.filter_append, List.filter_append]
    have hbefore : before.filter (·.input = i) = [] :=
      List.filter_eq_nil_iff.mpr fun entry hentry => by
        simpa using Nat.ne_of_lt (hless entry hentry)
    have hafter : after.filter (·.input = i) = [] :=
      List.filter_eq_nil_iff.mpr fun entry hentry => by
        simpa using Nat.ne_of_gt (hgreater entry hentry)
    have hsame : own.filter (·.input = i) = own :=
      List.filter_eq_self.mpr fun entry hentry => by simpa using hown.input_of_mem hentry
    rw [hbefore, hafter, hsame, List.nil_append, List.append_nil]
  rw [hfilter]
  exact ⟨hlength, by simpa using hown⟩

/-- Every element of an input has its entry at its place. -/
theorem exists_entry (h : ofShader shader part = .ok draft) (hv : shader.input[i]? = some v)
    (he : e < placeCount v) :
    ∃ entry, draft.entries[runStart placeCount shader.input i + e]? = some entry ∧
      IsEntry part v i e (runStart placeCount shader.input i + e) entry := by
  obtain ⟨before, own, after, hentries, hbefore, hlength, hown, -⟩ :=
    inputEntries_split (inputEntries_of_ofShader h).2 hv
  have hsome := List.getElem?_eq_getElem (l := own) (i := e) (by omega)
  refine ⟨_, ?_, by simpa using hown e _ hsome⟩
  rw [hentries, List.append_assoc, ← hbefore, List.getElem?_append_right (by omega),
    Nat.add_sub_cancel_left, List.getElem?_append_left (by omega), hsome]

/-- Nothing that is fed is left out of a draft. -/
theorem feedsAll (h : ofShader shader part = .ok draft) : FeedsAll shader draft := by
  intro i v count e hv hfed hcount he
  rw [← placeCount_of_isFed hfed hcount] at he
  obtain ⟨entry, hentry, hisEntry⟩ := exists_entry h hv he
  exact ⟨entry, List.mem_of_getElem? hentry, hisEntry.input, hisEntry.element⟩

/-- Every entry belongs to an element of an input. -/
theorem exists_input (h : ofShader shader part = .ok draft)
    (hentry : draft.entries[place]? = some entry) :
    ∃ v e, shader.input[entry.input]? = some v ∧ e < placeCount v ∧
      place = runStart placeCount shader.input entry.input + e ∧
      IsEntry part v entry.input e place entry := by
  have hplace : place < runTotal placeCount shader.input := by
    rw [← length_eq_runTotal h]
    exact (List.getElem?_eq_some_iff.mp hentry).1
  obtain ⟨i, v, e, hv, he, rfl⟩ := exists_run hplace
  obtain ⟨found, hfound, hisEntry⟩ := exists_entry h hv he
  obtain rfl := Option.some.inj (hfound.symm.trans hentry)
  obtain rfl := hisEntry.input
  exact ⟨v, e, hv, he, rfl, hisEntry⟩

end CrossShade.LayoutDraft
