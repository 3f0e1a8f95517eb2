import Mathlib.Algebra.GroupWithZero.Nat
import CrossShade.Proofs.VertexLayout.Draft

/-!
# Reconciling inputs with vertex data

What a draft asks of vertex data, entry by entry, and what comes of it when the data is given.

* `fedElements` lists the elements of the inputs that are fed, and `ofShader_eq` says that a draft
  has an entry for each of them, in that order.
* Finishing a layout calls a function for one entry after the other, and the function may read and
  change a state.  `stateAfter` is the state after some calls, and `Finishes` and `FailsAt` say what
  the call at a place gives.
* `run_finish_eq_ok_iff` and `run_finish_eq_error_iff` say when a layout is finished and which error
  it ends with otherwise, and by the state that is left also which calls there were.
-/

namespace CrossShade.LayoutDraft

variable {α β σ : Type} {shader : Shader} {vars : List Variable} {v : Variable}

/-! ## The entries of a draft -/

/-- The elements of the inputs that are fed, each with its input and the number of that. -/
def fedElements (input : Nat) (vars : List Variable) : List (Variable × Nat × Nat) :=
  ((vars.zipIdx input).filter fun numbered => isFed numbered.1).flatMap fun numbered =>
    (List.range (placeCount numbered.1)).map fun element => (numbered.1, numbered.2, element)

/-- The entry of an element at a place. -/
def entryFor (make : Variable → UInt32 → Nat → α) (place : Nat) :
    Variable × Nat × Nat → Option (LayoutEntry α)
  | (v, input, element) => v.type.base?.map fun base =>
    ⟨make v (UInt32.ofNat element) place, input, v.name, UInt32.ofNat element, base⟩

/-- What can be fed has scalars. -/
theorem exists_base_of_layoutElements {type : ValueType} {count : UInt32}
    (h : type.layoutElements = .ok count) : ∃ base, type.base? = some base := by
  induction type generalizing count with
  | scalar base => exact ⟨base, rfl⟩
  | vector base width => exact ⟨base, rfl⟩
  | matrix base rows columns => exact ⟨base, rfl⟩
  | array element size ih =>
    cases size with
    | fixed length =>
      simp only [ValueType.layoutElements, bind_eq_ok] at h
      obtain ⟨inner, hinner, -⟩ := h
      exact ih hinner
    | outerFactors => cases h
    | innerFactors => cases h
  | struct name => cases h

theorem fedElements_cons (input : Nat) (v : Variable) (vars : List Variable) :
    fedElements input (v :: vars) =
      (List.range (placeCount v)).map (fun element => (v, input, element)) ++
        fedElements (input + 1) vars := by
  unfold fedElements
  rw [List.zipIdx_cons, List.filter_cons]
  split
  · rw [List.flatMap_cons]
  · rename_i hfed
    rw [placeCount_of_not_isFed (by simpa using hfed), List.range_zero, List.map_nil,
      List.nil_append]

/-- There are as many elements as the inputs have together. -/
theorem length_fedElements (input : Nat) (vars : List Variable) :
    (fedElements input vars).length = ((vars.filter isFed).map placeCount).sum := by
  induction vars generalizing input with
  | nil => rfl
  | cons v vars ih =>
    rw [fedElements_cons, List.length_append, List.length_map, List.length_range, ih]
    cases hfed : isFed v with
    | true => simp [hfed]
    | false => simp [hfed, placeCount_of_not_isFed hfed]

theorem variableEntries_eq (make : Variable → UInt32 → Nat → α) (v : Variable) (input : Nat)
    (base : ScalarType) (element place count : Nat) :
    variableEntries (fun v element place => .ok (make v element place)) v input base element place
        count =
      .ok ((List.range count).map fun e => ⟨make v (UInt32.ofNat (element + e)) (place + e), input,
        v.name, UInt32.ofNat (element + e), base⟩) := by
  induction count generalizing element place with
  | zero => rfl
  | succ count ih =>
    rw [variableEntries, ok_bind, ih, List.range_succ_eq_map, List.map_cons, List.map_map]
    simp only [ok_bind, Nat.add_zero, Function.comp_def, Nat.succ_eq_add_one, Nat.add_assoc,
      Nat.add_comm 1]
    rfl

/-- The entries of inputs stand in the order of their elements, and each is made for its place. -/
theorem inputEntries_eq (shader : Shader) (make : Variable → UInt32 → Nat → α)
    (hfeeds : ∀ v ∈ vars, isFed v = true → ∃ count, v.type.layoutElements = .ok count)
    (input place : Nat) :
    ∃ entries, inputEntries shader (fun v element place => .ok (make v element place)) input place
        vars = .ok entries ∧
      entries.map some = (fedElements input vars).mapIdx fun i => entryFor make (place + i) := by
  induction vars generalizing input place with
  | nil => exact ⟨[], rfl, rfl⟩
  | cons v vars ih =>
    have hmore := fun w hw => hfeeds w (List.mem_cons_of_mem v hw)
    rw [inputEntries]
    split
    · rename_i hfed
      obtain ⟨count, hcount⟩ := hfeeds v List.mem_cons_self hfed
      obtain ⟨base, hbase⟩ := exists_base_of_layoutElements hcount
      obtain ⟨following, hfollowing, hentries⟩ := ih hmore (input + 1) (place + count.toNat)
      have hplaces := placeCount_of_isFed hfed hcount
      refine ⟨(List.range count.toNat).map (fun e => ⟨make v (UInt32.ofNat e) (place + e), input,
        v.name, UInt32.ofNat e, base⟩) ++ following, ?_, ?_⟩
      · rw [hcount, hbase]
        simp only [mapError_ok, Shader.fault, ok_bind, variableEntries_eq, hfollowing, Nat.zero_add]
        rfl
      · rw [fedElements_cons, hplaces, List.map_append, hentries, List.mapIdx_append,
          List.length_map, List.length_range]
        congr 1
        · apply List.ext_getElem
          · simp
          · intro e _ _
            simp [entryFor, hbase]
        · congr 1
          funext i
          congr 1
          omega
    · rename_i hfed
      have hplaces := placeCount_of_not_isFed (v := v) (by simpa using hfed)
      rw [fedElements_cons, hplaces, List.range_zero, List.map_nil, List.nil_append]
      exact ih hmore (input + 1) place

/-- Every draft of inputs that can be fed is made, with an entry for each of their elements. -/
theorem ofShader_eq (make : Variable → UInt32 → Nat → α) (hstage : shader.stage = .vertex)
    (hfeeds : ∀ v ∈ shader.input, isFed v = true → ∃ count, v.type.layoutElements = .ok count) :
    ∃ draft, ofShader shader (fun v element place => .ok (make v element place)) = .ok draft ∧
      draft.shader = shader.name ∧
      draft.entries.map some = (fedElements 0 shader.input).mapIdx (entryFor make) := by
  obtain ⟨entries, hentries, hsame⟩ := inputEntries_eq shader make hfeeds 0 0
  refine ⟨⟨shader.name, entries⟩, ?_, rfl, ?_⟩
  · rw [ofShader, if_neg (not_not.mpr hstage), hentries]
    rfl
  · rw [hsame]
    simp only [Nat.zero_add]

/-! ## Calls in a row -/

variable {target : Target}
  {finish : LayoutEntry α → VertexElement → ExceptT ShaderError (StateM σ) β}
  {pairs rest : List (LayoutEntry α × VertexElement)} {pair : LayoutEntry α × VertexElement}
  {natives : List β} {native : β} {fault : ShaderError} {s t : σ} {i : Nat}

/-- What a call for an entry and its element gives and the state that it leaves. -/
def call (finish : LayoutEntry α → VertexElement → ExceptT ShaderError (StateM σ) β) (s : σ)
    (pair : LayoutEntry α × VertexElement) : Except ShaderError β × σ :=
  (finish pair.1 pair.2).run.run s

/-- The state that is left by calls for some entries and elements, one after the other. -/
def stateAfter (finish : LayoutEntry α → VertexElement → ExceptT ShaderError (StateM σ) β) (s : σ)
    (pairs : List (LayoutEntry α × VertexElement)) : σ :=
  pairs.foldl (fun s pair => (call finish s pair).2) s

/-- The element at a place is of a format that feeds its entry, and the call for the two, after
those for all places before, gives a native element. -/
def Finishes (finish : LayoutEntry α → VertexElement → ExceptT ShaderError (StateM σ) β) (s : σ)
    (pairs : List (LayoutEntry α × VertexElement)) (i : Nat) (native : β) : Prop :=
  ∃ pair, pairs[i]? = some pair ∧ pair.2.format.feeds pair.1.base = true ∧
    (call finish (stateAfter finish s (pairs.take i)) pair).1 = .ok native

/-- The element at a place is of a format that cannot feed its entry, and there is no call for the
two; or the call for them, after those for all places before, fails.  `t` is the state then. -/
def FailsAt (target : Target)
    (finish : LayoutEntry α → VertexElement → ExceptT ShaderError (StateM σ) β) (s : σ)
    (pairs : List (LayoutEntry α × VertexElement)) (i : Nat) (fault : ShaderError) (t : σ) : Prop :=
  ∃ pair, pairs[i]? = some pair ∧
    (pair.2.format.feeds pair.1.base = false ∧
        fault = .unsupported target
          (.feeding pair.2.format.name pair.1.base.word pair.1.name) ∧
        t = stateAfter finish s (pairs.take i) ∨
      pair.2.format.feeds pair.1.base = true ∧
        call finish (stateAfter finish s (pairs.take i)) pair = (.error fault, t))

theorem stateAfter_cons : stateAfter finish s (pair :: rest) =
    stateAfter finish (call finish s pair).2 rest := rfl

theorem finishes_zero : Finishes finish s (pair :: rest) 0 native ↔
    pair.2.format.feeds pair.1.base = true ∧ (call finish s pair).1 = .ok native := by
  simp [Finishes, stateAfter]

theorem finishes_succ : Finishes finish s (pair :: rest) (i + 1) native ↔
    Finishes finish (call finish s pair).2 rest i native := by
  simp [Finishes, stateAfter_cons]

theorem failsAt_zero : FailsAt target finish s (pair :: rest) 0 fault t ↔
    pair.2.format.feeds pair.1.base = false ∧
        fault = .unsupported target
          (.feeding pair.2.format.name pair.1.base.word pair.1.name) ∧ t = s ∨
      pair.2.format.feeds pair.1.base = true ∧ call finish s pair = (.error fault, t) := by
  simp [FailsAt, stateAfter]

theorem failsAt_succ : FailsAt target finish s (pair :: rest) (i + 1) fault t ↔
    FailsAt target finish (call finish s pair).2 rest i fault t := by
  simp [FailsAt, stateAfter_cons]

/-! ## Finishing -/

/-- What finishing gives and the state that it leaves. -/
def finishRun (target : Target)
    (finish : LayoutEntry α → VertexElement → ExceptT ShaderError (StateM σ) β) (s : σ)
    (pairs : List (LayoutEntry α × VertexElement)) : Except ShaderError (List β) × σ :=
  (finishAll target finish pairs).run.run s

/-- A computation goes on with the result and the state of its first step, unless that fails. -/
theorem run_run_bind {γ δ : Type} (first : ExceptT ShaderError (StateM σ) γ)
    (next : γ → ExceptT ShaderError (StateM σ) δ) (s : σ) :
    (first >>= next).run.run s = match first.run.run s with
      | (.ok value, t) => (next value).run.run t
      | (.error fault, t) => (.error fault, t) := by
  rw [ExceptT.run_bind, StateT.run_bind]
  cases first.run.run s with
  | mk result t => cases result <;> rfl

/-- A pair is finished before all others, and these only if it is. -/
theorem finishRun_cons : finishRun target finish s (pair :: rest) =
    if pair.2.format.feeds pair.1.base then
      match call finish s pair with
      | (.ok first, t) =>
        ((finishRun target finish t rest).1.map (first :: ·), (finishRun target finish t rest).2)
      | (.error fault, t) => (.error fault, t)
    else
      (.error (.unsupported target (.feeding pair.2.format.name pair.1.base.word pair.1.name)),
        s) := by
  have hcall : (finish pair.1 pair.2).run.run s = call finish s pair := rfl
  have hrest : ∀ t, (finishAll target finish rest).run.run t = finishRun target finish t rest :=
    fun _ => rfl
  rw [finishRun, finishAll]
  split
  · rw [run_run_bind, hcall]
    cases call finish s pair with
    | mk result t =>
      cases result with
      | error fault => rfl
      | ok first =>
        simp only [run_run_bind, hrest]
        cases finishRun target finish t rest with
        | mk result u => cases result <;> rfl
  · rfl

/-- A row of pairs is finished if its first pair is and then the others are. -/
theorem finishRun_cons_eq_ok_iff :
    finishRun target finish s (pair :: rest) = (.ok natives, t) ↔
      ∃ first more, natives = first :: more ∧ Finishes finish s (pair :: rest) 0 first ∧
        finishRun target finish (call finish s pair).2 rest = (.ok more, t) := by
  rw [finishRun_cons]
  simp only [finishes_zero]
  split
  · rename_i hfeeds
    cases hcall : call finish s pair with
    | mk result u =>
      cases result with
      | error error => simp
      | ok first =>
        cases hrest : finishRun target finish u rest with
        | mk following w => cases following <;> simp [Except.map, hfeeds, hrest, eq_comm]
  · rename_i hfeeds
    simp [hfeeds]

/-- A row of pairs ends with an error if its first pair does, or is finished and then the others end
with it. -/
theorem finishRun_cons_eq_error_iff :
    finishRun target finish s (pair :: rest) = (.error fault, t) ↔
      FailsAt target finish s (pair :: rest) 0 fault t ∨
        (∃ first, Finishes finish s (pair :: rest) 0 first) ∧
          finishRun target finish (call finish s pair).2 rest = (.error fault, t) := by
  rw [finishRun_cons]
  simp only [finishes_zero, failsAt_zero]
  split
  · rename_i hfeeds
    cases hcall : call finish s pair with
    | mk result u =>
      cases result with
      | error error => simp [hfeeds]
      | ok first =>
        cases hrest : finishRun target finish u rest with
        | mk following w => cases following <;> simp [Except.map, hfeeds, hrest]
  · rename_i hfeeds
    simp [hfeeds, eq_comm]

/-- All pairs are finished if each call gives a native element, and the state is the one after all
calls.  The induction is on the pairs, with the state that their calls start from. -/
theorem finishRun_eq_ok_iff : finishRun target finish s pairs = (.ok natives, t) ↔
    natives.length = pairs.length ∧
      (∀ i native, natives[i]? = some native → Finishes finish s pairs i native) ∧
      t = stateAfter finish s pairs := by
  induction pairs generalizing s natives with
  | nil =>
    show (Except.ok [], s) = (Except.ok natives, t) ↔ natives.length = 0 ∧ _ ∧ t = s
    rw [List.length_eq_zero_iff]
    constructor
    · intro h
      cases h
      exact ⟨rfl, by simp, rfl⟩
    · intro ⟨hnatives, _, hstate⟩
      rw [hnatives, hstate]
  | cons pair rest ih =>
    rw [finishRun_cons_eq_ok_iff]
    simp only [ih]
    constructor
    · intro ⟨first, more, hnatives, hfirst, hlength, hmore, hstate⟩
      subst hnatives
      refine ⟨congrArg (· + 1) hlength, fun i native hnative => ?_, hstate⟩
      cases i with
      | zero =>
        cases hnative
        exact hfirst
      | succ i => exact finishes_succ.mpr (hmore i native (by simpa using hnative))
    · intro ⟨hlength, hall, hstate⟩
      obtain ⟨first, more, rfl⟩ := List.exists_cons_of_length_eq_add_one hlength
      refine ⟨first, more, rfl, hall 0 first rfl, Nat.succ.inj hlength, fun i native hnative => ?_,
        hstate⟩
      exact finishes_succ.mp (hall (i + 1) native (by simpa using hnative))

/-- The first pair that fails ends the run, with its error and the state that is left then. -/
theorem finishRun_eq_error_iff : finishRun target finish s pairs = (.error fault, t) ↔
    ∃ i, (∀ j, j < i → ∃ native, Finishes finish s pairs j native) ∧
      FailsAt target finish s pairs i fault t := by
  induction pairs generalizing s with
  | nil =>
    show (Except.ok [], s) = (Except.error fault, t) ↔ _
    simp [FailsAt]
  | cons pair rest ih =>
    rw [finishRun_cons_eq_error_iff, ih]
    constructor
    · intro h
      rcases h with hfails | ⟨hfirst, i, hbefore, hfails⟩
      · exact ⟨0, by simp, hfails⟩
      · refine ⟨i + 1, fun j hj => ?_, failsAt_succ.mpr hfails⟩
        cases j with
        | zero => exact hfirst
        | succ j =>
          obtain ⟨native, hnative⟩ := hbefore j (by omega)
          exact ⟨native, finishes_succ.mpr hnative⟩
    · intro ⟨i, hbefore, hfails⟩
      cases i with
      | zero => exact .inl hfails
      | succ i =>
        refine .inr ⟨hbefore 0 (by omega), i, fun j hj => ?_, failsAt_succ.mp hfails⟩
        obtain ⟨native, hnative⟩ := hbefore (j + 1) (by omega)
        exact ⟨native, finishes_succ.mp hnative⟩

/-- A layout is finished entry by entry, or not at all if the counts differ. -/
theorem run_finish_eq (draft : LayoutDraft α) (target : Target) (elements : List VertexElement)
    (finish : LayoutEntry α → VertexElement → ExceptT ShaderError (StateM σ) β) (s : σ) :
    (draft.finish target elements finish).run.run s =
      if elements.length = draft.length then
        finishRun target finish s (draft.entries.zip elements)
      else
        (.error (.layoutLength draft.shader draft.length elements.length), s) := by
  unfold LayoutDraft.finish finishRun
  split
  · rfl
  · rfl

section

variable {draft : LayoutDraft α} {elements : List VertexElement}

theorem run_finish_eq_ok_iff :
    (draft.finish target elements finish).run.run s = (.ok natives, t) ↔
      elements.length = draft.length ∧ natives.length = draft.length ∧
        (∀ i native, natives[i]? = some native →
          Finishes finish s (draft.entries.zip elements) i native) ∧
        t = stateAfter finish s (draft.entries.zip elements) := by
  rw [run_finish_eq]
  split
  · rename_i hlength
    have hzip : (draft.entries.zip elements).length = draft.length := by
      rw [List.length_zip, hlength]
      exact Nat.min_self _
    rw [finishRun_eq_ok_iff, hzip]
    exact (and_iff_right hlength).symm
  · rename_i hlength
    constructor
    · intro h
      cases h
    · intro ⟨hsame, _⟩
      exact absurd hsame hlength

theorem run_finish_eq_error_iff :
    (draft.finish target elements finish).run.run s = (.error fault, t) ↔
      elements.length ≠ draft.length ∧
          fault = .layoutLength draft.shader draft.length elements.length ∧ t = s ∨
        elements.length = draft.length ∧
          ∃ i, (∀ j, j < i → ∃ native, Finishes finish s (draft.entries.zip elements) j native) ∧
            FailsAt target finish s (draft.entries.zip elements) i fault t := by
  rw [run_finish_eq]
  split
  · rename_i hlength
    rw [finishRun_eq_error_iff]
    simp [hlength]
  · rename_i hlength
    constructor
    · intro h
      cases h
      exact .inl ⟨hlength, rfl, rfl⟩
    · intro h
      rcases h with ⟨_, hfault, hstate⟩ | ⟨hsame, _⟩
      · rw [hfault, hstate]
      · exact absurd hsame hlength

end

/-- The inputs that are fed and the vertex data meet element by element.

If every fed input has elements, there is a draft whatever is made of them: its entries are the
elements of these inputs in order, each made for the place that it has.  A layout of any draft is
finished if there is an element for each entry, of a format that feeds it, and every call for the
two gives a native element, which is the one at its place.  If the counts differ that is the error
and nothing is called; otherwise the first place that fails decides on the error, and nothing is
called for the places behind it, so that the state is the one that this place leaves. -/
theorem layout_meets_inputs (shader : Shader) (hstage : shader.stage = .vertex)
    (hfeeds : ∀ v ∈ shader.input, isFed v = true → ∃ count, v.type.layoutElements = .ok count)
    (make : Variable → UInt32 → Nat → α) :
    (∃ draft, ofShader shader (fun v element place => .ok (make v element place)) = .ok draft ∧
      draft.shader = shader.name ∧
      draft.entries.map some = (fedElements 0 shader.input).mapIdx (entryFor make) ∧
      draft.length = ((shader.input.filter isFed).map placeCount).sum) ∧
    ∀ (β σ : Type) (draft : LayoutDraft α) (target : Target) (elements : List VertexElement)
      (finish : LayoutEntry α → VertexElement → ExceptT ShaderError (StateM σ) β) (s t : σ),
      (∀ natives, (draft.finish target elements finish).run.run s = (.ok natives, t) ↔
        elements.length = draft.length ∧ natives.length = draft.length ∧
          (∀ i native, natives[i]? = some native →
            Finishes finish s (draft.entries.zip elements) i native) ∧
          t = stateAfter finish s (draft.entries.zip elements)) ∧
      ∀ fault, (draft.finish target elements finish).run.run s = (.error fault, t) ↔
        elements.length ≠ draft.length ∧
            fault = .layoutLength draft.shader draft.length elements.length ∧ t = s ∨
          elements.length = draft.length ∧
            ∃ i, (∀ j, j < i →
                ∃ native, Finishes finish s (draft.entries.zip elements) j native) ∧
              FailsAt target finish s (draft.entries.zip elements) i fault t := by
  constructor
  · obtain ⟨draft, hdraft, hname, hentries⟩ := ofShader_eq make hstage hfeeds
    refine ⟨draft, hdraft, hname, hentries, ?_⟩
    have hlength := congrArg List.length hentries
    rw [List.length_map, List.length_mapIdx, length_fedElements] at hlength
    exact hlength
  · intro β σ draft target elements finish s t
    exact ⟨fun natives => run_finish_eq_ok_iff, fun fault => run_finish_eq_error_iff⟩

/-- A matrix of three columns, an input that is left out, one from the system and an array. -/
def turningInputs : List Variable :=
  [{ type := .matrix .float 4 3, name := "World" },
    { type := .struct "Bone", name := "Spare", isUsed := false },
    { type := .scalar .uint, name := "Corner", semantic := "SV_VertexID" },
    { type := .array (.vector .uint 2) (.fixed 2), name := "Joints" }]

/-- The entries for them, of which each knows its place. -/
def turningDraft : LayoutDraft Nat :=
  ⟨"Turn", [⟨0, 0, "World", 0, .float⟩, ⟨1, 0, "World", 1, .float⟩, ⟨2, 0, "World", 2, .float⟩,
    ⟨3, 3, "Joints", 0, .uint⟩, ⟨4, 3, "Joints", 1, .uint⟩]⟩

/-- Vertex data of a format. -/
def dataOf (format : ElementFormat) : VertexElement :=
  ⟨format, 0, 0, 0⟩

/-- Finishing that counts its calls and has no use for joints. -/
def countCalls (entry : LayoutEntry Nat) (_ : VertexElement) :
    ExceptT ShaderError (StateM Nat) Nat := do
  modify (· + 1)
  if entry.base = .uint then
    throw (.stageUnsupported .openGL .vertex)
  else
    return entry.part

/-- No call with one element for five entries, three calls if the fourth entry gets floats, and four
if it gets what it needs but is refused. -/
theorem layout_meets_inputs_turning :
    ofShader { name := "Turn", stage := .vertex, input := turningInputs }
        (fun _ _ place => .ok place) = .ok turningDraft ∧
      turningDraft.length = 5 ∧
      (turningDraft.finish .openGL [dataOf .r32Float] countCalls).run.run 0 =
        (.error (.layoutLength "Turn" 5 1), 0) ∧
      (turningDraft.finish .openGL (List.replicate 5 (dataOf .r32G32Float)) countCalls).run.run 0 =
        (.error (.unsupported .openGL (.feeding "R32G32Float" "uint" "Joints")), 3) ∧
      (turningDraft.finish .openGL (List.replicate 3 (dataOf .r32G32Float) ++
        List.replicate 2 (dataOf .r32G32Uint)) countCalls).run.run 0 =
          (.error (.stageUnsupported .openGL .vertex), 4) := by
  have hfeeds : ∀ v ∈ turningInputs, isFed v = true →
      ∃ count, v.type.layoutElements = .ok count := by
    intro v hv hfed
    simp only [turningInputs, List.mem_cons, List.not_mem_nil, or_false] at hv
    rcases hv with rfl | rfl | rfl | rfl
    · exact ⟨3, rfl⟩
    · cases hfed
    · exact ⟨1, rfl⟩
    · exact ⟨2, rfl⟩
  obtain ⟨⟨draft, hdraft, -, -, hlength⟩, hfinish⟩ := layout_meets_inputs
    { name := "Turn", stage := .vertex, input := turningInputs } rfl hfeeds fun _ _ place => place
  have hknown : ofShader { name := "Turn", stage := .vertex, input := turningInputs }
      (fun _ _ place => .ok place) = .ok turningDraft := by decide +kernel
  obtain rfl : turningDraft = draft := Except.ok.inj (hknown.symm.trans hdraft)
  refine ⟨hknown, hlength.trans (by decide +kernel), ?_, ?_, ?_⟩
  · exact ((hfinish _ _ _ _ _ _ _ _).2 _).mpr (.inl ⟨by decide, rfl, rfl⟩)
  · refine ((hfinish _ _ _ _ _ _ _ _).2 _).mpr (.inr ⟨rfl, 3, ?_, ?_⟩)
    · intro j hj
      match j, hj with
      | 0, _ => exact ⟨0, _, rfl, rfl, rfl⟩
      | 1, _ => exact ⟨1, _, rfl, rfl, rfl⟩
      | 2, _ => exact ⟨2, _, rfl, rfl, rfl⟩
    · exact ⟨_, rfl, .inl ⟨rfl, rfl, rfl⟩⟩
  · refine ((hfinish _ _ _ _ _ _ _ _).2 _).mpr (.inr ⟨rfl, 3, ?_, ?_⟩)
    · intro j hj
      match j, hj with
      | 0, _ => exact ⟨0, _, rfl, rfl, rfl⟩
      | 1, _ => exact ⟨1, _, rfl, rfl, rfl⟩
      | 2, _ => exact ⟨2, _, rfl, rfl, rfl⟩
    · exact ⟨_, rfl, .inr ⟨rfl, rfl⟩⟩

end CrossShade.LayoutDraft
