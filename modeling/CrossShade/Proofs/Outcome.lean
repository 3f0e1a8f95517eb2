import Mathlib.Data.List.Forall2

/-!
# Results of computations that may fail

When a computation put together from others ends well.  The reader, the validator and the pipeline
are all written with `do`, and these lemmas take such a computation apart one step at a time.
-/

namespace CrossShade

variable {ε α β : Type}

instance decidableEqExcept [DecidableEq ε] [DecidableEq α] : DecidableEq (Except ε α)
  | .ok first, .ok second => decidable_of_iff (first = second) (by rw [Except.ok.injEq])
  | .error first, .error second => decidable_of_iff (first = second) (by rw [Except.error.injEq])
  | .ok _, .error _ => isFalse (fun h => nomatch h)
  | .error _, .ok _ => isFalse (fun h => nomatch h)

theorem exists_of_isOk {first : Except ε α} (h : first.isOk = true) :
    ∃ value, first = .ok value := by
  cases first with
  | error error => cases h
  | ok value => exact ⟨value, rfl⟩

/-- Two steps end well if the first does and the second does with its result. -/
@[simp] theorem bind_eq_ok {first : Except ε α} {second : α → Except ε β} {result : β} :
    (first >>= second) = .ok result ↔ ∃ value, first = .ok value ∧ second value = .ok result := by
  cases first <;> simp [bind, Except.bind]

/-- A result is changed only if there is one. -/
@[simp] theorem map_eq_ok {change : α → β} {first : Except ε α} {result : β} :
    change <$> first = .ok result ↔ ∃ value, first = .ok value ∧ change value = result := by
  cases first <;> simp [Functor.map, Except.map]

@[simp] theorem pure_eq_ok {value result : α} :
    (pure value : Except ε α) = .ok result ↔ value = result := by
  simp [pure, Except.pure]

@[simp] theorem pure_ne_error {value : α} {error : ε} :
    (pure value : Except ε α) ≠ .error error := by
  simp [pure, Except.pure]

/-- An error ends what follows it. -/
@[simp] theorem error_bind (error : ε) (second : α → Except ε β) :
    (Except.error error >>= second) = .error error := rfl

@[simp] theorem error_map (error : ε) (change : α → β) :
    change <$> (Except.error error : Except ε α) = .error error := rfl

@[simp] theorem mapError_ok {ε' : Type} (value : α) (change : ε → ε') :
    (Except.ok value).mapError change = .ok value := rfl

@[simp] theorem mapError_error {ε' : Type} (error : ε) (change : ε → ε') :
    (Except.error error : Except ε α).mapError change = .error (change error) := rfl

@[simp] theorem mapError_eq_ok {ε' : Type} {first : Except ε α} {change : ε → ε'} {result : α} :
    first.mapError change = .ok result ↔ first = .ok result := by
  cases first <;> simp

@[simp] theorem ok_bind (value : α) (second : α → Except ε β) :
    (Except.ok value >>= second) = second value := rfl

/-- Two steps fail if the first does, or if the second does with its result. -/
theorem bind_eq_error_iff {first : Except ε α} {second : α → Except ε β} {error : ε} :
    (first >>= second) = .error error ↔
      first = .error error ∨ ∃ value, first = .ok value ∧ second value = .error error := by
  cases first <;> simp

/-- Two steps that can fail in one way only fail in that way together. -/
theorem bind_cases {first : Except ε α} {second : α → Except ε β} {error : ε}
    (hfirst : (∃ value, first = .ok value) ∨ first = .error error)
    (hsecond : ∀ value, first = .ok value →
      (∃ result, second value = .ok result) ∨ second value = .error error) :
    (∃ result, (first >>= second) = .ok result) ∨ (first >>= second) = .error error := by
  rcases hfirst with ⟨value, rfl⟩ | rfl
  · exact hsecond value rfl
  · exact .inr rfl

/-- What comes second matters only with the results of the first step. -/
theorem bind_congr_of_ok {first : Except ε α} {second third : α → Except ε β}
    (h : ∀ value, first = .ok value → second value = third value) :
    (first >>= second) = (first >>= third) := by
  cases first with
  | error error => rfl
  | ok value => exact h value rfl

/-- As `bind_eq_ok`, for computations that are written for any monad and run in none. -/
theorem run_bind_eq_ok {first : ExceptT ε Id α} {second : α → ExceptT ε Id β} {result : β} :
    (first >>= second).run = (Except.ok result : Except ε β) ↔
      ∃ value, first.run = (Except.ok value : Except ε α) ∧
        (second value).run = (Except.ok result : Except ε β) := by
  rw [ExceptT.run_bind]
  cases first.run with
  | error error => exact ⟨nofun, fun ⟨_, hfirst, _⟩ => nomatch hfirst⟩
  | ok value =>
    constructor
    · intro h
      exact ⟨value, rfl, h⟩
    · rintro ⟨_, hfirst, h⟩
      cases hfirst
      exact h

/-- A computation on every element of a list ends well if each one does. -/
theorem mapM_eq_ok_iff {f : α → Except ε β} {list : List α} {results : List β} :
    list.mapM f = .ok results ↔ List.Forall₂ (fun a b => f a = .ok b) list results := by
  induction list generalizing results with
  | nil =>
    rw [List.mapM_nil, pure_eq_ok, List.forall₂_nil_left_iff]
    exact eq_comm
  | cons first rest ih =>
    rw [List.mapM_cons, List.forall₂_cons_left_iff]
    simp only [bind_eq_ok, pure_eq_ok, ih]
    constructor
    · rintro ⟨result, hfirst, results, hrest, rfl⟩
      exact ⟨result, results, hfirst, hrest, rfl⟩
    · rintro ⟨result, results, hfirst, hrest, rfl⟩
      exact ⟨result, hfirst, results, hrest, rfl⟩

/-- Whatever stands in the second of two related lists is related to an element of the first. -/
theorem exists_mem_of_forall₂ {R : α → β → Prop} {list : List α} {results : List β} {b : β}
    (h : List.Forall₂ R list results) (hb : b ∈ results) : ∃ a ∈ list, R a b := by
  induction h with
  | nil => cases hb
  | cons hfirst _ ih =>
    rcases List.mem_cons.mp hb with rfl | hrest
    · exact ⟨_, List.mem_cons_self, hfirst⟩
    · obtain ⟨a, ha, hresult⟩ := ih hrest
      exact ⟨a, List.mem_cons_of_mem _ ha, hresult⟩

/-- Where each element has a property if its counterpart does, all of them do if all counterparts
do. -/
theorem forall_iff_of_forall₂ {P : α → Prop} {Q : β → Prop} {list : List α} {results : List β}
    (h : List.Forall₂ (fun a b => P a ↔ Q b) list results) :
    (∀ a ∈ list, P a) ↔ ∀ b ∈ results, Q b := by
  induction h with
  | nil => simp
  | cons hfirst _ ih => rw [List.forall_mem_cons, List.forall_mem_cons, hfirst, ih]

/-- Where every second element of a pair shows a third one that is related to the first, there is a
list of these. -/
theorem exists_forall₂_map_eq {γ δ : Type} {R : α → β → Prop} {S : α → γ → Prop} {shown : β → δ}
    {known : γ → δ} {list : List α} {results : List β} (h : List.Forall₂ R list results)
    (hshown : ∀ a, ∀ b ∈ results, R a b → ∃ c, S a c ∧ known c = shown b) :
    ∃ found, List.Forall₂ S list found ∧ found.map known = results.map shown := by
  induction h with
  | nil => exact ⟨[], .nil, rfl⟩
  | cons hfirst _ ih =>
    obtain ⟨hhead, hrest⟩ := forall_and.mp fun a => List.forall_mem_cons.mp (hshown a)
    obtain ⟨c, hc, hknown⟩ := hhead _ hfirst
    obtain ⟨found, hfound, hmap⟩ := ih hrest
    exact ⟨c :: found, .cons hc hfound, by rw [List.map_cons, List.map_cons, hknown, hmap]⟩

/-- Every element has its result in the list of results. -/
theorem exists_mem_of_mapM_eq_ok {f : α → Except ε β} {list : List α} {results : List β} {a : α}
    (h : list.mapM f = .ok results) (ha : a ∈ list) : ∃ b ∈ results, f a = .ok b :=
  exists_mem_of_forall₂ (R := fun b a => f a = .ok b) (mapM_eq_ok_iff.mp h).flip ha

/-- Every result belongs to an element. -/
theorem exists_eq_ok_of_mem_mapM {f : α → Except ε β} {list : List α} {results : List β} {b : β}
    (h : list.mapM f = .ok results) (hb : b ∈ results) : ∃ a ∈ list, f a = .ok b :=
  exists_mem_of_forall₂ (R := fun a b => f a = .ok b) (mapM_eq_ok_iff.mp h) hb

/-- What every result shows of its element, the list of results shows of the list. -/
theorem map_eq_map_of_mapM_eq_ok {γ : Type} {f : α → Except ε β} {list : List α}
    {results : List β} {shown : β → γ} {known : α → γ}
    (hshown : ∀ a b, f a = .ok b → shown b = known a) (h : list.mapM f = .ok results) :
    results.map shown = list.map known := by
  rw [mapM_eq_ok_iff] at h
  induction h with
  | nil => rfl
  | cons hfirst _ ih => rw [List.map_cons, List.map_cons, hshown _ _ hfirst, ih]

/-- What every step keeps, a row of steps keeps. -/
theorem foldlM_keeps {step : β → α → Except ε β} {P : β → Prop}
    (hstep : ∀ state x next, step state x = .ok next → P state → P next) {list : List α}
    {first last : β} (h : list.foldlM step first = .ok last) (hfirst : P first) : P last := by
  induction list generalizing first with
  | nil =>
    cases h
    exact hfirst
  | cons x rest ih =>
    rw [List.foldlM_cons, bind_eq_ok] at h
    obtain ⟨next, hx, hrest⟩ := h
    exact ih hrest (hstep first x next hx hfirst)

/-! ## The same results -/

/-- The computations end well with the same results.  Their errors may differ. -/
def SameOk {ε' : Type} (first : Except ε α) (second : Except ε' α) : Prop :=
  ∀ result, first = .ok result ↔ second = .ok result

namespace SameOk

variable {ε' : Type}

@[simp] theorem refl (first : Except ε α) : SameOk first first := fun _ => Iff.rfl

@[simp] theorem error (error : ε) (other : ε') :
    SameOk (Except.error error : Except ε α) (Except.error other) := by
  simp [SameOk]

theorem map {first : Except ε α} {second : Except ε' α} (h : SameOk first second)
    (change : α → β) : SameOk (change <$> first) (change <$> second) := by
  intro result
  simp only [map_eq_ok, h _]

/-- Computations that never end well have the same results, none. -/
theorem of_refused {first : Except ε α} {second : Except ε' α}
    (hfirst : ∀ result, first ≠ .ok result) (hsecond : ∀ result, second ≠ .ok result) :
    SameOk first second :=
  fun result => iff_of_false (hfirst result) (hsecond result)

theorem mapError {ε'' : Type} {first second : Except ε α} (h : SameOk first second)
    (change : ε → ε'') : SameOk (first.mapError change) (second.mapError change) := by
  intro result
  have hresult := h result
  revert hresult
  cases first <;> cases second <;> simp

theorem bind {first : Except ε α} {second : Except ε' α} {rest : α → Except ε β}
    {others : α → Except ε' β} (h : SameOk first second)
    (hrest : ∀ value, first = .ok value → SameOk (rest value) (others value)) :
    SameOk (first >>= rest) (second >>= others) := by
  intro result
  simp only [bind_eq_ok]
  constructor
  · rintro ⟨value, hvalue, hresult⟩
    exact ⟨value, (h value).mp hvalue, (hrest value hvalue result).mp hresult⟩
  · rintro ⟨value, hvalue, hresult⟩
    have hfirst := (h value).mpr hvalue
    exact ⟨value, hfirst, (hrest value hfirst result).mpr hresult⟩

end SameOk

/-! ## Errors of some kind -/

/-- The computation does not end in an error of some kind. -/
def Avoids (bad : ε → Prop) (result : Except ε α) : Prop :=
  ∀ error, result = .error error → ¬bad error

section Avoids

variable {ε' : Type} {bad : ε → Prop}

@[simp] theorem avoids_ok (value : α) : Avoids bad (Except.ok value) := nofun

@[simp] theorem avoids_pure (value : α) : Avoids bad (pure value : Except ε α) := nofun

@[simp] theorem avoids_error_iff {error : ε} :
    Avoids bad (Except.error error : Except ε α) ↔ ¬bad error := by
  simp [Avoids]

/-- The second step counts only for what the first one gives. -/
@[simp] theorem avoids_bind_iff {first : Except ε α} {second : α → Except ε β} :
    Avoids bad (first >>= second) ↔
      Avoids bad first ∧ ∀ value, first = .ok value → Avoids bad (second value) := by
  cases first <;> simp

@[simp] theorem avoids_map_iff {first : Except ε α} {change : α → β} :
    Avoids bad (change <$> first) ↔ Avoids bad first := by
  cases first <;> simp [Functor.map, Except.map]

theorem avoids_mapError_iff {bad : ε' → Prop} {first : Except ε α} {change : ε → ε'} :
    Avoids bad (first.mapError change) ↔ Avoids (fun error => bad (change error)) first := by
  cases first <;> simp

theorem avoids_of_forall (h : ∀ error, ¬bad error) (result : Except ε α) : Avoids bad result :=
  fun error _ => h error

/-- What avoids every error ends well. -/
theorem exists_eq_ok_of_avoids {result : Except ε α} (h : Avoids (fun _ => True) result) :
    ∃ value, result = .ok value := by
  cases result with
  | error error => exact absurd trivial (h error rfl)
  | ok value => exact ⟨value, rfl⟩

theorem avoids_mapM {f : α → Except ε β} {list : List α} (h : ∀ x ∈ list, Avoids bad (f x)) :
    Avoids bad (list.mapM f) := by
  induction list with
  | nil => exact avoids_pure []
  | cons first rest ih =>
    obtain ⟨hfirst, hrest⟩ := List.forall_mem_cons.mp h
    simp [List.mapM_cons, hfirst, ih hrest]

end Avoids

end CrossShade
