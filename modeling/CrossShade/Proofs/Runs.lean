/-!
# Runs in a row

Registers, locations and places are handed out in the same way: things of different widths stand in
a row, and each gets as many numbers as it is wide, after the numbers of those before it.

* `runStart` is the first number of a thing and `runTotal` how many numbers there are.
* `runStart_add_width_le` and `add_width_le_runTotal` say that runs do not overlap and stay below
  the total, `exists_run` that no number is left out.
* `exists_runStart_filter` leaves out of the row what takes no numbers.
-/

namespace CrossShade

variable {α : Type}

/-- The first number of the element at an index. -/
def runStart (width : α → Nat) : (row : List α) → (index : Nat) → Nat
  | _, 0 => 0
  | [], _ + 1 => 0
  | x :: rest, i + 1 => width x + runStart width rest i

/-- How many numbers are handed out. -/
def runTotal (width : α → Nat) : (row : List α) → Nat
  | [] => 0
  | x :: rest => width x + runTotal width rest

variable {width : α → Nat} {row : List α} {x : α} {i j n : Nat}

@[simp] theorem runStart_zero (row : List α) : runStart width row 0 = 0 := by
  cases row <;> rfl

@[simp] theorem runStart_cons_succ (x : α) (rest : List α) (i : Nat) :
    runStart width (x :: rest) (i + 1) = width x + runStart width rest i := rfl

@[simp] theorem runTotal_nil : runTotal width [] = 0 := rfl

@[simp] theorem runTotal_cons (x : α) (rest : List α) :
    runTotal width (x :: rest) = width x + runTotal width rest := rfl

/-- The next run starts where one ends. -/
theorem runStart_succ (hx : row[i]? = some x) :
    runStart width row (i + 1) = runStart width row i + width x := by
  induction row generalizing i with
  | nil => simp at hx
  | cons first rest ih =>
    rw [runStart_cons_succ]
    cases i with
    | zero =>
      simp only [List.getElem?_cons_zero, Option.some.injEq] at hx
      simp [hx]
    | succ i =>
      rw [ih (by simpa using hx), runStart_cons_succ, Nat.add_assoc]

theorem runStart_length (row : List α) : runStart width row row.length = runTotal width row := by
  induction row with
  | nil => rfl
  | cons first rest ih => rw [List.length_cons, runStart_cons_succ, ih, runTotal_cons]

/-- A run ends before a later one starts. -/
theorem runStart_add_width_le (hx : row[i]? = some x) (hlt : i < j) :
    runStart width row i + width x ≤ runStart width row j := by
  induction row generalizing i j with
  | nil => simp at hx
  | cons first rest ih =>
    obtain ⟨j, rfl⟩ := Nat.exists_eq_succ_of_ne_zero (Nat.ne_zero_of_lt hlt)
    cases i with
    | zero =>
      simp only [List.getElem?_cons_zero, Option.some.injEq] at hx
      subst hx
      simp
    | succ i =>
      have hrest := ih (by simpa using hx) (Nat.lt_of_succ_lt_succ hlt)
      simp only [Nat.succ_eq_add_one, runStart_cons_succ]
      omega

/-- A run ends within the total. -/
theorem add_width_le_runTotal (hx : row[i]? = some x) :
    runStart width row i + width x ≤ runTotal width row := by
  induction row generalizing i with
  | nil => simp at hx
  | cons first rest ih =>
    cases i with
    | zero =>
      simp only [List.getElem?_cons_zero, Option.some.injEq] at hx
      subst hx
      simp
    | succ i =>
      have hrest := ih (by simpa using hx)
      simp only [runStart_cons_succ, runTotal_cons]
      omega

/-- Every number below the total is in a run. -/
theorem exists_run (hn : n < runTotal width row) :
    ∃ i x e, row[i]? = some x ∧ e < width x ∧ n = runStart width row i + e := by
  induction row generalizing n with
  | nil => simp at hn
  | cons first rest ih =>
    rw [runTotal_cons] at hn
    rcases Nat.lt_or_ge n (width first) with hfirst | hrest
    · exact ⟨0, first, n, rfl, hfirst, by simp⟩
    · obtain ⟨i, x, e, hx, he, hsame⟩ := ih (n := n - width first) (by omega)
      exact ⟨i + 1, x, e, by simpa using hx, he, by rw [runStart_cons_succ]; omega⟩

/-- Widths that agree give the same runs. -/
theorem runStart_congr {other : α → Nat} (h : ∀ x ∈ row, width x = other x) (i : Nat) :
    runStart width row i = runStart other row i := by
  induction row generalizing i with
  | nil => cases i <;> rfl
  | cons first rest ih =>
    cases i with
    | zero => simp
    | succ i =>
      rw [runStart_cons_succ, runStart_cons_succ, h first List.mem_cons_self,
        ih fun x hx => h x (List.mem_cons_of_mem _ hx)]

theorem runStart_map {β : Type} {width : β → Nat} (f : α → β) (row : List α) (i : Nat) :
    runStart width (row.map f) i = runStart (fun x => width (f x)) row i := by
  induction row generalizing i with
  | nil => cases i <;> rfl
  | cons first rest ih =>
    cases i with
    | zero => simp
    | succ i => rw [List.map_cons, runStart_cons_succ, runStart_cons_succ, ih]

/-- What takes no numbers can be left out of the row. -/
theorem exists_runStart_filter {keep : α → Bool} (hskip : ∀ x, keep x = false → width x = 0)
    (hx : row[i]? = some x) (hkeep : keep x = true) :
    ∃ k, (row.filter keep)[k]? = some x ∧
      runStart width row i = runStart width (row.filter keep) k := by
  induction row generalizing i with
  | nil => simp at hx
  | cons first rest ih =>
    cases i with
    | zero =>
      simp only [List.getElem?_cons_zero, Option.some.injEq] at hx
      subst hx
      exact ⟨0, by rw [List.filter_cons_of_pos hkeep, List.getElem?_cons_zero], by simp⟩
    | succ i =>
      obtain ⟨k, hk, hstart⟩ := ih (by simpa using hx)
      rw [runStart_cons_succ, hstart]
      cases hfirst : keep first with
      | true => exact ⟨k + 1, by simpa [hfirst] using hk, by simp [hfirst]⟩
      | false => exact ⟨k, by simpa [hfirst] using hk, by simp [hfirst, hskip first hfirst]⟩

end CrossShade
