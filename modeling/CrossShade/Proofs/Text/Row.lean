import CrossShade.Proofs.Text.Plain

/-!
# Rows of words

A line of a description is a row of words with a blank between any two of them.  It is found again
whether it is cut into words, cut at a colon that stands alone, or asked for its first word.

* `IsWord` is what can stand in a row; plain words can, and so can a colon.
* `isContent_intercalate` says that a row is the content of its line: nothing of it is trimmed, and
  it holds no comment and opens no section.
* `words_intercalate`, `cutAt?_intercalate` and `afterStart?_intercalate` take a row apart.
-/

namespace CrossShade.Text

variable {word other : List Char} {row before after : List (List Char)} {c : Char}

/-- A text that can stand in a row: not empty, without blanks and without number and percent
signs. -/
structure IsWord (word : List Char) : Prop where
  ne_nil : word ≠ []
  not_isBlank : ∀ c ∈ word, isBlank c = false
  not_sign : ∀ c ∈ word, c ≠ '#' ∧ c ≠ '%'

theorem IsPlain.isWord (h : IsPlain word) : IsWord word := by
  refine ⟨h.ne_nil, fun c hc => h.not_isBlank hc, ?_⟩
  intro c hc
  constructor
  · rintro rfl
    exact h.not_mem (by decide) hc
  · rintro rfl
    exact h.not_mem (by decide) hc

theorem isWord_colon : IsWord [':'] := by
  refine ⟨by simp, ?_, ?_⟩
  · intro c hc
    rw [List.mem_singleton.mp hc]
    decide
  · intro c hc
    rw [List.mem_singleton.mp hc]
    decide

theorem IsWord.hasNoEdge (h : IsWord word) : HasNoEdge word :=
  hasNoEdge_of_forall h.not_isBlank

/-- A text that is the content of its own line. -/
structure IsContent (line : List Char) : Prop where
  ne_nil : line ≠ []
  hasNoEdge : HasNoEdge line
  noFeed : '\n' ∉ line
  noComment : '#' ∉ line
  noHeader : line.head? ≠ some '%'

theorem HasNoEdge.noReturn (h : HasNoEdge word) : word.getLast? ≠ some '\r' := by
  intro hlast
  have hblank := h.stop '\r' hlast
  revert hblank
  decide

theorem IsContent.isLine (h : IsContent word) : IsLine word :=
  ⟨h.noFeed, h.hasNoEdge.noReturn⟩

/-! ## Rows as texts -/

theorem intercalate_ne_nil (hsome : row ≠ []) (h : ∀ word ∈ row, IsWord word) :
    [' '].intercalate row ≠ [] := by
  cases row with
  | nil => exact absurd rfl hsome
  | cons word more =>
    have hword := (h word (by simp)).ne_nil
    by_cases hmore : more = []
    · simpa [hmore] using hword
    · simp [List.intercalate_cons_of_ne_nil hmore, hword]

theorem head?_intercalate (h : word ≠ []) :
    ([' '].intercalate (word :: row)).head? = word.head? := by
  by_cases hrow : row = []
  · simp [hrow]
  · rw [List.intercalate_cons_of_ne_nil hrow, List.append_assoc]
    obtain ⟨c, rest, rfl⟩ := List.exists_cons_of_ne_nil h
    rfl

theorem not_mem_intercalate (hc : c ≠ ' ') (h : ∀ word ∈ row, c ∉ word) :
    c ∉ [' '].intercalate row := by
  induction row with
  | nil => simp
  | cons word more ih =>
    have hrest : c ∉ [' '].intercalate more := ih fun other hother => h other (by simp [hother])
    by_cases hmore : more = []
    · simpa [hmore] using h word (by simp)
    · rw [List.intercalate_cons_of_ne_nil hmore]
      simp [h word (by simp), hc, hrest]

theorem intercalate_append (hbefore : before ≠ []) (hafter : after ≠ []) :
    [' '].intercalate (before ++ after) =
      [' '].intercalate before ++ ' ' :: [' '].intercalate after := by
  induction before with
  | nil => exact absurd rfl hbefore
  | cons word more ih =>
    by_cases hmore : more = []
    · simp [hmore, List.intercalate_cons_of_ne_nil hafter]
    · rw [List.cons_append, List.intercalate_cons_of_ne_nil (by simp [hmore]), ih hmore,
        List.intercalate_cons_of_ne_nil hmore]
      simp

theorem hasNoEdge_intercalate (h : ∀ word ∈ row, IsWord word) :
    HasNoEdge ([' '].intercalate row) := by
  induction row with
  | nil => exact ⟨by simp, by simp⟩
  | cons word more ih =>
    have hword := h word (by simp)
    have hmore := fun other hother => h other (List.mem_cons_of_mem word hother)
    by_cases hsome : more = []
    · rw [hsome, List.intercalate_singleton]
      exact hword.hasNoEdge
    · rw [List.intercalate_cons_of_ne_nil hsome]
      exact hword.hasNoEdge.join (ih hmore) hword.ne_nil (intercalate_ne_nil hsome hmore) [' ']

/-- A row of words is the content of its line. -/
theorem isContent_intercalate (hsome : row ≠ []) (h : ∀ word ∈ row, IsWord word) :
    IsContent ([' '].intercalate row) := by
  refine ⟨intercalate_ne_nil hsome h, hasNoEdge_intercalate h, ?_, ?_, ?_⟩
  · refine not_mem_intercalate (by decide) ?_
    intro word hword hmem
    have hblank := (h word hword).not_isBlank '\n' hmem
    revert hblank
    decide
  · refine not_mem_intercalate (by decide) ?_
    intro word hword hmem
    exact ((h word hword).not_sign '#' hmem).1 rfl
  · cases row with
    | nil => exact absurd rfl hsome
    | cons word more =>
      have hword := h word (by simp)
      rw [head?_intercalate hword.ne_nil]
      intro hhead
      exact (hword.not_sign '%' (List.mem_of_head? hhead)).2 rfl

/-! ## Taking rows apart -/

theorem words_intercalate (h : ∀ word ∈ row, IsWord word) :
    words ([' '].intercalate row) = row := by
  induction row with
  | nil => simp
  | cons word more ih =>
    have hword := h word (by simp)
    have hone := words_eq_singleton hword.ne_nil hword.not_isBlank
    by_cases hsome : more = []
    · simp [hsome, hone]
    · rw [List.intercalate_cons_of_ne_nil hsome, List.append_assoc, List.singleton_append,
        words_append (by decide), hone, ih fun other hother => h other (by simp [hother])]
      rfl

/-- A row is cut at a word that is a mark alone. -/
theorem cutAt?_intercalate (hc : c ≠ ' ') (hbefore : before ≠ []) (hafter : after ≠ [])
    (h : ∀ word ∈ before, c ∉ word) :
    cutAt? c ([' '].intercalate (before ++ [c] :: after)) =
      some ([' '].intercalate before ++ [' '], ' ' :: [' '].intercalate after) := by
  have hshape : [' '].intercalate (before ++ [c] :: after) =
      ([' '].intercalate before ++ [' ']) ++ c :: (' ' :: [' '].intercalate after) := by
    rw [intercalate_append hbefore (by simp), List.intercalate_cons_of_ne_nil hafter]
    simp
  have hnot : c ∉ [' '].intercalate before ++ [' '] := by
    simp [not_mem_intercalate hc h, hc]
  rw [hshape, cutAt?_append hnot]

theorem afterStart?_intercalate (word : List Char) (hsome : row ≠ []) :
    afterStart? (word ++ [' ']) ([' '].intercalate (word :: row)) =
      some ([' '].intercalate row) := by
  rw [List.intercalate_cons_of_ne_nil hsome, afterStart?_append]

theorem afterStart?_intercalate_eq_none (hword : IsWord word) (hother : IsWord other)
    (hne : other ≠ word) (hsome : row ≠ []) :
    afterStart? (word ++ [' ']) ([' '].intercalate (other :: row)) = none := by
  have hblank : ∀ {text : List Char}, IsWord text → ' ' ∉ text := by
    intro text htext hmem
    have hspace := htext.not_isBlank ' ' hmem
    revert hspace
    decide
  rw [List.intercalate_cons_of_ne_nil hsome, List.append_assoc, List.singleton_append]
  exact afterStart?_eq_none (hblank hword) (hblank hother) hne

end CrossShade.Text
