import CrossShade.Proofs.Text.Cutting
import Mathlib.Data.List.Basic

/-!
# Changing one line of a text

A text with one of its lines changed has the lines of the text before and behind that line.

* `modifyLine` changes what lies between two line feeds.
* `exists_lineSplit` finds a line of a text between the whole lines before it and the rest.
* `lines_append` and `lines_line` say which lines a text has that is put together in this way.
* `exists_pieces_append` and `exists_words_append` are about a text that goes on within a word.
-/

namespace CrossShade.Text

variable {text before line after : List Char} {c : Char} {cut : Char → Bool} {k : Nat}

/-- A text with one of its lines, counted from zero, changed. -/
def modifyLine (k : Nat) (change : List Char → List Char) (text : List Char) : List Char :=
  ['\n'].intercalate ((pieces (· == '\n') text).modify k change)

/-! ## Putting pieces together -/

/-- Pieces with line feeds between them. -/
theorem intercalate_split (texts : List (List Char)) (line : List Char)
    (more : List (List Char)) :
    ['\n'].intercalate (texts ++ line :: more) =
      texts.flatMap (· ++ ['\n']) ++ line ++ more.flatMap ('\n' :: ·) := by
  induction texts with
  | nil =>
    induction more generalizing line with
    | nil => simp
    | cons next rest ih =>
      rw [List.nil_append, List.intercalate_cons_of_ne_nil (List.cons_ne_nil next rest),
        ← List.nil_append (next :: rest), ih next]
      simp
  | cons first rest ih =>
    rw [List.cons_append, List.intercalate_cons_of_ne_nil (by simp), ih]
    simp

theorem intercalate_pieces (text : List Char) :
    ['\n'].intercalate (pieces (· == '\n') text) = text := by
  induction text with
  | nil => rfl
  | cons c rest ih =>
    obtain ⟨piece, more, hpieces⟩ := List.exists_cons_of_ne_nil (pieces_ne_nil (· == '\n') rest)
    rw [hpieces] at ih
    rw [pieces, hpieces]
    have hfirst := intercalate_split [] piece more
    rw [List.nil_append, ih] at hfirst
    split
    · rename_i hfeed
      obtain rfl : c = '\n' := by simpa using hfeed
      rw [List.intercalate_cons_of_ne_nil (List.cons_ne_nil piece more), ih]
      rfl
    · have hlonger := intercalate_split [] (c :: piece) more
      rw [List.nil_append] at hlonger
      rw [hlonger, hfirst]
      simp

/-! ## Lines -/

theorem endedLines_append_of_ne_nil (texts : List (List Char)) {more : List (List Char)}
    (hmore : more ≠ []) : endedLines (texts ++ more) = texts.map dropReturn ++ endedLines more := by
  induction texts with
  | nil => rfl
  | cons line rest ih =>
    rw [List.cons_append, List.map_cons, List.cons_append, ← ih]
    have hsome : rest ++ more ≠ [] := List.append_ne_nil_of_right_ne_nil rest hmore
    obtain ⟨next, others, hothers⟩ := List.exists_cons_of_ne_nil hsome
    rw [hothers, endedLines]
    exact List.cons_ne_nil next others

/-- Behind whole lines a text goes on with its own lines. -/
theorem lines_append (hbefore : IsWhole before) (after : List Char) :
    lines (before ++ after) = lines before ++ lines after := by
  rcases hbefore with rfl | hlast
  · rfl
  · obtain ⟨opening, rfl⟩ := List.getLast?_eq_some_iff.mp hlast
    have hopened : lines (opening ++ ['\n']) = (pieces (· == '\n') opening).map dropReturn := by
      rw [lines, pieces_append (by rfl)]
      exact endedLines_append _
    rw [hopened, List.append_assoc, List.singleton_append, lines, pieces_append (by rfl),
      endedLines_append_of_ne_nil _ (pieces_ne_nil _ after)]
    rfl

theorem pieces_of_noFeed (hline : '\n' ∉ line) : pieces (· == '\n') line = [line] := by
  refine pieces_of_forall_not _ _ fun c hc => ?_
  have hne : c ≠ '\n' := fun hsame => hline (hsame ▸ hc)
  simpa using hne

/-- A line that is ended. -/
theorem lines_line (hline : '\n' ∉ line) (after : List Char) :
    lines (line ++ '\n' :: after) = dropReturn line :: lines after := by
  have hended : lines (line ++ ['\n']) = [dropReturn line] := by
    rw [lines, pieces_append (by rfl), pieces_of_noFeed hline]
    rfl
  rw [← List.singleton_append, ← List.append_assoc, lines_append (.inr (by simp)), hended]
  rfl

/-- A last line that is not ended. -/
theorem lines_last (hline : '\n' ∉ line) : lines line = if line.isEmpty then [] else [line] := by
  rw [lines, pieces_of_noFeed hline]
  rfl

theorem length_endedLines_le (texts : List (List Char)) :
    (endedLines texts).length ≤ texts.length := by
  fun_induction endedLines texts with
  | case1 => exact Nat.le_refl 0
  | case2 => exact Nat.zero_le 1
  | case3 => exact Nat.le_refl 1
  | case4 line more hmore ih => simpa using ih

/-- A line in its place: whole lines before it, and behind it nothing or a line feed. -/
structure LineSplit (text : List Char) (k : Nat) (before line after : List Char) : Prop where
  isWhole : IsWhole before
  length_lines : (lines before).length = k
  noFeed : '\n' ∉ line
  ended : after = [] ∨ ∃ rest, after = '\n' :: rest
  eq : text = before ++ line ++ after
  modify : ∀ change, modifyLine k change text = before ++ change line ++ after

/-- Every line has such a place. -/
theorem exists_lineSplit (hk : k < (lines text).length) :
    ∃ before line after, LineSplit text k before line after := by
  have hlt : k < (pieces (· == '\n') text).length :=
    Nat.lt_of_lt_of_le hk (length_endedLines_le _)
  have hpieces := List.take_append_drop k (pieces (· == '\n') text)
  rw [List.drop_eq_getElem_cons hlt] at hpieces
  have hnoFeed : ∀ piece ∈ pieces (· == '\n') text, '\n' ∉ piece := by
    intro piece hpiece hfeed
    have huncut := uncut_of_mem_pieces hpiece hfeed
    cases huncut
  refine ⟨((pieces (· == '\n') text).take k).flatMap (· ++ ['\n']),
    (pieces (· == '\n') text)[k], ((pieces (· == '\n') text).drop (k + 1)).flatMap ('\n' :: ·), {
      isWhole := isWhole_flatMap fun _ _ => .inr (by simp)
      length_lines := ?_
      noFeed := hnoFeed _ (List.getElem_mem hlt)
      ended := ?_
      eq := ?_
      modify := fun change => ?_ }⟩
  · have hbefore : ∀ piece ∈ (pieces (· == '\n') text).take k, '\n' ∉ piece :=
      fun piece hpiece => hnoFeed piece (List.mem_of_mem_take hpiece)
    have hfed := pieces_flatMap_append hbefore []
    rw [List.append_nil] at hfed
    rw [lines, hfed, pieces, endedLines_append, List.length_map, List.length_take]
    exact Nat.min_eq_left (Nat.le_of_lt hlt)
  · cases (pieces (· == '\n') text).drop (k + 1) with
    | nil => exact .inl rfl
    | cons next more => exact .inr ⟨_, rfl⟩
  · rw [← intercalate_split, hpieces, intercalate_pieces]
  · rw [← intercalate_split, modifyLine, List.modify_eq_take_cons_drop hlt]

/-! ## Within a word -/

/-- Pieces are parts of the text. -/
theorem subset_of_mem_pieces {piece : List Char} (h : piece ∈ pieces cut text) : piece ⊆ text := by
  induction text generalizing piece with
  | nil =>
    rw [pieces, List.mem_singleton] at h
    exact h ▸ List.Subset.refl []
  | cons c rest ih =>
    rw [pieces] at h
    split at h
    · rcases List.mem_cons.mp h with rfl | hmore
      · exact List.nil_subset (c :: rest)
      · exact List.subset_cons_of_subset c (ih hmore)
    · obtain ⟨first, more, hpieces⟩ := List.exists_cons_of_ne_nil (pieces_ne_nil cut rest)
      rw [hpieces] at h ih
      rcases List.mem_cons.mp h with rfl | hmore
      · exact List.cons_subset_cons c (ih List.mem_cons_self)
      · exact List.subset_cons_of_subset c (ih (List.mem_cons_of_mem first hmore))

theorem subset_of_mem_words {word : List Char} (h : word ∈ words text) : word ⊆ text :=
  subset_of_mem_pieces (List.mem_of_mem_filter h)

/-- Where a text goes on, its last piece goes on with the first piece of what follows. -/
theorem exists_pieces_append (cut : Char → Bool) (before : List Char) :
    ∃ earlier last, pieces cut before = earlier ++ [last] ∧
      ∀ after first more, pieces cut after = first :: more →
        pieces cut (before ++ after) = earlier ++ (last ++ first) :: more := by
  induction before with
  | nil => exact ⟨[], [], rfl, fun _ _ _ h => h⟩
  | cons c rest ih =>
    obtain ⟨earlier, last, hrest, hafter⟩ := ih
    by_cases hc : cut c = true
    · refine ⟨[] :: earlier, last, by simp [pieces, hc, hrest], fun after first more h => ?_⟩
      simp [pieces, hc, hafter after first more h]
    · cases earlier with
      | nil =>
        refine ⟨[], c :: last, by simp [pieces, hc, hrest], fun after first more h => ?_⟩
        simp [pieces, hc, hafter after first more h]
      | cons piece others =>
        refine ⟨(c :: piece) :: others, last, by simp [pieces, hc, hrest],
          fun after first more h => ?_⟩
        simp [pieces, hc, hafter after first more h]

/-- A text that goes on with a character that is not blank: all words but the last stay, and that
one, if there is one, begins the word with this character.  What stands behind the character ends
this word. -/
theorem exists_words_append (hc : isBlank c = false) (before after : List Char) :
    ∃ earlier part rest more,
      words (before ++ c :: after) = earlier ++ (part ++ c :: rest) :: more ∧
      words before = earlier ++ [part].filter (!·.isEmpty) ∧
      words after = [rest].filter (!·.isEmpty) ++ more := by
  obtain ⟨earlier, last, hbefore, hgoes⟩ := exists_pieces_append isBlank before
  obtain ⟨first, more, hafter⟩ := List.exists_cons_of_ne_nil (pieces_ne_nil isBlank after)
  have hpieces : pieces isBlank (c :: after) = (c :: first) :: more := by
    simp [pieces, hc, hafter]
  refine ⟨earlier.filter (!·.isEmpty), last, first, more.filter (!·.isEmpty), ?_, ?_, ?_⟩
  · rw [words, hgoes _ _ _ hpieces]
    simp
  · rw [words, hbefore, List.filter_append]
  · rw [words, hafter, ← List.singleton_append, List.filter_append]

end CrossShade.Text
