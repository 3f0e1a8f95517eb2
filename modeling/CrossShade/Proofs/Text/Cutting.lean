import CrossShade.Text.Split
import Mathlib.Data.List.TakeWhile

/-!
# Cutting texts that were put together

A text that was put together from parts falls into these parts again when it is trimmed, cut into
words, cut at a mark or cut into lines, as long as the parts do not contain what it is cut at.

* Trimming: `HasNoEdge` is what trimming leaves alone (`trim_eq_self_iff`), and blanks at the ends
  do not matter.
* Words: `runs` are the pieces that are not empty, and words are those between blanks:
  `words_append` and `words_eq_singleton`.
* Marks: `takeWhile_of_not_mem`, `cutAt?_append`, `cutAt?_eq_none` and `afterStart?_eq_none`.
* Lines: `IsLine` is a text that can be one, and `lines_flatMap` finds the lines again;
  `infix_pieces` finds them between other lines.
-/

namespace CrossShade.Text

variable {text before after : List Char} {c : Char}

/-! ## Trimming -/

/-- A text that neither begins nor ends with a blank. -/
structure HasNoEdge (text : List Char) : Prop where
  start : ∀ c ∈ text.head?, isBlank c = false
  stop : ∀ c ∈ text.getLast?, isBlank c = false

theorem hasNoEdge_of_forall (h : ∀ c ∈ text, isBlank c = false) : HasNoEdge text :=
  ⟨fun c hc => h c (List.mem_of_head? hc), fun c hc => h c (List.mem_of_getLast? hc)⟩

theorem trimStart_eq_self (h : ∀ c ∈ text.head?, isBlank c = false) : trimStart text = text := by
  cases text with
  | nil => rfl
  | cons c rest =>
    have hc : isBlank c = false := h c rfl
    simp [trimStart, hc]

theorem trimEnd_eq_self (h : ∀ c ∈ text.getLast?, isBlank c = false) : trimEnd text = text := by
  have hstart : trimStart text.reverse = text.reverse := by
    refine trimStart_eq_self ?_
    rwa [List.head?_reverse]
  rw [trimEnd, ← trimStart, hstart, List.reverse_reverse]

/-- A text without blanks at its ends stays as it is. -/
theorem HasNoEdge.trim (h : HasNoEdge text) : Text.trim text = text := by
  rw [Text.trim, trimStart_eq_self h.start, trimEnd_eq_self h.stop]

/-- Blanks before a text do not matter. -/
theorem trim_cons (h : isBlank c = true) : trim (c :: text) = trim text := by
  simp [trim, trimStart, h]

theorem trimEnd_append (h : isBlank c = true) : trimEnd (text ++ [c]) = trimEnd text := by
  simp [trimEnd, h]

/-- Blanks behind a text do not matter. -/
theorem trim_append (h : isBlank c = true) : trim (text ++ [c]) = trim text := by
  unfold trim trimStart
  rw [List.dropWhile_append]
  split
  · rename_i hnone
    rw [List.isEmpty_iff] at hnone
    simp [hnone, h]
  · exact trimEnd_append h

theorem not_isBlank_of_mem_head?_trimStart (text : List Char) (h : c ∈ (trimStart text).head?) :
    isBlank c = false := by
  have hhead := List.head?_dropWhile_not isBlank text
  rw [← trimStart, h] at hhead
  exact hhead

/-- What is left after trimming has no blanks at its ends. -/
theorem hasNoEdge_trim (text : List Char) : HasNoEdge (trim text) := by
  constructor
  · intro c hc
    have hprefix : trimEnd (trimStart text) <+: trimStart text := by
      rw [← List.reverse_suffix, trimEnd, List.reverse_reverse]
      exact List.dropWhile_suffix isBlank
    obtain ⟨rest, hrest⟩ := hprefix
    refine not_isBlank_of_mem_head?_trimStart text ?_
    rw [← hrest]
    cases htrim : trimEnd (trimStart text) with
    | nil => simp [trim, htrim] at hc
    | cons first more => simpa [trim, htrim] using hc
  · intro c hc
    rw [trim, trimEnd, List.getLast?_reverse] at hc
    exact not_isBlank_of_mem_head?_trimStart (trimStart text).reverse hc

/-- So only such a text stays as it is when it is trimmed. -/
theorem trim_eq_self_iff : trim text = text ↔ HasNoEdge text := by
  constructor
  · intro h
    exact h ▸ hasNoEdge_trim text
  · exact HasNoEdge.trim

/-- Only the outer ends count. -/
theorem HasNoEdge.join (hbefore : HasNoEdge before) (hafter : HasNoEdge after)
    (hfirst : before ≠ []) (hlast : after ≠ []) (middle : List Char) :
    HasNoEdge (before ++ middle ++ after) := by
  constructor
  · intro c hc
    refine hbefore.start c ?_
    obtain ⟨d, rest, rfl⟩ := List.exists_cons_of_ne_nil hfirst
    exact hc
  · intro c hc
    refine hafter.stop c ?_
    rw [List.getLast?_append, List.getLast?_eq_some_getLast hlast] at hc
    rwa [List.getLast?_eq_some_getLast hlast]

/-! ## Words -/

/-- Cutting falls apart at a cut. -/
theorem pieces_append {cut : Char → Bool} (hc : cut c = true) (before after : List Char) :
    pieces cut (before ++ c :: after) = pieces cut before ++ pieces cut after := by
  induction before with
  | nil => simp [pieces, hc]
  | cons d rest ih =>
    by_cases hd : cut d = true
    · simp [pieces, hd, ih]
    · simp only [List.cons_append, pieces, hd, ih]
      have hsome := pieces_ne_nil cut rest
      cases hpieces : pieces cut rest with
      | nil => exact absurd hpieces hsome
      | cons piece more => simp

/-- The pieces of a text that are not empty. -/
def runs (cut : Char → Bool) (text : List Char) : List (List Char) :=
  (pieces cut text).filter (!·.isEmpty)

theorem runs_append {cut : Char → Bool} (hc : cut c = true) (before after : List Char) :
    runs cut (before ++ c :: after) = runs cut before ++ runs cut after := by
  rw [runs, pieces_append hc, List.filter_append]
  rfl

theorem runs_cons {cut : Char → Bool} (hc : cut c = true) (after : List Char) :
    runs cut (c :: after) = runs cut after :=
  runs_append hc [] after

/-- A text without a cut is one run. -/
theorem runs_eq_singleton {cut : Char → Bool} (hsome : text ≠ [])
    (h : ∀ c ∈ text, cut c = false) : runs cut text = [text] := by
  rw [runs, pieces_of_forall_not cut text h]
  simp [hsome]

/-- The words before and after a blank. -/
theorem words_append (hc : isBlank c = true) (before after : List Char) :
    words (before ++ c :: after) = words before ++ words after :=
  runs_append hc before after

@[simp] theorem words_nil : words [] = [] := rfl

/-- A text without blanks is one word. -/
theorem words_eq_singleton (hsome : text ≠ []) (h : ∀ c ∈ text, isBlank c = false) :
    words text = [text] :=
  runs_eq_singleton hsome h

/-! ## Marks -/

/-- Up to a mark that does not occur stands the whole text. -/
theorem takeWhile_of_not_mem (h : c ∉ text) : text.takeWhile (· ≠ c) = text := by
  rw [List.takeWhile_eq_self_iff]
  exact fun d hd => decide_eq_true fun hsame => h (hsame ▸ hd)

/-- A text is cut at the first character of a class. -/
theorem cutWhere?_eq_some_iff {cut : Char → Bool} : cutWhere? cut text = some (before, after) ↔
    ∃ c, cut c = true ∧ text = before ++ c :: after ∧ ∀ d ∈ before, cut d = false := by
  constructor
  · intro h
    unfold cutWhere? at h
    split at h
    · cases h
    · rename_i c rest hrest
      simp only [Option.some.injEq, Prod.mk.injEq] at h
      obtain ⟨rfl, rfl⟩ := h
      have hhead := List.head?_dropWhile_not (fun d => !cut d) text
      rw [hrest] at hhead
      refine ⟨c, by simpa using hhead, ?_, fun d hd => by simpa using List.mem_takeWhile_imp hd⟩
      rw [← hrest, List.takeWhile_append_dropWhile]
  · rintro ⟨c, hc, rfl, hbefore⟩
    have hall : ∀ d ∈ before, (!cut d) = true := by simpa using hbefore
    unfold cutWhere?
    rw [List.dropWhile_append_of_pos hall, List.takeWhile_append_of_pos hall]
    simp [hc]

theorem cutWhere?_eq_none_iff {cut : Char → Bool} :
    cutWhere? cut text = none ↔ ∀ c ∈ text, cut c = false := by
  unfold cutWhere?
  split
  · rename_i hrest
    simpa using hrest
  · rename_i c rest hrest
    have hmem : c ∈ text := (List.dropWhile_suffix _).subset (hrest ▸ List.mem_cons_self)
    have hhead := List.head?_dropWhile_not (fun d => !cut d) text
    rw [hrest] at hhead
    simp only [reduceCtorEq, false_iff]
    exact fun hnone => absurd (hnone c hmem) (by simpa using hhead)

theorem cutAt?_append (h : c ∉ before) (after : List Char) :
    cutAt? c (before ++ c :: after) = some (before, after) := by
  refine cutWhere?_eq_some_iff.mpr ⟨c, beq_self_eq_true c, rfl, fun d hd => ?_⟩
  exact beq_eq_false_iff_ne.mpr fun hsame => h (hsame ▸ hd)

theorem cutAt?_eq_none (h : c ∉ text) : cutAt? c text = none :=
  cutWhere?_eq_none_iff.mpr fun _ hd => beq_eq_false_iff_ne.mpr fun hsame => h (hsame ▸ hd)

/-- A text that begins with another word does not begin with this one. -/
theorem afterStart?_eq_none {word other rest : List Char} (hword : c ∉ word) (hother : c ∉ other)
    (hne : other ≠ word) : afterStart? (word ++ [c]) (other ++ c :: rest) = none := by
  cases hfound : afterStart? (word ++ [c]) (other ++ c :: rest) with
  | none => rfl
  | some more =>
    have hsame := eq_append_of_afterStart? hfound
    rw [List.append_assoc, List.singleton_append] at hsame
    have hcut := cutAt?_append hother rest
    rw [hsame, cutAt?_append hword] at hcut
    simp only [Option.some.injEq, Prod.mk.injEq] at hcut
    exact absurd hcut.1.symm hne

/-! ## Lines -/

/-- A text that is a line when it is ended by a line feed. -/
structure IsLine (text : List Char) : Prop where
  noFeed : '\n' ∉ text
  noReturn : text.getLast? ≠ some '\r'

instance : Decidable (IsLine text) :=
  decidable_of_iff ('\n' ∉ text ∧ text.getLast? ≠ some '\r')
    ⟨fun h => ⟨h.1, h.2⟩, fun h => ⟨h.noFeed, h.noReturn⟩⟩

theorem dropReturn_eq_self (h : text.getLast? ≠ some '\r') : dropReturn text = text := by
  simp [dropReturn, h]

theorem endedLines_append (texts : List (List Char)) :
    endedLines (texts ++ [[]]) = texts.map dropReturn := by
  induction texts with
  | nil => rfl
  | cons line more ih =>
    cases more with
    | nil => rfl
    | cons next rest =>
      simp only [List.cons_append, endedLines, List.map_cons] at ih ⊢
      rw [ih]

/-- Dropping a carriage return that was added leaves the line. -/
theorem dropReturn_append (text : List Char) : dropReturn (text ++ ['\r']) = text := by
  simp [dropReturn]

theorem dropReturn_subset (text : List Char) : dropReturn text ⊆ text := by
  unfold dropReturn
  split
  · exact List.dropLast_subset text
  · exact List.Subset.refl text

/-- Pieces are what lies between the cuts. -/
theorem uncut_of_mem_pieces {cut : Char → Bool} {piece : List Char} (h : piece ∈ pieces cut text)
    (hc : c ∈ piece) : cut c = false := by
  induction text generalizing piece with
  | nil =>
    rw [pieces, List.mem_singleton] at h
    subst h
    cases hc
  | cons d rest ih =>
    rw [pieces] at h
    split at h
    · rcases List.mem_cons.mp h with rfl | hmore
      · cases hc
      · exact ih hmore hc
    · rename_i hd
      cases hpieces : pieces cut rest with
      | nil => exact absurd hpieces (pieces_ne_nil cut rest)
      | cons first more =>
        rw [hpieces] at h ih
        rcases List.mem_cons.mp h with rfl | hmore
        · rcases List.mem_cons.mp hc with rfl | hfirst
          · exact Bool.eq_false_iff.mpr hd
          · exact ih List.mem_cons_self hfirst
        · exact ih (List.mem_cons_of_mem first hmore) hc

/-- A line that is left when lines were ended is part of a piece. -/
theorem exists_of_mem_endedLines {texts : List (List Char)} {line : List Char}
    (h : line ∈ endedLines texts) : ∃ piece ∈ texts, line ⊆ piece := by
  fun_induction endedLines texts with
  | case1 => cases h
  | case2 => cases h
  | case3 last hsome =>
    rw [List.mem_singleton] at h
    exact ⟨last, List.mem_singleton_self last, h ▸ List.Subset.refl line⟩
  | case4 first more hmore ih =>
    rcases List.mem_cons.mp h with rfl | hrest
    · exact ⟨first, List.mem_cons_self, dropReturn_subset first⟩
    · obtain ⟨piece, hpiece, hline⟩ := ih hrest
      exact ⟨piece, List.mem_cons_of_mem first hpiece, hline⟩

/-- Lines have no line feed in them. -/
theorem noFeed_of_mem_lines {line : List Char} (h : line ∈ lines text) : '\n' ∉ line := by
  intro hfeed
  obtain ⟨piece, hpiece, hline⟩ := exists_of_mem_endedLines h
  have huncut := uncut_of_mem_pieces hpiece (hline hfeed)
  cases huncut

/-- Lines that are each ended by a line feed are the first pieces between line feeds. -/
theorem pieces_flatMap_append {texts : List (List Char)} (h : ∀ line ∈ texts, '\n' ∉ line)
    (after : List Char) : pieces (· == '\n') (texts.flatMap (· ++ ['\n']) ++ after) =
      texts ++ pieces (· == '\n') after := by
  induction texts with
  | nil => rfl
  | cons line more ih =>
    have hline : ∀ c ∈ line, (c == '\n') = false := by
      intro c hc
      have hne : c ≠ '\n' := fun hsame => h line List.mem_cons_self (hsame ▸ hc)
      simpa using hne
    rw [List.flatMap_cons, List.append_assoc, List.append_assoc, List.singleton_append,
      pieces_append (by rfl), pieces_of_forall_not _ line hline,
      ih fun other hother => h other (List.mem_cons_of_mem _ hother)]
    rfl

/-- So they fall apart into these lines. -/
theorem lines_flatMap {texts : List (List Char)} (h : ∀ line ∈ texts, IsLine line) :
    lines (texts.flatMap (· ++ ['\n'])) = texts := by
  have hpieces := pieces_flatMap_append (fun line hline => (h line hline).noFeed) []
  rw [List.append_nil] at hpieces
  rw [lines, hpieces]
  refine (endedLines_append texts).trans ?_
  conv => rhs; rw [← List.map_id texts]
  exact List.map_congr_left fun line hline => dropReturn_eq_self (h line hline).noReturn

/-- Any lines without line feeds are the lines of a text in which two carriage returns and a line
feed end each of them: one return goes with the line feed, the other with the line. -/
theorem map_dropReturn_lines {texts : List (List Char)} (h : ∀ line ∈ texts, '\n' ∉ line) :
    (lines ((texts.map (· ++ ['\r', '\r'])).flatMap (· ++ ['\n']))).map dropReturn = texts := by
  have hnoFeed : ∀ line ∈ texts.map (· ++ ['\r', '\r']), '\n' ∉ line := by
    intro line hline
    obtain ⟨text, htext, rfl⟩ := List.mem_map.mp hline
    simpa using h text htext
  have hpieces := pieces_flatMap_append hnoFeed []
  rw [List.append_nil] at hpieces
  rw [lines, hpieces, pieces, endedLines_append, List.map_map, List.map_map]
  conv => rhs; rw [← List.map_id texts]
  refine List.map_congr_left fun line _ => ?_
  show dropReturn (dropReturn (line ++ (['\r'] ++ ['\r']))) = line
  rw [← List.append_assoc, dropReturn_append, dropReturn_append]

/-- A text of whole lines: it is empty or ends in a line feed. -/
def IsWhole (text : List Char) : Prop :=
  text = [] ∨ text.getLast? = some '\n'

theorem isWhole_nil : IsWhole [] :=
  .inl rfl

theorem IsWhole.append (hbefore : IsWhole before) (hafter : IsWhole after) :
    IsWhole (before ++ after) := by
  rcases hafter with rfl | hlast
  · rwa [List.append_nil]
  · right
    rw [List.getLast?_append, hlast]
    rfl

theorem isWhole_flatMap {α : Type} {list : List α} {text : α → List Char}
    (h : ∀ x ∈ list, IsWhole (text x)) : IsWhole (list.flatMap text) := by
  induction list with
  | nil => exact isWhole_nil
  | cons x rest ih =>
    exact (h x List.mem_cons_self).append (ih fun y hy => h y (List.mem_cons_of_mem _ hy))

/-- Lines between whole lines and anything else are pieces between line feeds. -/
theorem infix_pieces {texts : List (List Char)} (hbefore : IsWhole before)
    (h : ∀ line ∈ texts, '\n' ∉ line) (after : List Char) :
    texts <:+: pieces (· == '\n') (before ++ texts.flatMap (· ++ ['\n']) ++ after) := by
  rw [List.append_assoc]
  rcases hbefore with rfl | hlast
  · rw [List.nil_append, pieces_flatMap_append h]
    exact (List.prefix_append ..).isInfix
  · obtain ⟨opening, rfl⟩ := List.getLast?_eq_some_iff.mp hlast
    rw [List.append_assoc, List.singleton_append, pieces_append (by rfl), pieces_flatMap_append h,
      ← List.append_assoc]
    exact List.infix_append ..

end CrossShade.Text
