import CrossShade.Proofs.Text.LineChanges
import Mathlib.Data.List.Induction

/-!
# Texts with the same words

Whoever cuts a text at marks and trims the parts, or cuts it into words, sees the words of the text
and not the blanks between them.

* `words_trim` and `words_replaced` say which changes keep the words of a text.
* `words_cutAt?` says that texts with the same words are cut at a mark into parts with the same
  words, and `words_takeWhile` and `words_dropLast` say the like of other ways to cut.
* `trim_eq_or_hasBlank` says what trimming leaves of them: the same text, or texts with blanks.
-/

namespace CrossShade.Text

variable {text first second line other before after word : List Char} {c d : Char}

/-! ## Blanks that play no part -/

theorem words_eq_nil_iff : words text = [] ↔ ∀ c ∈ text, isBlank c = true := by
  induction text with
  | nil => simp
  | cons c rest ih =>
    cases hc : isBlank c with
    | true => rw [words, ← runs, runs_cons hc, runs, ← words, ih, List.forall_mem_cons]; simp [hc]
    | false =>
      obtain ⟨earlier, part, last, more, hwords, -, -⟩ := exists_words_append hc [] rest
      rw [List.nil_append] at hwords
      simp [hwords, hc]

/-- Blanks before a text belong to no word. -/
theorem words_trimStart (text : List Char) : words (trimStart text) = words text := by
  induction text with
  | nil => rfl
  | cons c rest ih =>
    cases hc : isBlank c with
    | true =>
      rw [trimStart, List.dropWhile_cons_of_pos hc, ← trimStart, ih]
      exact (runs_cons hc rest).symm
    | false => rw [trimStart, List.dropWhile_cons_of_neg (by simp [hc])]

/-- Nor do blanks behind it. -/
theorem words_trimEnd (text : List Char) : words (trimEnd text) = words text := by
  induction text using List.reverseRecOn with
  | nil => rfl
  | append_singleton before c ih =>
    cases hc : isBlank c with
    | true => rw [trimEnd_append hc, ih, words_append hc, words_nil, List.append_nil]
    | false =>
      rw [trimEnd_eq_self]
      simpa using hc

theorem words_trim (text : List Char) : words (trim text) = words text := by
  rw [trim, words_trimEnd, words_trimStart]

/-- Any blanks, one at least, do between two parts of a text. -/
theorem words_replaced {run replacement : List Char} (hrun : run ≠ [])
    (hblank : ∀ c ∈ run, isBlank c = true) (hreplacement : replacement ≠ [])
    (hblanks : ∀ c ∈ replacement, isBlank c = true) (before after : List Char) :
    words (before ++ replacement ++ after) = words (before ++ run ++ after) := by
  have hwords : ∀ blanks : List Char, blanks ≠ [] → (∀ c ∈ blanks, isBlank c = true) →
      words (before ++ blanks ++ after) = words before ++ words after := by
    intro blanks hsome hall
    obtain ⟨c, rest, rfl⟩ := List.exists_cons_of_ne_nil hsome
    obtain ⟨hc, hrest⟩ := List.forall_mem_cons.mp hall
    have hafter : words (rest ++ after) = words after := by
      rw [← words_trimStart, trimStart, List.dropWhile_append_of_pos hrest, ← trimStart,
        words_trimStart]
    rw [List.append_assoc, List.cons_append, words_append hc, hafter]
  rw [hwords run hrun hblank, hwords replacement hreplacement hblanks]

/-! ## Words of trimmed texts -/

theorem HasNoEdge.eq_nil (h : HasNoEdge text) (hwords : words text = []) : text = [] := by
  cases text with
  | nil => rfl
  | cons c rest =>
    have hblank := words_eq_nil_iff.mp hwords c List.mem_cons_self
    rw [h.start c rfl] at hblank
    cases hblank

/-- A blank in a trimmed text stands between two words. -/
theorem HasNoEdge.two_le_length (h : HasNoEdge text) (hc : c ∈ text) (hblank : isBlank c = true) :
    2 ≤ (words text).length := by
  obtain ⟨before, after, rfl⟩ := List.append_of_mem hc
  have hedge : ∀ {part : List Char} {d : Char}, d ∈ part → isBlank d = false → words part ≠ [] := by
    intro part d hd hplain hnone
    rw [words_eq_nil_iff.mp hnone d hd] at hplain
    cases hplain
  have hbefore : words before ≠ [] := by
    cases before with
    | nil =>
      have hstart := h.start c rfl
      rw [hblank] at hstart
      cases hstart
    | cons d rest => exact hedge List.mem_cons_self (h.start d rfl)
  have hafter : words after ≠ [] := by
    rcases List.eq_nil_or_concat' after with rfl | ⟨rest, d, rfl⟩
    · have hstop := h.stop c (by simp)
      rw [hblank] at hstop
      cases hstop
    · have hlast : (before ++ c :: (rest ++ [d])).getLast? = some d := by
        rw [← List.cons_append, ← List.append_assoc, List.getLast?_concat]
      exact hedge (List.mem_append_right rest List.mem_cons_self) (h.stop d hlast)
  rw [words_append hblank, List.length_append]
  have hbeforeLength := List.length_pos_iff.mpr hbefore
  have hafterLength := List.length_pos_iff.mpr hafter
  omega

/-- Of texts with the same words trimming leaves the same, or there are blanks left in both. -/
theorem trim_eq_or_hasBlank (h : words first = words second) :
    trim first = trim second ∨
      (∃ c ∈ trim first, isBlank c = true) ∧ ∃ c ∈ trim second, isBlank c = true := by
  have hwords : words (trim first) = words (trim second) := by rw [words_trim, words_trim, h]
  -- A trimmed text without blanks is its only word.
  have hplain : ∀ {text other : List Char}, HasNoEdge text → HasNoEdge other →
      words text = words other → (¬∃ c ∈ text, isBlank c = true) → text = other := by
    intro text other htext hother hsame hnone
    have hall : ∀ c ∈ text, isBlank c = false := by simpa using hnone
    by_cases hempty : text = []
    · subst hempty
      exact (hother.eq_nil hsame.symm).symm
    · have hone := words_eq_singleton hempty hall
      have hclear : ∀ c ∈ other, isBlank c = false := by
        intro c hc
        by_contra hblank
        have htwo := hother.two_le_length hc (by simpa using hblank)
        rw [← hsame, hone] at htwo
        simp at htwo
      have hsome : other ≠ [] := by
        rintro rfl
        rw [hone] at hsame
        cases hsame
      rw [hone, words_eq_singleton hsome hclear] at hsame
      exact List.singleton_inj.mp hsame
  by_cases hfirst : ∃ c ∈ trim first, isBlank c = true
  · by_cases hsecond : ∃ c ∈ trim second, isBlank c = true
    · exact .inr ⟨hfirst, hsecond⟩
    · exact .inl (hplain (hasNoEdge_trim _) (hasNoEdge_trim _) hwords.symm hsecond).symm
  · exact .inl (hplain (hasNoEdge_trim _) (hasNoEdge_trim _) hwords hfirst)

/-! ## Cutting -/

/-- Two ways to put a list together are one if both part at the first element of a kind. -/
theorem append_cons_inj {α : Type} {p : α → Bool} {earlier others : List α} {x y : α}
    {more rest : List α} (hearlier : ∀ e ∈ earlier, p e = true) (hx : p x = false)
    (hothers : ∀ e ∈ others, p e = true) (hy : p y = false)
    (h : earlier ++ x :: more = others ++ y :: rest) : earlier = others ∧ x = y ∧ more = rest := by
  have hlists : ∀ {list : List α} {e : α}, (∀ e ∈ list, p e = true) → p e = false →
      ∀ tail, (list ++ e :: tail).takeWhile p = list := by
    intro list e hall he tail
    rw [List.takeWhile_append_of_pos hall, List.takeWhile_cons_of_neg (by simp [he]),
      List.append_nil]
  have hsame := hlists hearlier hx more
  rw [h, hlists hothers hy] at hsame
  subst hsame
  obtain ⟨hxy, hmore⟩ := List.cons.inj (List.append_cancel_left h)
  exact ⟨rfl, hxy, hmore⟩

theorem mem_iff_of_words (hc : isBlank c = false) : c ∈ text ↔ ∃ word ∈ words text, c ∈ word := by
  constructor
  · intro hmem
    obtain ⟨before, after, rfl⟩ := List.append_of_mem hmem
    obtain ⟨earlier, part, rest, more, hwords, -, -⟩ := exists_words_append hc before after
    exact ⟨part ++ c :: rest, by simp [hwords], by simp⟩
  · rintro ⟨word, hword, hmem⟩
    exact subset_of_mem_words hword hmem

/-- The character that a text is cut at stands in none of the words before it. -/
theorem not_mem_of_words {before part : List Char} {earlier : List (List Char)}
    (hbefore : c ∉ before) (h : words before = earlier ++ [part].filter (!·.isEmpty)) :
    (∀ word ∈ earlier, c ∉ word) ∧ c ∉ part := by
  constructor
  · intro word hword hmem
    exact hbefore (subset_of_mem_words (h ▸ List.mem_append_left _ hword) hmem)
  · intro hmem
    have hsome : part ∈ [part].filter (!·.isEmpty) := by
      simp [List.ne_nil_of_mem hmem]
    exact hbefore (subset_of_mem_words (h ▸ List.mem_append_right _ hsome) hmem)

theorem mem_congr (hc : isBlank c = false) (h : words first = words second) :
    c ∈ first ↔ c ∈ second := by
  rw [mem_iff_of_words hc, h, ← mem_iff_of_words hc]

/-- Texts with the same words that are parted at the first character of a kind, which is not blank,
have the same words before it and behind it. -/
theorem words_parted {start stop : List Char} (hc : isBlank c = false) (hbefore : c ∉ before)
    (hstart : c ∉ start) (h : words (before ++ c :: after) = words (start ++ c :: stop)) :
    words before = words start ∧ words after = words stop := by
  obtain ⟨earlier, part, rest, more, hwords, hfront, hback⟩ := exists_words_append hc before after
  obtain ⟨others, piece, tail, most, hothers, hfront', hback'⟩ := exists_words_append hc start stop
  obtain ⟨hearlier, hpart⟩ := not_mem_of_words hbefore hfront
  obtain ⟨hother, hpiece⟩ := not_mem_of_words hstart hfront'
  rw [hwords, hothers] at h
  -- First the word with the character is found, then the character in this word.
  obtain ⟨rfl, hword, rfl⟩ := append_cons_inj (p := fun word => decide (c ∉ word))
    (fun word hword => decide_eq_true (hearlier word hword)) (by simp)
    (fun word hword => decide_eq_true (hother word hword)) (by simp) h
  obtain ⟨rfl, -, rfl⟩ := append_cons_inj (p := fun d => decide (d ≠ c))
    (fun d hd => decide_eq_true fun hsame => hpart (hsame ▸ hd)) (by simp)
    (fun d hd => decide_eq_true fun hsame => hpiece (hsame ▸ hd)) (by simp) hword
  exact ⟨hfront.trans hfront'.symm, hback.trans hback'.symm⟩

/-- Texts with the same words are cut at a mark into parts with the same words, or both have no such
mark. -/
theorem words_cutAt? (hc : isBlank c = false) (h : words first = words second) :
    cutAt? c first = none ∧ cutAt? c second = none ∨
      ∃ before after start stop, cutAt? c first = some (before, after) ∧
        cutAt? c second = some (start, stop) ∧ words before = words start ∧
        words after = words stop := by
  by_cases hmem : c ∈ first
  · have hother : c ∈ second := (mem_congr hc h).mp hmem
    obtain ⟨before, after, rfl, hbefore⟩ := List.eq_append_cons_of_mem hmem
    obtain ⟨start, stop, rfl, hstart⟩ := List.eq_append_cons_of_mem hother
    exact .inr ⟨before, after, start, stop, cutAt?_append hbefore after,
      cutAt?_append hstart stop, words_parted hc hbefore hstart h⟩
  · have hother : c ∉ second := (mem_congr hc h).not.mp hmem
    exact .inl ⟨cutAt?_eq_none hmem, cutAt?_eq_none hother⟩

/-- They have the same words up to the mark. -/
theorem words_takeWhile (hc : isBlank c = false) (h : words first = words second) :
    words (first.takeWhile (· ≠ c)) = words (second.takeWhile (· ≠ c)) := by
  have hcut : ∀ {before after : List Char}, c ∉ before →
      (before ++ c :: after).takeWhile (· ≠ c) = before := by
    intro before after hbefore
    rw [List.takeWhile_append_of_pos (List.takeWhile_eq_self_iff.mp (takeWhile_of_not_mem hbefore))]
    simp
  by_cases hmem : c ∈ first
  · have hother : c ∈ second := (mem_congr hc h).mp hmem
    obtain ⟨before, after, rfl, hbefore⟩ := List.eq_append_cons_of_mem hmem
    obtain ⟨start, stop, rfl, hstart⟩ := List.eq_append_cons_of_mem hother
    rw [hcut hbefore, hcut hstart]
    exact (words_parted hc hbefore hstart h).1
  · rwa [takeWhile_of_not_mem hmem, takeWhile_of_not_mem ((mem_congr hc h).not.mp hmem)]

/-- Texts with the same words that do not end in blanks end in the same character, and have the same
words without it. -/
theorem words_dropLast (hfirst : ∀ d ∈ first.getLast?, isBlank d = false)
    (hsecond : ∀ d ∈ second.getLast?, isBlank d = false) (h : words first = words second) :
    first.getLast? = second.getLast? ∧ words first.dropLast = words second.dropLast := by
  have hnil : ∀ {text : List Char}, (∀ d ∈ text.getLast?, isBlank d = false) → words text = [] →
      text = [] := by
    intro text hlast hwords
    cases hend : text.getLast? with
    | none => exact List.getLast?_eq_none_iff.mp hend
    | some d =>
      have hblank := words_eq_nil_iff.mp hwords d (List.mem_of_getLast? hend)
      rw [hlast d hend] at hblank
      cases hblank
  have hends : ∀ (text : List Char) (d : Char), isBlank d = false → ∃ earlier part,
      words (text ++ [d]) = earlier ++ [part ++ [d]] ∧
        words text = earlier ++ [part].filter (!·.isEmpty) := by
    intro text d hd
    obtain ⟨earlier, part, rest, more, hwords, hfront, hback⟩ := exists_words_append hd text []
    obtain ⟨hrest, rfl⟩ := List.append_eq_nil_iff.mp (words_nil.symm.trans hback).symm
    obtain rfl : rest = [] := by simpa using hrest
    exact ⟨earlier, part, hwords, hfront⟩
  rcases List.eq_nil_or_concat' first with rfl | ⟨before, d, rfl⟩
  · rw [hnil hsecond h.symm]
    exact ⟨rfl, rfl⟩
  · rcases List.eq_nil_or_concat' second with rfl | ⟨start, e, rfl⟩
    · exact absurd (hnil hfirst h) (by simp)
    · obtain ⟨earlier, part, hwords, hfront⟩ := hends before d (hfirst d (by simp))
      obtain ⟨others, piece, hothers, hfront'⟩ := hends start e (hsecond e (by simp))
      rw [hwords, hothers] at h
      obtain ⟨rfl, hlast⟩ := List.append_inj' h rfl
      obtain ⟨rfl, hsame⟩ := List.append_inj' (List.singleton_inj.mp hlast) rfl
      obtain rfl := List.singleton_inj.mp hsame
      refine ⟨by simp, ?_⟩
      rw [List.dropLast_concat, List.dropLast_concat, hfront, hfront']

/-! ## The first word -/

/-- Trimmed texts with the same words have the same first word, and the same words behind the blank
that ends it, or neither has a blank. -/
theorem words_cutWhere? (hfirst : HasNoEdge first) (hsecond : HasNoEdge second)
    (h : words first = words second) :
    cutWhere? isBlank first = none ∧ cutWhere? isBlank second = none ∨
      ∃ word after stop, cutWhere? isBlank first = some (word, after) ∧
        cutWhere? isBlank second = some (word, stop) ∧ words after = words stop := by
  have hcut : ∀ {text word after : List Char}, HasNoEdge text →
      cutWhere? isBlank text = some (word, after) →
        words text = word :: words after ∧ 2 ≤ (words text).length := by
    intro text word after htext hfound
    obtain ⟨c, hc, rfl, hword⟩ := cutWhere?_eq_some_iff.mp hfound
    have hsome : word ≠ [] := by
      rintro rfl
      have hstart := htext.start c rfl
      rw [hc] at hstart
      cases hstart
    refine ⟨?_, htext.two_le_length (by simp) hc⟩
    rw [words_append hc, words_eq_singleton hsome hword]
    rfl
  have hplain : ∀ {text : List Char}, cutWhere? isBlank text = none → (words text).length ≤ 1 := by
    intro text hnone
    have hall := cutWhere?_eq_none_iff.mp hnone
    by_cases hempty : text = []
    · simp [hempty]
    · simp [words_eq_singleton hempty hall]
  cases hword : cutWhere? isBlank first with
  | none =>
    cases hother : cutWhere? isBlank second with
    | none => exact .inl ⟨rfl, rfl⟩
    | some parts =>
      have hone := hplain hword
      have htwo := (hcut hsecond hother).2
      rw [← h] at htwo
      omega
  | some parts =>
    cases hother : cutWhere? isBlank second with
    | none =>
      have hone := hplain hother
      have htwo := (hcut hfirst hword).2
      rw [h] at htwo
      omega
    | some others =>
      have hwords := (hcut hfirst hword).1
      rw [h, (hcut hsecond hother).1] at hwords
      obtain ⟨hsame, hrest⟩ := List.cons.inj hwords
      exact .inr ⟨parts.1, parts.2, others.2, rfl, by rw [← hsame], hrest.symm⟩

/-- A text that begins with a word and a blank has this word as its first one. -/
theorem words_of_afterStart? {rest : List Char} (hsome : word ≠ [])
    (hword : ∀ c ∈ word, isBlank c = false) (hc : isBlank c = true)
    (h : afterStart? (word ++ [c]) text = some rest) : words text = word :: words rest := by
  rw [eq_append_of_afterStart? h, List.append_assoc, List.singleton_append, words_append hc,
    words_eq_singleton hsome hword]
  rfl

end CrossShade.Text
