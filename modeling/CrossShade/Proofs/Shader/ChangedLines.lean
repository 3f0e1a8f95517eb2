import CrossShade.Proofs.Shader.Building
import CrossShade.Proofs.Shader.SectionOrder
import CrossShade.Proofs.Shader.Sections
import CrossShade.Proofs.Text.LineChanges

/-!
# Descriptions with a changed line

A description in which one line is changed is read as before up to this line, and from the same
state it goes on with the same lines.

* `Reading.keepsLine` says which lines are kept as code; for all other lines `step_blanks` says that
  blanks behind them play no part, and so neither does the way in which they are ended.
* `Description.changeLine` changes a line, and `Description.lineAt?` finds a line and the state of
  the reader before it.
* `foldlM_changeLine` compares the two texts, and `not_read_of_lineAt?_eq_none` says what happens if
  the line is not reached.
* `Description.Makes` and `read_iff_foldlM` say what is left to do when all lines are read.
-/

namespace CrossShade

/-! ## Blanks behind a line -/

section Blanks

variable {line blanks : List Char}

theorem Text.not_mem_blanks {c : Char} (hblanks : ∀ c ∈ blanks, Text.isBlank c = true)
    (hc : Text.isBlank c = false) : c ∉ blanks := by
  intro hmem
  rw [hblanks c hmem] at hc
  cases hc

theorem Text.words_append_blanks (hblanks : ∀ c ∈ blanks, Text.isBlank c = true)
    (line : List Char) : Text.words (line ++ blanks) = Text.words line := by
  induction blanks generalizing line with
  | nil => rw [List.append_nil]
  | cons c rest ih =>
    obtain ⟨hc, hrest⟩ := List.forall_mem_cons.mp hblanks
    have hnone := ih hrest []
    rw [List.nil_append, Text.words_nil] at hnone
    rw [Text.words_append hc, hnone, List.append_nil]

theorem Text.trim_append_blanks (hblanks : ∀ c ∈ blanks, Text.isBlank c = true)
    (line : List Char) : Text.trim (line ++ blanks) = Text.trim line := by
  induction blanks generalizing line with
  | nil => rw [List.append_nil]
  | cons c rest ih =>
    obtain ⟨hc, hrest⟩ := List.forall_mem_cons.mp hblanks
    rw [← List.singleton_append, ← List.append_assoc, ih hrest, Text.trim_append hc]

theorem Text.exists_dropReturn_append (line : List Char) :
    ∃ blanks, line = Text.dropReturn line ++ blanks ∧ ∀ c ∈ blanks, Text.isBlank c = true := by
  unfold Text.dropReturn
  split
  · rename_i hlast
    obtain ⟨opening, rfl⟩ := List.getLast?_eq_some_iff.mp hlast
    refine ⟨['\r'], by simp, ?_⟩
    rw [List.forall_mem_singleton]
    decide
  · exact ⟨[], (List.append_nil line).symm, nofun⟩

end Blanks

namespace Reading

variable {reading : Reading} {line blanks : List Char}

/-- Whether a line is kept as code. -/
def keepsLine (reading : Reading) (line : List Char) : Bool :=
  reading.openSection.isCode && (reading.header? line).isNone

theorem header?_blanks (hblanks : ∀ c ∈ blanks, Text.isBlank c = true) (reading : Reading)
    (line : List Char) :
    reading.header? (line ++ blanks) = (reading.header? line).map (· ++ blanks) := by
  cases line with
  | nil =>
    cases blanks with
    | nil => rfl
    | cons c rest =>
      have hplain : '%' ∉ c :: rest := Text.not_mem_blanks hblanks (by decide)
      have hc : c ≠ '%' := fun hsame => hplain (hsame ▸ List.mem_cons_self)
      rw [List.nil_append, header?_eq_none (by simpa using hc)]
      rfl
  | cons c rest =>
    by_cases hc : c = '%'
    · subst hc
      have hnames : namesSection (rest ++ blanks) = namesSection rest := by
        rw [namesSection, Text.words_append_blanks hblanks, namesSection]
      simp only [List.cons_append, header?, hnames]
      split <;> rfl
    · rw [header?_eq_none (by simpa using hc), header?_eq_none (by simpa using hc)]
      rfl

theorem content_blanks (hblanks : ∀ c ∈ blanks, Text.isBlank c = true) (line : List Char) :
    content (line ++ blanks) = content line := by
  have hplain : '#' ∉ blanks := Text.not_mem_blanks hblanks (by decide)
  rw [content, List.takeWhile_append]
  split
  · rename_i hlength
    have hwhole : line.takeWhile (· ≠ '#') = line :=
      (List.takeWhile_prefix _).eq_of_length hlength
    rw [Text.takeWhile_of_not_mem hplain, Text.trim_append_blanks hblanks, content, hwhole]
  · rfl

theorem keepsLine_blanks (hblanks : ∀ c ∈ blanks, Text.isBlank c = true) (reading : Reading)
    (line : List Char) : reading.keepsLine (line ++ blanks) = reading.keepsLine line := by
  rw [keepsLine, header?_blanks hblanks, Option.isNone_map, keepsLine]

/-- Two lines with the same content are read alike, unless they are headers or kept as code. -/
theorem step_congr {other : List Char} (hcode : reading.openSection.isCode = false)
    (hheader : reading.header? line = none) (hother : reading.header? other = none)
    (hcontent : content other = content line) : reading.step other = reading.step line := by
  unfold step
  rw [hheader, hother, hcontent]
  cases hsection : reading.openSection with
  | code block => simp [hsection, Section.isCode] at hcode
  | _ => rfl

/-- Blanks behind a line play no part, unless it is kept as it is. -/
theorem step_blanks (hblanks : ∀ c ∈ blanks, Text.isBlank c = true)
    (hkeeps : reading.keepsLine line = false) :
    reading.step (line ++ blanks) = reading.step line := by
  have hlonger := header?_blanks hblanks reading line
  cases hheader : reading.header? line with
  | some header =>
    rw [hheader, Option.map_some] at hlonger
    rw [step, hlonger, step, hheader]
    simp only [openNext, Text.words_append_blanks hblanks]
  | none =>
    have hcode : reading.openSection.isCode = false := by simpa [keepsLine, hheader] using hkeeps
    rw [hheader, Option.map_none] at hlonger
    exact step_congr hcode hheader hlonger (content_blanks hblanks line)

/-- A header is read alike if it has the same name and the same argument. -/
theorem openNext_congr {header other : List Char}
    (hname : (Text.words header).head? = (Text.words other).head?)
    (hargument : (Text.words header)[1]? = (Text.words other)[1]?) :
    reading.openNext header = reading.openNext other := by
  simp only [openNext, hname, hargument]

theorem step_nil (hcode : reading.openSection.isCode = false) : reading.step [] = .ok reading := by
  unfold step header?
  cases hsection : reading.openSection with
  | code block => simp [hsection, Section.isCode] at hcode
  | _ => rfl

end Reading

namespace Description

variable {text : String} {k : Nat} {reading : Reading} {line : List Char}
  {change : List Char → List Char}

/-! ## A line in its place -/

/-- A line of a text, counted from zero, and the state of the reader before it.  There is none if a
line before it is refused. -/
def lineAt? (text : String) (k : Nat) : Option (Reading × List Char) :=
  match Reading.steps {} 1 ((linesOf text).take k), (linesOf text)[k]? with
  | .ok reading, some line => some (reading, line)
  | _, _ => none

/-- Behind whole lines a text goes on with its own lines. -/
theorem linesOf_append {before : List Char} (hbefore : Text.IsWhole before) (after : List Char) :
    linesOf (.ofList (before ++ after)) = linesOf (.ofList before) ++ linesOf (.ofList after) := by
  simp only [linesOf, String.toList_ofList, Text.lines_append hbefore, List.map_append]

/-- The lines of a text that begins with a line. -/
theorem exists_linesOf_line {raw after : List Char} (hraw : '\n' ∉ raw)
    (hended : after = [] ∨ ∃ rest, after = '\n' :: rest) :
    ∃ line blanks, raw = line ++ blanks ∧ (∀ c ∈ blanks, Text.isBlank c = true) ∧
      linesOf (.ofList (raw ++ after)) =
        if raw ++ after = [] then [] else line :: linesOf (.ofList after.tail) := by
  obtain ⟨first, hfirst, hfirstBlank⟩ := Text.exists_dropReturn_append raw
  rcases hended with rfl | ⟨rest, rfl⟩
  · refine ⟨_, first, hfirst, hfirstBlank, ?_⟩
    rw [linesOf, String.toList_ofList, List.append_nil, Text.lines_last hraw]
    cases raw <;> rfl
  · obtain ⟨second, hsecond, hsecondBlank⟩ :=
      Text.exists_dropReturn_append (Text.dropReturn raw)
    refine ⟨Text.dropReturn (Text.dropReturn raw), second ++ first, ?_, ?_, ?_⟩
    · rw [← List.append_assoc, ← hsecond, ← hfirst]
    · exact List.forall_mem_append.mpr ⟨hsecondBlank, hfirstBlank⟩
    · rw [linesOf, String.toList_ofList, Text.lines_line hraw, if_neg (by simp), linesOf,
        String.toList_ofList]
      rfl

/-- The first line of a text is read, unless it is kept as it is, up to the end of the line as it
stands in the text. -/
theorem foldlM_linesOf_line {raw after : List Char} (hraw : '\n' ∉ raw)
    (hended : after = [] ∨ ∃ rest, after = '\n' :: rest)
    (hkeeps : reading.keepsLine raw = false) :
    (linesOf (.ofList (raw ++ after))).foldlM Reading.step reading =
      reading.step raw >>= (linesOf (.ofList after.tail)).foldlM Reading.step := by
  obtain ⟨line, blanks, rfl, hblanks, hlines⟩ := exists_linesOf_line hraw hended
  rw [hlines]
  split
  · -- Nothing is read where there is nothing.
    rename_i hnone
    obtain ⟨hraw, rfl⟩ := List.append_eq_nil_iff.mp hnone
    rw [hraw] at hkeeps ⊢
    have hcode : reading.openSection.isCode = false := by
      simpa [Reading.keepsLine, Reading.header?] using hkeeps
    rw [Reading.step_nil hcode]
    rfl
  · rw [List.foldlM_cons, Reading.step_blanks hblanks]
    rwa [Reading.keepsLine_blanks hblanks] at hkeeps

/-- A text with one of its lines, counted from zero, changed. -/
def changeLine (k : Nat) (change : List Char → List Char) (text : String) : String :=
  .ofList (Text.modifyLine k change text.toList)

/-- The lines of a text around one of them, and those of the text in which it is changed. -/
theorem exists_linesOf_changeLine (hk : k < (linesOf text).length)
    (change : List Char → List Char) :
    ∃ raw after, '\n' ∉ raw ∧ (after = [] ∨ ∃ rest, after = '\n' :: rest) ∧
      linesOf text = (linesOf text).take k ++ linesOf (.ofList (raw ++ after)) ∧
      linesOf (changeLine k change text) =
        (linesOf text).take k ++ linesOf (.ofList (change raw ++ after)) := by
  rw [linesOf, List.length_map] at hk
  obtain ⟨before, raw, after, hsplit⟩ := Text.exists_lineSplit hk
  have htext : text = .ofList (before ++ (raw ++ after)) := by
    rw [← List.append_assoc, ← hsplit.eq, String.ofList_toList]
  have hlines := linesOf_append hsplit.isWhole (raw ++ after)
  rw [← htext] at hlines
  have hbefore : (linesOf text).take k = linesOf (.ofList before) := by
    rw [hlines, List.take_left' (by simp [linesOf, hsplit.length_lines])]
  refine ⟨raw, after, hsplit.noFeed, hsplit.ended, ?_, ?_⟩
  · rw [hbefore, hlines]
  · rw [hbefore, changeLine, hsplit.modify, List.append_assoc,
      linesOf_append hsplit.isWhole]

/-- A text and the text with a changed line are read alike before this line and behind it, if
neither this line nor the changed one is kept as code. -/
theorem foldlM_changeLine {changed : List Char} (h : lineAt? text k = some (reading, line))
    (hkeeps : reading.keepsLine line = false) (hkeepsChanged : reading.keepsLine changed = false)
    (hfeed : ∀ raw, '\n' ∉ raw → '\n' ∉ change raw)
    (hchange : ∀ blanks, (∀ c ∈ blanks, Text.isBlank c = true) →
      ∃ others, change (line ++ blanks) = changed ++ others ∧ ∀ c ∈ others, Text.isBlank c = true) :
    ∃ behind : List (List Char),
      (linesOf text).foldlM Reading.step {} = reading.step line >>= behind.foldlM Reading.step ∧
      (linesOf (changeLine k change text)).foldlM Reading.step {} =
        reading.step changed >>= behind.foldlM Reading.step := by
  unfold lineAt? at h
  split at h
  · rename_i hread hline
    cases h
    rw [Reading.steps_eq_ok_iff] at hread
    obtain ⟨hk, -⟩ := List.getElem?_eq_some_iff.mp hline
    obtain ⟨raw, after, hraw, hended, hlines, hcut⟩ := exists_linesOf_changeLine hk change
    obtain ⟨first, blanks, rfl, hblanks, hfirst⟩ := exists_linesOf_line hraw hended
    obtain rfl : first = line := by
      have hat := congrArg (·[k]?) hlines
      simp only [hline] at hat
      rw [List.getElem?_append_right (List.length_take_le k _), List.length_take,
        Nat.min_eq_left (Nat.le_of_lt hk), Nat.sub_self, hfirst] at hat
      split at hat
      · cases hat
      · exact (Option.some.inj hat).symm
    obtain ⟨others, hothers, hothersBlank⟩ := hchange blanks hblanks
    refine ⟨linesOf (.ofList after.tail), ?_, ?_⟩
    · rw [hlines, List.foldlM_append, hread, ok_bind, foldlM_linesOf_line hraw hended,
        Reading.step_blanks hblanks hkeeps]
      rwa [Reading.keepsLine_blanks hblanks]
    · rw [hcut, List.foldlM_append, hread, ok_bind,
        foldlM_linesOf_line (hfeed _ hraw) hended, hothers,
        Reading.step_blanks hothersBlank hkeepsChanged]
      rwa [hothers, Reading.keepsLine_blanks hothersBlank]
  · cases h

/-- If a line before it is refused, changing a line changes nothing. -/
theorem not_read_of_lineAt?_eq_none (hk : k < (linesOf text).length) (h : lineAt? text k = none)
    (change : List Char → List Char) :
    ∃ fault, (linesOf text).foldlM Reading.step {} = .error fault ∧
      (linesOf (changeLine k change text)).foldlM Reading.step {} = .error fault := by
  obtain ⟨raw, after, -, -, hlines, hcut⟩ := exists_linesOf_changeLine hk change
  have hrefused : ∃ fault, ((linesOf text).take k).foldlM Reading.step {} = .error fault := by
    cases hread : ((linesOf text).take k).foldlM Reading.step {} with
    | error fault => exact ⟨fault, rfl⟩
    | ok reading =>
      rw [lineAt?, Reading.steps_eq_ok_iff.mpr hread, List.getElem?_eq_getElem hk] at h
      cases h
  obtain ⟨fault, hfault⟩ := hrefused
  refine ⟨fault, ?_, ?_⟩
  · rw [hlines, List.foldlM_append, hfault]
    rfl
  · rw [hcut, List.foldlM_append, hfault]
    rfl

/-! ## What a description makes -/

/-- A shader that a description makes. -/
def Makes (description : Description) (shader : Shader) : Prop :=
  ∃ built, description.shader 0 = .ok built ∧ built.accept = .ok shader

/-- A shader that is described has the streams and the structures of the description, and its
uniform buffers are packed. -/
theorem parts_of_shader {description : Description} {built : Shader} {count : Nat}
    (h : description.shader count = .ok built) :
    built.streams = description.streams ∧ built.structures = description.structures ∧
      packBuffers built.name description.structures description.uniformBuffers =
        .ok built.uniformBuffers := by
  unfold Description.shader at h
  cases hname : description.properties.get? "Name" with
  | none =>
    rw [hname] at h
    cases h
  | some name =>
    simp only [hname, bind_eq_ok, pure_eq_ok] at h
    obtain ⟨name, -, stage, -, buffers, hbuffers, rfl⟩ := h
    exact ⟨rfl, rfl, hbuffers⟩

theorem parts_of_makes {description : Description} {shader : Shader}
    (h : description.Makes shader) :
    shader.streams = description.streams ∧ shader.structures = description.structures := by
  obtain ⟨built, hbuilt, haccept⟩ := h
  obtain ⟨-, rfl⟩ := Shader.accept_eq_ok_iff.mp haccept
  obtain ⟨hstreams, hstructures, -⟩ := parts_of_shader hbuilt
  exact ⟨hstreams, hstructures⟩

end Description

namespace Shader

open Description (linesOf)

theorem read_iff_foldlM {text : String} {shader : Shader} : Shader.read text = .ok shader ↔
    ∃ reading, (linesOf text).foldlM Reading.step {} = .ok reading ∧
      reading.description.Makes shader := by
  simp only [Shader.read, bind_eq_ok, Reading.steps_eq_ok_iff, Description.Makes]
  constructor
  · rintro ⟨reading, hreading, built, hbuilt, haccept⟩
    exact ⟨reading, hreading, built, Description.shader_eq_ok_iff.mp hbuilt, haccept⟩
  · rintro ⟨reading, hreading, built, hbuilt, haccept⟩
    exact ⟨reading, hreading, built, Description.shader_eq_ok_iff.mp hbuilt, haccept⟩

end Shader

end CrossShade
