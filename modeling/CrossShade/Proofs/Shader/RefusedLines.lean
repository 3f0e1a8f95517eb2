import CrossShade.Proofs.Shader.ChangedLines
import Mathlib.Order.Bounds.Basic

/-!
# Refused lines

Reading a description ends at the first line that is refused, and nothing behind this line has a
part in that.

* `Text.firstLines` is the beginning of a text with some of its lines, endings included, and
  `linesOf_firstLines` says which lines it has.
* `Reading.steps_eq_error_iff` says where reading ends: all lines before are read, and the next one
  is refused.
* `Description.RefusesLine` says that of a text.  By `of_take` what comes behind the line plays no
  part, and by `le_of_take` no line before it is refused.
* `Description.Lacks` says what can be missing when all lines are read, and
  `shader_eq_error_description_iff` that nothing else is told of a line.
* `Shader.read_refused` is the conclusion.
-/

namespace CrossShade

/-! ## The first lines of a text -/

namespace Text

variable {line : List Char}

/-- A text up to the end of one of its lines, or all of it if it has no more lines. -/
def firstLines : (count : Nat) → (text : List Char) → List Char
  | 0, _ => []
  | _, [] => []
  | count + 1, c :: rest =>
    if c = '\n' then c :: firstLines count rest else c :: firstLines (count + 1) rest

@[simp] theorem firstLines_zero (text : List Char) : firstLines 0 text = [] := by
  cases text <;> rfl

/-- A line that is ended, and what follows it. -/
theorem firstLines_line (hline : '\n' ∉ line) (count : Nat) (after : List Char) :
    firstLines (count + 1) (line ++ '\n' :: after) = line ++ '\n' :: firstLines count after := by
  induction line with
  | nil => simp [firstLines]
  | cons c rest ih =>
    obtain ⟨hc, hrest⟩ := not_or.mp (List.mem_cons.not.mp hline)
    rw [List.cons_append, firstLines, if_neg (Ne.symm hc), ih hrest, List.cons_append]

/-- A last line that is not ended. -/
theorem firstLines_last (hline : '\n' ∉ line) (count : Nat) :
    firstLines (count + 1) line = line := by
  induction line with
  | nil => rfl
  | cons c rest ih =>
    obtain ⟨hc, hrest⟩ := not_or.mp (List.mem_cons.not.mp hline)
    rw [firstLines, if_neg (Ne.symm hc), ih hrest]

theorem lines_firstLines (count : Nat) (text : List Char) :
    lines (firstLines count text) = (lines text).take count := by
  induction count generalizing text with
  | zero => rw [firstLines_zero, lines_nil, List.take_zero]
  | succ count ih =>
    by_cases hfeed : '\n' ∈ text
    · obtain ⟨line, after, rfl, hline⟩ := List.eq_append_cons_of_mem hfeed
      rw [firstLines_line hline, lines_line hline, lines_line hline, ih, List.take_succ_cons]
    · rw [firstLines_last hfeed, lines_last hfeed]
      split
      · rfl
      · rw [List.take_succ_cons, List.take_nil]

end Text

/-! ## Where reading ends -/

namespace Reading

variable {reading : Reading} {number k : Nat} {lines : List (List Char)} {fault : LineFault}

/-- Lines are read on where those before them end. -/
theorem steps_append (front behind : List (List Char)) :
    reading.steps number (front ++ behind) =
      reading.steps number front >>= fun next => next.steps (number + front.length) behind := by
  induction front generalizing reading number with
  | nil => rfl
  | cons line rest ih =>
    rw [List.cons_append, steps, steps]
    cases reading.step line with
    | error found => rfl
    | ok next =>
      rw [List.length_cons, Nat.add_comm rest.length, ← Nat.add_assoc]
      exact ih

/-- Reading that does not end well ends at a line: those before it are read, and it is refused. -/
theorem exists_refused {error : ShaderError} (h : reading.steps number lines = .error error) :
    ∃ front line behind next fault, lines = front ++ line :: behind ∧
      reading.steps number front = .ok next ∧ next.step line = .error fault ∧
      error = .description (number + front.length) fault := by
  fun_induction steps reading number lines with
  | case1 => cases h
  | case2 reading number first rest read hfirst ih =>
    obtain ⟨front, line, behind, next, fault, rfl, hfront, hline, rfl⟩ := ih h
    refine ⟨first :: front, line, behind, next, fault, rfl, ?_, hline, ?_⟩
    · rw [steps, hfirst]
      exact hfront
    · rw [List.length_cons, Nat.add_right_comm, Nat.add_assoc]
  | case3 reading number first rest fault hfirst =>
    cases h
    exact ⟨[], first, rest, reading, fault, rfl, rfl, hfirst, rfl⟩

/-- This line and those before it settle how reading ends. -/
theorem steps_eq_error_iff : reading.steps number lines = .error (.description k fault) ↔
    ∃ front line behind next, lines = front ++ line :: behind ∧
      reading.steps number front = .ok next ∧ next.step line = .error fault ∧
      k = number + front.length := by
  constructor
  · intro h
    obtain ⟨front, line, behind, next, found, hlines, hfront, hline, herror⟩ := exists_refused h
    cases herror
    exact ⟨front, line, behind, next, hlines, hfront, hline, rfl⟩
  · rintro ⟨front, line, behind, next, rfl, hfront, hline, rfl⟩
    rw [steps_append, hfront, ok_bind, steps, hline]

end Reading

namespace Description

variable {text other : String} {k count : Nat} {fault : LineFault} {description : Description}

theorem linesOf_firstLines (count : Nat) (text : String) :
    linesOf (.ofList (Text.firstLines count text.toList)) = (linesOf text).take count := by
  rw [linesOf, String.toList_ofList, Text.lines_firstLines, List.map_take, linesOf]

/-- Reading a description ends at one of its lines, which is refused. -/
def RefusesLine (text : String) (k : Nat) (fault : LineFault) : Prop :=
  Reading.steps {} 1 (linesOf text) = .error (.description k fault)

/-- The beginning of a description, up to the end of one of its lines. -/
def beginning (count : Nat) (text : String) : String :=
  .ofList (Text.firstLines count text.toList)

/-- What comes behind the line that is refused plays no part. -/
theorem RefusesLine.of_take (h : RefusesLine text k fault)
    (hsame : (linesOf other).take k = (linesOf text).take k) : RefusesLine other k fault := by
  obtain ⟨front, line, behind, next, hlines, hfront, hline, rfl⟩ :=
    Reading.steps_eq_error_iff.mp h
  have hcut : (front ++ [line]).length = 1 + front.length := by simp [Nat.add_comm]
  have htake : (linesOf other).take (1 + front.length) = front ++ [line] := by
    rw [hsame, hlines, ← List.singleton_append, ← List.append_assoc, List.take_left' hcut]
  refine Reading.steps_eq_error_iff.mpr
    ⟨front, line, (linesOf other).drop (1 + front.length), next, ?_, hfront, hline, rfl⟩
  rw [← List.singleton_append, ← List.append_assoc, ← htake, List.take_append_drop]

/-- The lines before it are not refused, whether or not it follows. -/
theorem RefusesLine.le_of_take {i : Nat} {found : LineFault} (h : RefusesLine text k fault)
    (hother : RefusesLine other i found) (hsame : linesOf other = (linesOf text).take count) :
    k ≤ count := by
  obtain ⟨front, line, behind, next, hlines, hfront, hline, rfl⟩ :=
    Reading.steps_eq_error_iff.mp h
  by_contra hshort
  have hle : count ≤ front.length := by omega
  rw [RefusesLine, hsame, hlines, List.take_append_of_le_length hle] at hother
  -- The lines that are left are among those that are read.
  rw [← List.take_append_drop count front, Reading.steps_append, hother] at hfront
  cases hfront

/-! ## When all lines are read -/

/-- What a description has to say and does not: it has no name, or it has one and no stage that can
be found. -/
def Lacks (description : Description) (fault : LineFault) : Prop :=
  description.properties.get? "Name" = none ∧ fault = .missingName ∨
    (∃ name, description.properties.get? "Name" = some name) ∧ description.stage = .error fault

/-- The error is told of a line. -/
def IsOfLine (error : ShaderError) : Prop :=
  ∃ k fault, error = .description k fault

/-- Of what was packed only a type that has no size is told. -/
theorem avoids_packBuffers {bad : ShaderError → Prop} {name : String}
    (h : ∀ buffer fault, ¬bad (.malformed name (.uniformBuffer buffer fault)))
    (structures : List Structure) (drafts : List BufferDraft) :
    Avoids bad (packBuffers name structures drafts) := by
  induction drafts with
  | nil => exact avoids_ok _
  | cons draft rest ih =>
    rw [packBuffers, avoids_bind_iff, avoids_mapError_iff]
    refine ⟨avoids_of_forall (h draft.name) _, fun buffer _ => ?_⟩
    exact avoids_bind_iff.mpr ⟨ih, fun _ _ => avoids_pure _⟩

theorem avoids_accept (shader : Shader) : Avoids IsOfLine shader.accept := by
  unfold Shader.accept
  split
  · exact avoids_ok _
  · exact avoids_error_iff.mpr fun ⟨_, _, h⟩ => nomatch h

/-- Only what a description lacks is told of a line, the last one. -/
theorem shader_eq_error_description_iff :
    description.shader count = .error (.description k fault) ↔
      k = count ∧ description.Lacks fault := by
  unfold Description.shader Lacks
  cases hname : description.properties.get? "Name" with
  | none => simp [eq_comm]
  | some name =>
    cases hstage : description.stage with
    | error found => simp [eq_comm]
    | ok stage =>
      have hbuffers : Avoids IsOfLine
          (packBuffers name description.structures description.uniformBuffers) :=
        avoids_packBuffers (fun _ _ ⟨_, _, h⟩ => nomatch h) _ _
      cases hpacked : packBuffers name description.structures description.uniformBuffers with
      | ok buffers => simp [hpacked]
      | error error =>
        have hline := hbuffers error hpacked
        simp only [pure_bind, mapError_ok, ok_bind, hpacked, error_bind, Except.error.injEq,
          reduceCtorEq, and_false, or_false, false_and, iff_false]
        exact fun h => hline ⟨k, fault, h⟩

end Description

namespace Shader

open Description (linesOf beginning RefusesLine Lacks)

variable {text : String} {k : Nat} {fault : LineFault}

theorem read_of_refusesLine (h : RefusesLine text k fault) :
    Shader.read text = .error (.description k fault) := by
  have hsteps : Reading.steps {} 1 (linesOf text) = .error (.description k fault) := h
  rw [Shader.read, hsteps, error_bind]

/-- A description with all lines read is refused at a line only for what it lacks. -/
theorem read_eq_error_description_iff {reading : Reading}
    (h : Reading.steps {} 1 (linesOf text) = .ok reading) :
    Shader.read text = .error (.description k fault) ↔
      k = (linesOf text).length ∧ reading.description.Lacks fault := by
  rw [Shader.read, h, ok_bind, ← Description.shader_eq_error_description_iff]
  cases hshader : reading.description.shader (linesOf text).length with
  | error error => simp
  | ok shader =>
    simp only [ok_bind, reduceCtorEq, iff_false]
    exact fun haccept => Description.avoids_accept shader _ haccept ⟨k, fault, rfl⟩

/-- Errors point at the first bad line.  If reading a description ends at a line, this line is the
number of lines of its shortest beginning that ends so, and every description that begins with the
same lines is refused at the same line for the same reason.  If reading ends at no line, all lines
are read, and an error that is told of a line is told of the last one, for what the description
lacks. -/
theorem read_refused (text : String) :
    (∀ k fault, RefusesLine text k fault →
      Shader.read text = .error (.description k fault) ∧
      IsLeast {count | ∃ i found, RefusesLine (beginning count text) i found} k ∧
      ∀ other, (linesOf other).take k = (linesOf text).take k →
        RefusesLine other k fault ∧ Shader.read other = .error (.description k fault)) ∧
    ((∀ k fault, ¬RefusesLine text k fault) → ∃ reading,
      Reading.steps {} 1 (linesOf text) = .ok reading ∧
      ∀ k fault, Shader.read text = .error (.description k fault) ↔
        k = (linesOf text).length ∧ reading.description.Lacks fault) := by
  constructor
  · intro k fault h
    have hsame : ∀ other, (linesOf other).take k = (linesOf text).take k →
        RefusesLine other k fault := fun other => h.of_take
    refine ⟨read_of_refusesLine h, ⟨⟨k, fault, ?_⟩, ?_⟩, ?_⟩
    · refine h.of_take ?_
      rw [beginning, Description.linesOf_firstLines, List.take_take, Nat.min_self]
    · rintro count ⟨i, found, hfound⟩
      exact h.le_of_take hfound (Description.linesOf_firstLines count text)
    · exact fun other hlines => ⟨h.of_take hlines, read_of_refusesLine (h.of_take hlines)⟩
  · intro hnone
    cases hread : Reading.steps {} 1 (linesOf text) with
    | ok reading => exact ⟨reading, rfl, fun k fault => read_eq_error_description_iff hread⟩
    | error error =>
      obtain ⟨_, _, _, _, fault, _, _, _, rfl⟩ := Reading.exists_refused hread
      exact absurd hread (hnone _ fault)

/-- A description with two bad lines, of which the second is behind the first. -/
def brokenText : String :=
  "\n".intercalate ["%meta", "Name = Broken", "%samplers", "sampler Broken : x", "%bogus"]

/-- A description that begins with the same four lines and goes on in another way. -/
def otherBrokenText : String :=
  "\n".intercalate ["%meta", "Name = Broken", "%samplers", "sampler Broken : x",
    "sampler Plain : 0", "%meta", "Stage = Pixel"]

theorem read_refused_broken :
    Shader.read brokenText = .error (.description 4 (.noSlot "x")) ∧
      IsLeast {count | ∃ i found, RefusesLine (beginning count brokenText) i found} 4 ∧
      Shader.read otherBrokenText = .error (.description 4 (.noSlot "x")) ∧
      Shader.read "" = .error (.description 0 .missingName) := by
  have hsteps : Reading.steps {} 1 (linesOf brokenText) =
      .error (.description 4 (.noSlot "x")) := by decide +kernel
  have hsame : (linesOf otherBrokenText).take 4 = (linesOf brokenText).take 4 := by decide +kernel
  obtain ⟨hread, hleast, hothers⟩ := (read_refused brokenText).1 4 (.noSlot "x") hsteps
  obtain ⟨reading, hreading, herrors⟩ := (read_refused "").2 nofun
  cases hreading
  exact ⟨hread, hleast, (hothers otherBrokenText hsame).2,
    (herrors 0 .missingName).mpr ⟨rfl, .inl ⟨rfl, rfl⟩⟩⟩

end Shader

end CrossShade
