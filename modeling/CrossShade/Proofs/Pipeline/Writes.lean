import CrossShade.Proofs.Pipeline.Parts

/-!
# Settings in place

`Pipeline.set` takes over a setting at once.  A device makes it in place, check by check and write
by write, and what stands before a refusal would stay.

* `Writer` are programs that write in place; `exec` runs one, and `within` runs one on a part.
* `SlotArray.write`, `TrackedList.write` and `Setting.write` are the settings as such programs.
* `Setting.exec_write`: the program of a setting does the same as trying the setting at once.  So
  every check comes before the first write.
-/

namespace CrossShade

/-- Programs that write to a state in place.  What they wrote stays if they stop with an error. -/
abbrev Writer (σ : Type) := ExceptT ContextError (StateM σ)

namespace Writer

variable {σ τ α β : Type}

/-- The result of a program and the state that it leaves. -/
def exec (writer : Writer σ α) (state : σ) : Except ContextError α × σ :=
  StateT.run (ExceptT.run writer) state

/-- A program on a part of a state. -/
def within (read : τ → σ) (replace : τ → σ → τ) (writer : Writer σ Unit) : Writer τ Unit :=
  ExceptT.mk fun state =>
    ((writer.exec (read state)).1, replace state (writer.exec (read state)).2)

theorem exec_get (rest : σ → Writer σ α) (state : σ) :
    exec (get >>= rest) state = exec (rest state) state := rfl

theorem exec_throw (error : ContextError) (state : σ) :
    exec (throw error : Writer σ α) state = (.error error, state) := rfl

theorem exec_modify (change : σ → σ) (state : σ) :
    exec (modify change : Writer σ Unit) state = (.ok (), change state) := rfl

/-- A program on a part leaves what it leaves of the part. -/
theorem exec_within (read : τ → σ) (replace : τ → σ → τ) (writer : Writer σ Unit) (state : τ) :
    (within read replace writer).exec state =
      ((writer.exec (read state)).1, replace state (writer.exec (read state)).2) := rfl

theorem exec_bind_of_ok {writer : Writer σ α} {state next : σ} {value : α}
    (h : exec writer state = (.ok value, next)) (rest : α → Writer σ β) :
    exec (writer >>= rest) state = exec (rest value) next := by
  unfold exec at h ⊢
  rw [ExceptT.run_bind, StateT.run_bind, h]
  rfl

theorem exec_bind_of_error {writer : Writer σ α} {state next : σ} {error : ContextError}
    (h : exec writer state = (.error error, next)) (rest : α → Writer σ β) :
    exec (writer >>= rest) state = (.error error, next) := by
  unfold exec at h ⊢
  rw [ExceptT.run_bind, StateT.run_bind, h]
  rfl

end Writer

namespace SlotArray

variable {α : Type} [DecidableEq α]

/-- Writes the values of a run one by one. -/
def writeAll (first : Nat) : List α → Writer (SlotArray α) Unit
  | [] => pure ()
  | value :: rest => do
    modify (·.put first value)
    writeAll (first + 1) rest

/-- Writes a run of slots, after a look at where it ends. -/
def write (first : Nat) (values : List α) : Writer (SlotArray α) Unit := do
  let array ← get
  let stop := min (first + values.length) greatestSlot
  if array.capacity < stop then throw (.slotOutOfRange array.group stop array.capacity)
  else writeAll first values

theorem exec_writeAll (first : Nat) (values : List α) (array : SlotArray α) :
    (writeAll first values).exec array = (.ok (), array.putAll first values) := by
  induction values generalizing array first with
  | nil => rfl
  | cons value rest ih => exact ih (first + 1) (array.put first value)

theorem exec_write (first : Nat) (values : List α) (array : SlotArray α) :
    (write first values).exec array = attempt (·.setRange first values) array := by
  rw [write, Writer.exec_get]
  by_cases h : array.capacity < min (first + values.length) greatestSlot
  · have hset : array.setRange first values = .error (.slotOutOfRange array.group
      (min (first + values.length) greatestSlot) array.capacity) := if_pos h
    simp only [if_pos h, attempt, hset, Writer.exec_throw]
  · have hset : array.setRange first values = .ok (array.putAll first values) := if_neg h
    simp only [if_neg h, attempt, hset, exec_writeAll]

end SlotArray

namespace TrackedList

variable {α : Type} [BEq α]

/-- Writes all values, after a look at their number. -/
def write (values : List α) : Writer (TrackedList α) Unit := do
  let list ← get
  if list.capacity < values.length then
    throw (.slotOutOfRange list.group values.length list.capacity)
  else
    unless list.values == values do modify ({ · with values, dirty := true })

theorem exec_write (values : List α) (list : TrackedList α) :
    (write values).exec list = attempt (·.set values) list := by
  rw [write, Writer.exec_get]
  by_cases h : list.capacity < values.length
  · have hset : list.set values =
        .error (.slotOutOfRange list.group values.length list.capacity) := if_pos h
    simp only [if_pos h, attempt, hset, Writer.exec_throw]
  · rw [if_neg h]
    by_cases hsame : list.values == values
    · have hset : list.set values = .ok list := by rw [set, if_neg h, if_pos hsame]
      simp only [if_pos hsame, attempt, hset]
      rfl
    · have hset : list.set values = .ok { list with values, dirty := true } := by
        rw [set, if_neg h, if_neg hsame]
      simp only [hsame, attempt, hset]
      rfl

end TrackedList

/-- Makes a setting in place. -/
def Setting.write : Setting → Writer Pipeline Unit
  | .topology given => modify fun pipeline =>
    { pipeline with topology := pipeline.topology.set given }
  | .inputLayout layout => modify fun pipeline =>
    { pipeline with inputLayout := pipeline.inputLayout.set layout }
  | .vertexBuffers first buffers =>
    Writer.within (·.vertexBuffers) (fun pipeline vertexBuffers => { pipeline with vertexBuffers })
      (SlotArray.write first buffers)
  | .indexBuffer buffer => modify fun pipeline =>
    { pipeline with indexBuffer := pipeline.indexBuffer.set buffer }
  | .shader stage none => modify (·.bind stage none)
  | .shader stage (some given) =>
    if given.stage = stage then modify (·.bind stage (some given.id))
    else throw (.stageMismatch given.id given.stage stage)
  | .resources stage category first ids =>
    Writer.within (fun pipeline => (pipeline.stage stage).resources category)
      (fun pipeline slots =>
        pipeline.withStage stage ((pipeline.stage stage).withResources category slots))
      (SlotArray.write first ids)
  | .cullMode mode => modify fun pipeline =>
    { pipeline with cullMode := pipeline.cullMode.set mode }
  | .fillMode mode => modify fun pipeline =>
    { pipeline with fillMode := pipeline.fillMode.set mode }
  | .viewports given =>
    Writer.within (·.viewports) (fun pipeline viewports => { pipeline with viewports })
      (TrackedList.write given)
  | .scissorRects rects =>
    Writer.within (·.scissorRects) (fun pipeline scissorRects => { pipeline with scissorRects })
      (TrackedList.write rects)
  | .renderTargets targets depth => do
    Writer.within (·.renderTargets) (fun pipeline renderTargets => { pipeline with renderTargets })
      (TrackedList.write targets)
    modify fun pipeline => { pipeline with depthTarget := pipeline.depthTarget.set depth }

/-- In place a setting does what it does at once. -/
theorem Setting.exec_write (setting : Setting) (pipeline : Pipeline) :
    setting.write.exec pipeline = attempt (·.set setting) pipeline := by
  cases setting with
  | vertexBuffers first buffers =>
    rw [Pipeline.attempt_set, write, Writer.exec_within, SlotArray.exec_write]
    rfl
  | shader stage shader =>
    cases shader with
    | none => rfl
    | some given =>
      by_cases h : given.stage = stage
      · simp only [write, if_pos h, attempt, Pipeline.set, Writer.exec_modify]
      · simp only [write, if_neg h, attempt, Pipeline.set, Writer.exec_throw]
  | resources stage category first ids =>
    rw [Pipeline.attempt_set, write, Writer.exec_within, SlotArray.exec_write]
    rfl
  | viewports given =>
    rw [Pipeline.attempt_set, write, Writer.exec_within, TrackedList.exec_write]
    rfl
  | scissorRects rects =>
    rw [Pipeline.attempt_set, write, Writer.exec_within, TrackedList.exec_write]
    rfl
  | renderTargets targets depth =>
    have htargets := Writer.exec_within (·.renderTargets)
      (fun pipeline renderTargets => { pipeline with renderTargets }) (TrackedList.write targets)
      pipeline
    rw [TrackedList.exec_write] at htargets
    unfold write
    cases hset : pipeline.renderTargets.set targets with
    | ok written =>
      rw [attempt, hset] at htargets
      rw [Writer.exec_bind_of_ok htargets, Writer.exec_modify]
      simp only [attempt, Pipeline.set, hset]
      rfl
    | error error =>
      rw [attempt, hset] at htargets
      rw [Writer.exec_bind_of_error htargets]
      simp only [attempt, Pipeline.set, hset]
      rfl
  | _ => rfl

end CrossShade
