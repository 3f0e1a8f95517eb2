import CrossShade.Direct3D11.Commands
import CrossShade.Direct3D9.Commands
import CrossShade.Proofs.OpenGL.Replay
import CrossShade.Proofs.Pipeline.InStep

/-!
# The first index of an indexed draw

Each interface has its own way to say where the indices of a draw begin.  Direct3D 11 takes an
offset with the buffer, OpenGL an offset with the draw, and Direct3D 9 none at all.  Records are
replayed as the interfaces understand them, to see which byte of which buffer a draw reads first.

* `firstIndex?` of an interface reads this off its record.
* `inStep_applier` says that the record shows the index buffer that was taken over last; in OpenGL
  it belongs to the vertex array that was bound at the time (`elementBuffer_append`).
* `firstIndex_of_draw` compares the three interfaces with what the context says.
-/

namespace CrossShade

/-- A place in a buffer. -/
structure BufferPlace where
  buffer : Nat
  byte : Nat
  deriving Repr, DecidableEq

/-- Where the index with a number is. -/
def IndexBuffer.place (indices : IndexBuffer) (index : UInt32) : BufferPlace :=
  ⟨indices.buffer, indices.offset.toNat + index.toNat * indices.format.bytes.toNat⟩

/-! ## Direct3D 9 -/

namespace Direct3D9

/-- The index buffer that a call sets, with the number of its format. -/
def Command.indices? : Command → Option (Option (Nat × UInt32))
  | setIndices buffer format => some (buffer.map (·, format))
  | _ => none

/-- The index buffer after some calls; before them there is none. -/
def boundIndices (commands : List Command) : Option (Nat × UInt32) :=
  lastGiven Command.indices? none commands

/-- The bytes of an index, by the number of its format. -/
def indexBytes? : UInt32 → Option Nat
  | 101 => some 2
  | 102 => some 4
  | _ => none

/-- What the last call reads first, if it is an indexed draw: the index with the number that it
names, counted from the start of the buffer. -/
def firstIndex? (commands : List Command) : Option BufferPlace :=
  match commands.getLast? with
  | some (.drawIndexedPrimitive _ _ start _) => do
    let (buffer, format) ← boundIndices commands
    let bytes ← indexBytes? format
    return ⟨buffer, start.toNat * bytes⟩
  | _ => none

theorem indexBytes?_indexFormat (format : IndexFormat) :
    indexBytes? (indexFormat format) = some format.bytes.toNat := by
  cases format <;> rfl

theorem indices?_of_mem_streamSources {first : Nat} {buffers : List (Option VertexBuffer)}
    {command : Command} (h : command ∈ streamSources first buffers) : command.indices? = none := by
  induction buffers generalizing first with
  | nil => cases h
  | cons buffer rest ih =>
    rcases List.mem_cons.mp h with rfl | hrest
    · rfl
    · exact ih hrest

theorem indices?_of_mem_ifSupported {stage : Stage} {call command : Command}
    (hcall : call.indices? = none) (h : command ∈ ifSupported stage call) :
    command.indices? = none := by
  unfold ifSupported at h
  split at h
  · exact List.mem_singleton.mp h ▸ hcall
  · cases h

/-- Only a change of the index buffer sets indices. -/
theorem indices?_of_mem_ofChange {change : Change} {made : List Command}
    (h : Command.ofChange change = .ok made) (hother : ∀ indices, change ≠ .indexBuffer indices)
    {command : Command} (hmem : command ∈ made) : command.indices? = none := by
  cases change with
  | topology topology =>
    obtain ⟨_, -, rfl⟩ := map_eq_ok.mp h
    cases hmem
  | vertexBuffers first buffers =>
    cases h
    exact indices?_of_mem_streamSources hmem
  | indexBuffer indices => exact absurd rfl (hother indices)
  | shader stage shader =>
    simp only [Command.ofChange] at h
    split at h
    · cases h
    · cases h
      exact indices?_of_mem_ifSupported rfl hmem
  | resources stage category first ids =>
    cases category with
    | writeView =>
      simp only [Command.ofChange, refuseWriteViews] at h
      split at h
      · cases h
        cases hmem
      · cases h
    | _ =>
      cases h
      exact indices?_of_mem_ifSupported rfl hmem
  | viewports viewports =>
    cases h
    obtain ⟨_, -, rfl⟩ := List.mem_map.mp hmem
    rfl
  | scissorRects rects =>
    cases h
    obtain ⟨_, -, rfl⟩ := List.mem_map.mp hmem
    rfl
  | _ =>
    cases h
    obtain rfl := List.mem_singleton.mp hmem
    rfl

theorem indices?_of_mem_workCommands {topology : PrimitiveTopology} {work : Work}
    {made : List Command} (h : Recorder.workCommands topology work = .ok made) {command : Command}
    (hmem : command ∈ made) : command.indices? = none := by
  cases work with
  | dispatch x y z => cases h
  | _ =>
    simp only [Recorder.workCommands, bind_eq_ok, pure_eq_ok] at h
    obtain ⟨type, -, rfl⟩ := h
    obtain rfl := List.mem_singleton.mp hmem
    rfl

/-- The record shows the index buffer, without its offset. -/
def ShowsIndices (native : NativeState) (recorder : Recorder) : Prop :=
  boundIndices recorder.commands =
    native.indexBuffer.map fun indices => (indices.buffer, indexFormat indices.format)

theorem showsIndices_new : ShowsIndices .new {} :=
  rfl

theorem ShowsIndices.append {native : NativeState} {recorder : Recorder}
    (h : ShowsIndices native recorder) {made : List Command}
    (hnone : ∀ command ∈ made, command.indices? = none) (topology : PrimitiveTopology) :
    ShowsIndices native ⟨topology, recorder.commands ++ made⟩ := by
  rw [ShowsIndices, boundIndices, lastGiven_append, lastGiven_of_forall hnone]
  exact h

theorem inStep_applier : Recorder.applier.InStep ShowsIndices where
  accepted change native target next hshows hchange := by
    simp only [Recorder.applier, Recorder.change] at hchange
    split at hchange
    · cases hchange
    · rename_i made hmade
      cases hchange
      cases change with
      | indexBuffer indices =>
        rw [ShowsIndices, boundIndices, lastGiven_append]
        cases indices <;> cases hmade <;> rfl
      | _ => exact hshows.append (fun command => indices?_of_mem_ofChange hmade nofun) _
  refused change native target next error hshows hchange := by
    simp only [Recorder.applier, Recorder.change] at hchange
    split at hchange
    · cases hchange
      exact hshows
    · cases hchange
  worked work native target hshows := by
    simp only [Recorder.applier, Recorder.work]
    split
    · exact hshows
    · rename_i made hmade
      exact hshows.append (fun command => indices?_of_mem_workCommands hmade) _

/-- A draw begins at the index that it names, whatever the offset of the buffer is. -/
theorem firstIndex?_of_work {native : NativeState} {recorder after : Recorder}
    (hshows : ShowsIndices native recorder) {indices : IndexBuffer}
    (hindices : native.indexBuffer = some indices) {count start : UInt32} {base : Int}
    (hwork : recorder.work (.drawIndexed count start base) = (.ok (), after)) :
    firstIndex? after.commands =
      some ⟨indices.buffer, start.toNat * indices.format.bytes.toNat⟩ := by
  unfold Recorder.work at hwork
  split at hwork
  · cases hwork
  · rename_i made hmade
    cases hwork
    have hbound := hshows.append (fun command => indices?_of_mem_workCommands hmade)
      recorder.topology
    rw [ShowsIndices, hindices] at hbound
    simp only [Recorder.workCommands, bind_eq_ok, pure_eq_ok] at hmade
    obtain ⟨type, -, rfl⟩ := hmade
    simp only [firstIndex?, List.getLast?_concat, hbound]
    simp [indexBytes?_indexFormat]

end Direct3D9

/-! ## Direct3D 11 -/

namespace Direct3D11

/-- The index buffer that a call sets, with the number of its format and its offset. -/
def Command.indices? : Command → Option (Option (Nat × UInt32 × UInt32))
  | setIndexBuffer buffer format offset => some (buffer.map (·, format, offset))
  | _ => none

/-- The index buffer after some calls; before them there is none. -/
def boundIndices (commands : List Command) : Option (Nat × UInt32 × UInt32) :=
  lastGiven Command.indices? none commands

/-- The bytes of an index, by the number of its format. -/
def indexBytes? : UInt32 → Option Nat
  | 57 => some 2
  | 42 => some 4
  | _ => none

/-- What the last call reads first, if it is an indexed draw: the index with the number that it
names, counted from the offset of the buffer. -/
def firstIndex? (commands : List Command) : Option BufferPlace :=
  match commands.getLast? with
  | some (.drawIndexed _ start _) => do
    let (buffer, format, offset) ← boundIndices commands
    let bytes ← indexBytes? format
    return ⟨buffer, offset.toNat + start.toNat * bytes⟩
  | _ => none

theorem indexBytes?_indexFormat (format : IndexFormat) :
    indexBytes? (indexFormat format) = some format.bytes.toNat := by
  cases format <;> rfl

/-- Only a change of the index buffer sets it. -/
theorem indices?_of_mem_ofChange {change : Change} {made : List Command}
    (h : Command.ofChange change = .ok made) (hother : ∀ indices, change ≠ .indexBuffer indices)
    {command : Command} (hmem : command ∈ made) : command.indices? = none := by
  cases change with
  | topology topology =>
    simp only [Command.ofChange, bind_eq_ok, pure_eq_ok] at h
    obtain ⟨number, -, rfl⟩ := h
    obtain rfl := List.mem_singleton.mp hmem
    rfl
  | indexBuffer indices => exact absurd rfl (hother indices)
  | resources stage category first ids =>
    have hcalls : made = [] ∨ made = [.setResources category stage first ids] := by
      cases category with
      | writeView => cases ids <;> cases h <;> simp
      | _ => cases h; exact .inr rfl
    rcases hcalls with rfl | rfl
    · cases hmem
    · obtain rfl := List.mem_singleton.mp hmem
      rfl
  | rasterizer cull fill =>
    simp only [Command.ofChange, bind_eq_ok, pure_eq_ok] at h
    obtain ⟨mode, -, rfl⟩ := h
    obtain rfl := List.mem_singleton.mp hmem
    rfl
  | _ =>
    cases h
    obtain rfl := List.mem_singleton.mp hmem
    rfl

/-- The record shows the index buffer. -/
def ShowsIndices (native : NativeState) (recorder : Recorder) : Prop :=
  boundIndices recorder.commands = native.indexBuffer.map fun indices =>
    (indices.buffer, indexFormat indices.format, indices.offset)

theorem showsIndices_new : ShowsIndices .new {} :=
  rfl

theorem ShowsIndices.append {native : NativeState} {recorder : Recorder}
    (h : ShowsIndices native recorder) {made : List Command}
    (hnone : ∀ command ∈ made, command.indices? = none) :
    ShowsIndices native ⟨recorder.commands ++ made⟩ := by
  rw [ShowsIndices, boundIndices, lastGiven_append, lastGiven_of_forall hnone]
  exact h

theorem indices?_ofWork (work : Work) : (Command.ofWork work).indices? = none := by
  cases work <;> rfl

theorem inStep_applier : Recorder.applier.InStep ShowsIndices where
  accepted change native target next hshows hchange := by
    simp only [Recorder.applier, Recorder.change] at hchange
    split at hchange
    · cases hchange
    · rename_i made hmade
      cases hchange
      cases change with
      | indexBuffer indices =>
        rw [ShowsIndices, boundIndices, lastGiven_append]
        cases indices <;> cases hmade <;> rfl
      | _ => exact hshows.append fun command => indices?_of_mem_ofChange hmade nofun
  refused change native target next error hshows hchange := by
    simp only [Recorder.applier, Recorder.change] at hchange
    split at hchange
    · cases hchange
      exact hshows
    · cases hchange
  worked work native target hshows :=
    hshows.append fun command hmem => List.mem_singleton.mp hmem ▸ indices?_ofWork work

/-- A draw begins where the context says. -/
theorem firstIndex?_of_work {native : NativeState} {recorder after : Recorder}
    (hshows : ShowsIndices native recorder) {indices : IndexBuffer}
    (hindices : native.indexBuffer = some indices) {count start : UInt32} {base : Int}
    (hwork : recorder.work (.drawIndexed count start base) = (.ok (), after)) :
    firstIndex? after.commands = some (indices.place start) := by
  cases hwork
  have hbound := inStep_applier.worked (.drawIndexed count start base) native recorder hshows
  rw [ShowsIndices, hindices] at hbound
  simp only [Recorder.applier, Recorder.work, Command.ofWork] at hbound
  simp only [firstIndex?, Command.ofWork, List.getLast?_concat, hbound]
  simp [indexBytes?_indexFormat, IndexBuffer.place]

end Direct3D11

/-! ## OpenGL -/

namespace OpenGL

/-- The vertex array that is bound and the element buffers of all: an element buffer belongs to the
vertex array that is bound when it is given. -/
structure VertexArrays where
  bound : Option Nat := none
  elements : Option Nat → Option Nat := fun _ => none

/-- The vertex arrays after a call. -/
def VertexArrays.after (arrays : VertexArrays) : Command → VertexArrays
  | .bindVertexArray layout => { arrays with bound := layout }
  | .bindElementBuffer buffer =>
    { arrays with
      elements := fun array => if array = arrays.bound then buffer else arrays.elements array }
  | _ => arrays

/-- The element buffer of the vertex array that is bound. -/
def VertexArrays.elementBuffer (arrays : VertexArrays) : Option Nat :=
  arrays.elements arrays.bound

/-- The element buffer that a draw after some calls uses; before them there is none. -/
def elementBuffer (commands : List Command) : Option Nat :=
  (commands.foldl VertexArrays.after {}).elementBuffer

/-- What the last call reads first, if it is an indexed draw. -/
def firstIndex? (commands : List Command) : Option BufferPlace :=
  match commands.getLast? with
  | some (.drawElements _ _ _ offset _) =>
    (elementBuffer commands).map fun buffer => ⟨buffer, offset.toNat⟩
  | _ => none

/-- The element buffer that a call gives, to whatever vertex array. -/
def Command.elements? : Command → Option (Option Nat)
  | bindElementBuffer buffer => some buffer
  | _ => none

/-- The vertex array that a call binds. -/
def Command.vertexArray? : Command → Option (Option Nat)
  | bindVertexArray layout => some layout
  | _ => none

/-- While no vertex array is bound, the element buffer is the last one that was given. -/
theorem elementBuffer_foldl {commands : List Command}
    (h : ∀ command ∈ commands, command.vertexArray? = none) (arrays : VertexArrays) :
    (commands.foldl VertexArrays.after arrays).elementBuffer =
      lastGiven Command.elements? arrays.elementBuffer commands := by
  induction commands generalizing arrays with
  | nil => rfl
  | cons command rest ih =>
    have hhead := h command List.mem_cons_self
    have hrest : ∀ other ∈ rest, other.vertexArray? = none :=
      fun other hmem => h other (List.mem_cons_of_mem _ hmem)
    rw [List.foldl_cons, ih hrest, lastGiven, lastGiven, List.foldl_cons]
    congr 1
    cases command with
    | bindVertexArray layout => cases hhead
    | bindElementBuffer buffer => exact if_pos rfl
    | _ => rfl

/-- As long as no vertex array was bound since an element buffer was given, a draw uses the one that
was given last. -/
theorem elementBuffer_append {earlier later : List Command} {buffer : Option Nat}
    (h : ∀ command ∈ later, command.vertexArray? = none) :
    elementBuffer (earlier ++ .bindElementBuffer buffer :: later) =
      lastGiven Command.elements? none (earlier ++ .bindElementBuffer buffer :: later) := by
  have hall : ∀ command ∈ Command.bindElementBuffer buffer :: later,
      command.vertexArray? = none := by
    intro command hmem
    rcases List.mem_cons.mp hmem with rfl | hrest
    · rfl
    · exact h command hrest
  rw [elementBuffer, List.foldl_append, elementBuffer_foldl hall, lastGiven_append]
  rfl

/-- Only a change of the index buffer gives an element buffer. -/
theorem elements?_of_mem_ofChange {change : Change} {made : List Command}
    (h : Command.ofChange change = .ok made) (hother : ∀ indices, change ≠ .indexBuffer indices)
    {command : Command} (hmem : command ∈ made) : command.elements? = none := by
  cases change with
  | topology topology =>
    obtain ⟨_, -, rfl⟩ := map_eq_ok.mp h
    cases hmem
  | indexBuffer indices => exact absurd rfl (hother indices)
  | shader stage shader =>
    simp only [Command.ofChange] at h
    split at h
    · cases h
      obtain rfl := List.mem_singleton.mp hmem
      rfl
    · split at h
      · cases h
      · cases h
        cases hmem
  | resources stage category first ids =>
    rcases eq_of_ofChange_resources h with ⟨-, rfl⟩ | ⟨rfl, -⟩
    · obtain rfl := List.mem_singleton.mp hmem
      rfl
    · cases hmem
  | rasterizer cull fill =>
    simp only [Command.ofChange, bind_eq_ok, pure_eq_ok] at h
    obtain ⟨mode, -, rfl⟩ := h
    rcases List.mem_pair.mp hmem with rfl | rfl <;> rfl
  | _ =>
    cases h
    obtain rfl := List.mem_singleton.mp hmem
    rfl

/-- The recorder remembers the index buffer, and its record gives it to a vertex array. -/
structure ShowsIndices (native : NativeState) (recorder : Recorder) : Prop where
  remembered : recorder.indices = native.indexBuffer
  given : lastGiven Command.elements? none recorder.commands =
    native.indexBuffer.map (·.buffer)

theorem showsIndices_new : ShowsIndices .new {} :=
  ⟨rfl, rfl⟩

theorem elements?_workCommand (recorder : Recorder) (work : Work) :
    (recorder.workCommand work).elements? = none := by
  cases work <;> rfl

theorem inStep_applier : Recorder.applier.InStep ShowsIndices where
  accepted change native target next hshows hchange := by
    simp only [Recorder.applier, Recorder.change] at hchange
    split at hchange
    · cases hchange
    · rename_i made hmade
      cases hchange
      cases change with
      | indexBuffer indices =>
        cases hmade
        exact ⟨rfl, lastGiven_append ..⟩
      | _ =>
        refine ⟨hshows.remembered, ?_⟩
        have hnone : ∀ command ∈ made, command.elements? = none :=
          fun command => elements?_of_mem_ofChange hmade nofun
        rw [lastGiven_append, lastGiven_of_forall hnone]
        exact hshows.given
  refused change native target next error hshows hchange :=
    Recorder.eq_of_change_error hchange ▸ hshows
  worked work native target hshows := by
    refine ⟨hshows.remembered, ?_⟩
    simp only [Recorder.applier, Recorder.work]
    rw [lastGiven_append, lastGiven_singleton, elements?_workCommand]
    exact hshows.given

/-- A draw begins at the byte that the context says, counted in 32 bits, of the element buffer that
the vertex array has; and that is the buffer of the context if it was given to this vertex array. -/
theorem firstIndex?_of_work {native : NativeState} {recorder after : Recorder}
    (hshows : ShowsIndices native recorder) {indices : IndexBuffer}
    (hindices : native.indexBuffer = some indices) {count start : UInt32} {base : Int}
    (hwork : recorder.work (.drawIndexed count start base) = (.ok (), after)) :
    firstIndex? after.commands = (elementBuffer after.commands).map (fun buffer =>
        ⟨buffer, (indices.place start).byte % UInt32.size⟩) ∧
      ∀ earlier given later, after.commands = earlier ++ .bindElementBuffer given :: later →
        (∀ command ∈ later, command.vertexArray? = none) →
          elementBuffer after.commands = some indices.buffer := by
  have hafter := inStep_applier.worked (.drawIndexed count start base) native recorder hshows
  cases hwork
  constructor
  · have hstart : recorder.indexStart = (indices.format, indices.offset) := by
      rw [Recorder.indexStart, hshows.remembered, hindices]
    have hbyte : (indices.offset + start * indices.format.bytes).toNat =
        (indices.place start).byte % UInt32.size := by
      simp [IndexBuffer.place, UInt32.toNat_add, UInt32.toNat_mul, UInt32.size]
    simp only [firstIndex?, Recorder.workCommand, List.getLast?_concat, hstart, hbyte]
  · intro earlier given later hsplit hlater
    rw [hsplit, elementBuffer_append hlater, ← hsplit]
    exact hafter.given.trans (by rw [hindices]; rfl)

end OpenGL

/-! ## All interfaces -/

/-- An indexed draw that goes well finds the index buffer of the context in what the target
shows. -/
theorem Applier.InStep.indices_of_draw {σ : Type} {applier : Applier σ}
    {shows : NativeState → σ → Prop} (h : applier.InStep shows) {calls : List ContextCall}
    {live : LiveShaders} (hcalls : ∀ call ∈ calls, call.ById) (hlive : live.ById) {target : σ}
    (hshows : shows .new target) {count start : UInt32} {base : Int}
    (hok : ((Session.performAll applier calls { target }).perform applier
      (.work live (.drawIndexed count start base))).1 = .ok ()) :
    ∃ indices native reached,
      (Session.performAll applier calls { target }).pipeline.indexBuffer.value = some indices ∧
      native.indexBuffer = some indices ∧ shows native reached ∧
      applier.work (.drawIndexed count start base) reached =
        (.ok (), ((Session.performAll applier calls { target }).perform applier
          (.work live (.drawIndexed count start base))).2.target) := by
  have hnew : ({ target } : Session σ).pipeline.Followed shows target :=
    Pipeline.followed_new hshows
  have hfollowed := h.performAll hcalls hnew
  have hrun : (Session.performAll applier calls { target }).pipeline.run live applier
      (.drawIndexed count start base) (Session.performAll applier calls { target }).target =
      (.ok (), _, _) := Prod.ext hok rfl
  obtain ⟨indices, hindices⟩ :=
    Pipeline.exists_indexBuffer_of_validate (Pipeline.validate_of_run hrun)
  obtain ⟨native, reached, hnative, hreached, hwork⟩ := h.shows_of_done hlive hfollowed hrun
  exact ⟨indices, native, reached, hindices, hnative.indexBuffer.trans hindices, hreached, hwork⟩

/-- Which byte an indexed draw reads first, after any calls on a new context.  Direct3D 11 reads the
index that the context says.  Direct3D 9 never learns the offset of the index buffer and reads as if
there were none.  OpenGL counts the byte in 32 bits, in the element buffer of the vertex array that
is bound; this is the buffer of the context unless the vertex array was bound after the buffer. -/
theorem firstIndex_of_draw {calls : List ContextCall} {live : LiveShaders}
    (hcalls : ∀ call ∈ calls, call.ById) (hlive : live.ById) (count start : UInt32) (base : Int) :
    let draw := ContextCall.work live (.drawIndexed count start base)
    (let before := Session.performAll Direct3D11.Recorder.applier calls { target := {} }
      let after := before.perform Direct3D11.Recorder.applier draw
      after.1 = .ok () → ∃ indices, before.pipeline.indexBuffer.value = some indices ∧
        Direct3D11.firstIndex? after.2.target.commands = some (indices.place start)) ∧
    (let before := Session.performAll Direct3D9.Recorder.applier calls { target := {} }
      let after := before.perform Direct3D9.Recorder.applier draw
      after.1 = .ok () → ∃ indices, before.pipeline.indexBuffer.value = some indices ∧
        Direct3D9.firstIndex? after.2.target.commands =
          some ⟨indices.buffer, start.toNat * indices.format.bytes.toNat⟩ ∧
        (Direct3D9.firstIndex? after.2.target.commands = some (indices.place start) ↔
          indices.offset = 0)) ∧
    (let before := Session.performAll OpenGL.Recorder.applier calls { target := {} }
      let after := before.perform OpenGL.Recorder.applier draw
      after.1 = .ok () → ∃ indices, before.pipeline.indexBuffer.value = some indices ∧
        OpenGL.firstIndex? after.2.target.commands =
          (OpenGL.elementBuffer after.2.target.commands).map (fun buffer =>
            ⟨buffer, (indices.place start).byte % UInt32.size⟩) ∧
        (∀ earlier given later,
          after.2.target.commands = earlier ++ .bindElementBuffer given :: later →
          (∀ command ∈ later, command.vertexArray? = none) →
          OpenGL.elementBuffer after.2.target.commands = some indices.buffer ∧
            ((indices.place start).byte < UInt32.size →
              OpenGL.firstIndex? after.2.target.commands = some (indices.place start)))) := by
  intro draw
  refine ⟨?_, ?_, ?_⟩
  · intro before after hok
    obtain ⟨indices, native, reached, hindices, hnative, hreached, hwork⟩ :=
      Direct3D11.inStep_applier.indices_of_draw hcalls hlive Direct3D11.showsIndices_new hok
    exact ⟨indices, hindices, Direct3D11.firstIndex?_of_work hreached hnative hwork⟩
  · intro before after hok
    obtain ⟨indices, native, reached, hindices, hnative, hreached, hwork⟩ :=
      Direct3D9.inStep_applier.indices_of_draw hcalls hlive Direct3D9.showsIndices_new hok
    have hfirst := Direct3D9.firstIndex?_of_work hreached hnative hwork
    refine ⟨indices, hindices, hfirst, ?_⟩
    rw [hfirst, IndexBuffer.place, ← UInt32.toNat_inj]
    simp
  · intro before after hok
    obtain ⟨indices, native, reached, hindices, hnative, hreached, hwork⟩ :=
      OpenGL.inStep_applier.indices_of_draw hcalls hlive OpenGL.showsIndices_new hok
    obtain ⟨hfirst, hbuffer⟩ := OpenGL.firstIndex?_of_work hreached hnative hwork
    refine ⟨indices, hindices, hfirst, fun earlier given later hsplit hlater => ?_⟩
    have hsame := hbuffer earlier given later hsplit hlater
    refine ⟨hsame, fun hfits => ?_⟩
    rw [hfirst, hsame, Nat.mod_eq_of_lt hfits]
    rfl

/-- A context with a vertex shader and short indices that begin at some byte of a buffer. -/
def indexedCalls (offset : UInt32) : List ContextCall :=
  [.set (.shader .vertex (some Session.emptyVertexShader)),
    .set (.indexBuffer (some ⟨3, .uint16, offset⟩))]

/-- A draw that begins at the second index. -/
def secondIndexDraw : ContextCall :=
  .work Session.emptyVertexShaderOnly (.drawIndexed 3 1 0)

/-- What is recorded of that draw, after some calls on a new context. -/
def drawn {σ : Type} (applier : Applier σ) (target : σ) (calls : List ContextCall) :
    Except ContextError Unit × σ :=
  let after := (Session.performAll applier calls { target }).perform applier secondIndexDraw
  (after.1, after.2.target)

theorem firstIndex_of_draw_indexedCalls :
    Direct3D11.firstIndex? (drawn Direct3D11.Recorder.applier {} (indexedCalls 8)).2.commands =
        some ⟨3, 10⟩ ∧
      Direct3D9.firstIndex? (drawn Direct3D9.Recorder.applier {} (indexedCalls 0)).2.commands =
        some ⟨3, 2⟩ ∧
      OpenGL.firstIndex? (drawn OpenGL.Recorder.applier {} (indexedCalls 8)).2.commands =
        some ⟨3, 10⟩ := by
  have hcalls : ∀ offset, ∀ call ∈ indexedCalls offset, call.ById := by
    simp [indexedCalls, ContextCall.ById]
  have hdraws (offset : UInt32) := firstIndex_of_draw (hcalls offset)
    Session.byId_emptyVertexShaderOnly 3 1 0
  refine ⟨?_, ?_, ?_⟩
  · obtain ⟨indices, hindices, hfirst⟩ := (hdraws 8).1 (by decide +kernel)
    obtain rfl : ⟨3, .uint16, 8⟩ = indices := Option.some.inj hindices
    exact hfirst
  · obtain ⟨indices, hindices, -, hfirst⟩ := (hdraws 0).2.1 (by decide +kernel)
    obtain rfl : ⟨3, .uint16, 0⟩ = indices := Option.some.inj hindices
    exact hfirst.mpr rfl
  · obtain ⟨indices, hindices, hfirst, -⟩ := (hdraws 8).2.2 (by decide +kernel)
    obtain rfl : ⟨3, .uint16, 8⟩ = indices := Option.some.inj hindices
    have hbuffer : OpenGL.elementBuffer
        (drawn OpenGL.Recorder.applier {} (indexedCalls 8)).2.commands = some 3 := by
      decide +kernel
    exact hfirst.trans (congrArg (Option.map _) hbuffer)

/-- Direct3D 9 leaves the offset out.  OpenGL has no indices for a vertex array that was bound after
the element buffer, which is not handed over again, and beyond 32 bits it begins anew. -/
theorem firstIndex_ne_place :
    let offsetDraw := drawn Direct3D9.Recorder.applier {} (indexedCalls 8)
    let reboundDraw := drawn OpenGL.Recorder.applier {}
      (indexedCalls 8 ++ [secondIndexDraw, .set (.inputLayout (some 1))])
    let farDraw := drawn OpenGL.Recorder.applier {} (indexedCalls 4294967294)
    (offsetDraw.1 = .ok () ∧
      Direct3D9.firstIndex? offsetDraw.2.commands = some ⟨3, 2⟩ ∧
      IndexBuffer.place ⟨3, .uint16, 8⟩ 1 = ⟨3, 10⟩) ∧
    (reboundDraw.1 = .ok () ∧ OpenGL.firstIndex? reboundDraw.2.commands = none) ∧
    (farDraw.1 = .ok () ∧ OpenGL.firstIndex? farDraw.2.commands = some ⟨3, 0⟩ ∧
      IndexBuffer.place ⟨3, .uint16, 4294967294⟩ 1 = ⟨3, 4294967296⟩) := by
  decide +kernel

end CrossShade
