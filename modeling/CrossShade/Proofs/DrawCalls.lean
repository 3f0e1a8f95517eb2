import CrossShade.Proofs.IndexFetch
import CrossShade.Proofs.OpenGL.Replay
import CrossShade.Proofs.Pipeline.DrawRecords

/-!
# Draw calls

Direct3D 9 and OpenGL remember what a draw call names, and take it over only when it changed.  The
draw calls in their records are those of the context all the same.

* `PrimitiveTopology.Forms` counts the complete primitives of some vertices; `forms_primitiveCount`
  says that Direct3D 9 counts so.
* `Direct3D9.Draws` and `OpenGL.Draws` say which call a draw is for a pipeline.
* `Direct3D9.inStep_remembers` and `OpenGL.inStep_remembers` are the steps: what is remembered goes
  with what the target accepted.
* `draws_of_record` is the conclusion for every draw call of every record.
-/

namespace CrossShade

/-! ## Complete primitives -/

namespace PrimitiveTopology

variable {topology : PrimitiveTopology}

/-- How many complete primitives some vertices form.  Primitives with adjacency and patches are left
out. -/
def formed? : PrimitiveTopology → Nat → Option Nat
  | pointList, vertices => some vertices
  | lineList, vertices => some (vertices / 2)
  | lineStrip, vertices => some (vertices - 1)
  | triangleList, vertices => some (vertices / 3)
  | triangleStrip, vertices => some (vertices - 2)
  | _, _ => none

/-- The number of vertices of a primitive, and how many vertices after one the next one begins. -/
def extent? : PrimitiveTopology → Option (Nat × Nat)
  | pointList => some (1, 1)
  | lineList => some (2, 2)
  | lineStrip => some (2, 1)
  | triangleList => some (3, 3)
  | triangleStrip => some (3, 1)
  | _ => none

/-- Some vertices form a number of primitives: those of which all vertices are there. -/
structure Forms (topology : PrimitiveTopology) (vertices number : Nat) : Prop where
  formed : topology.formed? vertices = some number
  complete : ∃ size step, topology.extent? = some (size, step) ∧
    ∀ primitive, primitive < number ↔ primitive * step + size ≤ vertices

/-- A difference that stops at zero. -/
theorem toNat_sub_of_lt_zero (vertices less : UInt32) :
    (if vertices < less then 0 else vertices - less).toNat = vertices.toNat - less.toNat := by
  split
  · next hlt =>
    have hless := UInt32.lt_iff_toNat_lt.mp hlt
    rw [UInt32.toNat_zero]
    omega
  · next hge => exact UInt32.toNat_sub_of_le _ _ (UInt32.not_lt.mp hge)

/-- What Direct3D 9 counts are the complete primitives, for all topologies that it has. -/
theorem forms_primitiveCount (h : (Direct3D.plainTopology? topology).isSome) (vertices : UInt32) :
    topology.Forms vertices.toNat (topology.primitiveCount vertices).toNat := by
  cases topology with
  | pointList => exact ⟨rfl, 1, 1, rfl, fun primitive => by simp only [primitiveCount]; omega⟩
  | lineList =>
    have hcount : (lineList.primitiveCount vertices).toNat = vertices.toNat / 2 :=
      UInt32.toNat_div vertices 2
    rw [hcount]
    exact ⟨rfl, 2, 2, rfl, fun primitive => by omega⟩
  | lineStrip =>
    have hcount : (lineStrip.primitiveCount vertices).toNat = vertices.toNat - 1 :=
      toNat_sub_of_lt_zero vertices 1
    rw [hcount]
    exact ⟨rfl, 2, 1, rfl, fun primitive => by omega⟩
  | triangleList =>
    have hcount : (triangleList.primitiveCount vertices).toNat = vertices.toNat / 3 :=
      UInt32.toNat_div vertices 3
    rw [hcount]
    exact ⟨rfl, 3, 3, rfl, fun primitive => by omega⟩
  | triangleStrip =>
    have hcount : (triangleStrip.primitiveCount vertices).toNat = vertices.toNat - 2 :=
      toNat_sub_of_lt_zero vertices 2
    rw [hcount]
    exact ⟨rfl, 3, 1, rfl, fun primitive => by omega⟩
  | _ => cases h

end PrimitiveTopology

/-- A number that a target has for a value is the one that it was asked for. -/
theorem Target.demand_eq_ok_iff {α : Type} {target : Target} {name : String} {value : Option α}
    {found : α} : target.demand name value = .ok found ↔ value = some found := by
  cases value <;> simp [demand]

/-! ## Direct3D 9 -/

namespace Direct3D9

/-- The call of a draw for a pipeline: the type of its topology, and the complete primitives of its
vertices or indices. -/
inductive Draws (pipeline : Pipeline) : Work → Command → Prop
  | draw {count start type number : UInt32}
      (htype : native.topology? pipeline.topology.value = some type)
      (hnumber : pipeline.topology.value.Forms count.toNat number.toNat) :
      Draws pipeline (.draw count start) (.drawPrimitive type start number)
  | drawIndexed {count start type number : UInt32} {base : Int}
      (htype : native.topology? pipeline.topology.value = some type)
      (hnumber : pipeline.topology.value.Forms count.toNat number.toNat) :
      Draws pipeline (.drawIndexed count start base) (.drawIndexedPrimitive type base start number)

/-- Whether a call draws. -/
def Command.IsDraw : Command → Prop
  | drawPrimitive _ _ _ | drawIndexedPrimitive _ _ _ _ => True
  | _ => False

theorem not_isDraw_of_mem_streamSources {first : Nat} {buffers : List (Option VertexBuffer)}
    {command : Command} (h : command ∈ streamSources first buffers) : ¬command.IsDraw := by
  induction buffers generalizing first with
  | nil => cases h
  | cons buffer rest ih =>
    rcases List.mem_cons.mp h with rfl | hrest
    · exact id
    · exact ih hrest

theorem not_isDraw_of_mem_ifSupported {stage : Stage} {call command : Command}
    (hcall : ¬call.IsDraw) (h : command ∈ ifSupported stage call) : ¬command.IsDraw := by
  unfold ifSupported at h
  split at h
  · exact List.mem_singleton.mp h ▸ hcall
  · cases h

/-- No call of a change draws. -/
theorem not_isDraw_of_mem_ofChange {change : Change} {made : List Command}
    (h : Command.ofChange change = .ok made) {command : Command} (hmem : command ∈ made) :
    ¬command.IsDraw := by
  cases change with
  | topology topology =>
    obtain ⟨_, -, rfl⟩ := map_eq_ok.mp h
    cases hmem
  | vertexBuffers first buffers =>
    cases h
    exact not_isDraw_of_mem_streamSources hmem
  | indexBuffer buffer =>
    cases buffer <;> cases h <;> exact List.mem_singleton.mp hmem ▸ id
  | shader stage shader =>
    simp only [Command.ofChange] at h
    split at h
    · cases h
    · cases h
      exact not_isDraw_of_mem_ifSupported id hmem
  | resources stage category first ids =>
    cases category with
    | writeView =>
      simp only [Command.ofChange, refuseWriteViews] at h
      split at h <;> cases h
      cases hmem
    | _ =>
      cases h
      exact not_isDraw_of_mem_ifSupported id hmem
  | viewports viewports =>
    cases h
    obtain ⟨viewport, -, rfl⟩ := List.mem_map.mp hmem
    exact id
  | scissorRects rects =>
    cases h
    obtain ⟨rect, -, rfl⟩ := List.mem_map.mp hmem
    exact id
  | _ =>
    cases h
    exact List.mem_singleton.mp hmem ▸ id

/-- Work that is done is recorded by one call, a draw call. -/
theorem workCommands_cases {topology : PrimitiveTopology} {work : Work} {made : List Command}
    (h : Recorder.workCommands topology work = .ok made) :
    work.IsDraw ∧ ∃ command, made = [command] := by
  cases work with
  | dispatch x y z => cases h
  | _ =>
    obtain ⟨type, -, hmade⟩ := bind_eq_ok.mp h
    exact ⟨trivial, _, (pure_eq_ok.mp hmade).symm⟩

/-- Only work that draws adds a draw call to the record. -/
theorem Recorder.records_applier : Recorder.applier.Records Recorder.commands Command.IsDraw where
  change change recorder result next h := by
    simp only [applier, Recorder.change] at h
    split at h
    · cases h
      exact ⟨[], (List.append_nil _).symm, fun _ hmem => absurd hmem List.not_mem_nil⟩
    · next made hmade =>
      cases h
      exact ⟨made, rfl, fun command hmem => not_isDraw_of_mem_ofChange hmade hmem⟩
  work work recorder result next h := by
    simp only [applier, Recorder.work] at h
    split at h
    · cases h
      exact ⟨[], (List.append_nil _).symm, fun _ hmem => absurd hmem List.not_mem_nil⟩
    · next made hmade =>
      cases h
      obtain ⟨hdraw, command, rfl⟩ := workCommands_cases hmade
      exact ⟨[command], rfl, fun entry hmem _ => ⟨List.mem_singleton.mp hmem ▸ rfl, hdraw, rfl⟩⟩

/-- The recorder remembers the topology. -/
def Remembers (native : NativeState) (recorder : Recorder) : Prop :=
  recorder.topology = native.topology

theorem remembers_new : Remembers .new {} :=
  rfl

/-- The topology goes with what the recorder accepts: one without a type is refused before it is
remembered. -/
theorem inStep_remembers : Recorder.applier.InStep Remembers where
  accepted change native recorder next hremembers h := by
    simp only [Recorder.applier, Recorder.change] at h
    split at h
    · cases h
    · cases h
      cases change with
      | topology topology => exact rfl
      | _ => exact hremembers
  refused change native recorder next error hremembers h := by
    simp only [Recorder.applier, Recorder.change] at h
    split at h
    · cases h
      exact hremembers
    · cases h
  worked work native recorder hremembers := by
    simp only [Recorder.applier, Recorder.work]
    split <;> exact hremembers

/-- The call of work that is done, when the topology is remembered. -/
theorem draws_of_work {pipeline : Pipeline} {recorder after : Recorder} {work : Work}
    (htopology : recorder.topology = pipeline.topology.value)
    (h : recorder.work work = (.ok (), after)) :
    ∃ draw, after.commands = recorder.commands ++ [draw] ∧ Draws pipeline work draw := by
  unfold Recorder.work at h
  split at h
  · cases h
  · next made hmade =>
    cases h
    rw [htopology] at hmade
    cases work with
    | dispatch x y z => cases hmade
    | draw count start =>
      obtain ⟨type, htype, hmade⟩ := bind_eq_ok.mp hmade
      obtain rfl := pure_eq_ok.mp hmade
      have hnative := Target.demand_eq_ok_iff.mp htype
      exact ⟨_, rfl, .draw hnative
        (PrimitiveTopology.forms_primitiveCount (Option.isSome_of_eq_some hnative) count)⟩
    | drawIndexed count start base =>
      obtain ⟨type, htype, hmade⟩ := bind_eq_ok.mp hmade
      obtain rfl := pure_eq_ok.mp hmade
      have hnative := Target.demand_eq_ok_iff.mp htype
      exact ⟨_, rfl, .drawIndexed hnative
        (PrimitiveTopology.forms_primitiveCount (Option.isSome_of_eq_some hnative) count)⟩

end Direct3D9

/-! ## OpenGL -/

namespace OpenGL

/-- The call of a draw for a pipeline: the mode of its topology, and for indices the type of its
index buffer and the byte where they begin, as long as 32 bits hold it. -/
inductive Draws (pipeline : Pipeline) : Work → Command → Prop
  | draw {count start mode : UInt32}
      (hmode : native.topology? pipeline.topology.value = some mode) :
      Draws pipeline (.draw count start) (.drawArrays mode start count)
  | drawIndexed {count start mode offset : UInt32} {base : Int} {indices : IndexBuffer}
      (hmode : native.topology? pipeline.topology.value = some mode)
      (hindices : pipeline.indexBuffer.value = some indices)
      (hoffset : (indices.place start).byte < UInt32.size →
        offset.toNat = (indices.place start).byte) :
      Draws pipeline (.drawIndexed count start base)
        (.drawElements mode count (native.indexFormat indices.format) offset base)

/-- The recorder remembers the mode of the topology and the index buffer. -/
structure Remembers (state : NativeState) (recorder : Recorder) : Prop where
  mode : native.topology? state.topology = some recorder.mode
  indices : recorder.indices = state.indexBuffer

theorem remembers_new : Remembers .new {} :=
  ⟨rfl, rfl⟩

/-- Mode and index buffer go with what the recorder accepts. -/
theorem inStep_remembers : Recorder.applier.InStep Remembers where
  accepted change state recorder next hremembers h := by
    simp only [Recorder.applier, Recorder.change] at h
    split at h
    · cases h
    · next made hmade =>
      cases h
      cases change with
      | topology topology =>
        obtain ⟨mode, hmode, -⟩ := map_eq_ok.mp hmade
        have hnative := Target.demand_eq_ok_iff.mp hmode
        refine ⟨hnative.trans ?_, hremembers.indices⟩
        show some mode = some ((native.topology? topology).getD recorder.mode)
        rw [hnative, Option.getD_some]
      | indexBuffer buffer => exact ⟨hremembers.mode, rfl⟩
      | _ => exact ⟨hremembers.mode, hremembers.indices⟩
  refused change state recorder next error hremembers h :=
    Recorder.eq_of_change_error h ▸ hremembers
  worked work state recorder hremembers := ⟨hremembers.mode, hremembers.indices⟩

/-- The call of valid work, when mode and index buffer are remembered. -/
theorem draws_of_work {pipeline : Pipeline} {live : LiveShaders} {recorder after : Recorder}
    {work : Work} (hdraw : work.IsDraw) (hvalid : pipeline.validate live work = .ok ())
    (hmode : native.topology? pipeline.topology.value = some recorder.mode)
    (hindices : recorder.indices = pipeline.indexBuffer.value)
    (h : recorder.work work = (.ok (), after)) :
    ∃ draw, after.commands = recorder.commands ++ [draw] ∧ Draws pipeline work draw := by
  cases h
  refine ⟨recorder.workCommand work, rfl, ?_⟩
  cases work with
  | dispatch x y z => exact hdraw.elim
  | draw count start => exact .draw hmode
  | drawIndexed count start base =>
    obtain ⟨buffer, hbuffer⟩ := Pipeline.exists_indexBuffer_of_validate hvalid
    have hstart : recorder.indexStart = (buffer.format, buffer.offset) := by
      rw [Recorder.indexStart, hindices, hbuffer]
    simp only [Recorder.workCommand, hstart]
    refine .drawIndexed hmode hbuffer fun hfits => ?_
    have hbyte : (buffer.offset + start * buffer.format.bytes).toNat =
        (buffer.place start).byte % UInt32.size := by
      simp [IndexBuffer.place, UInt32.toNat_add, UInt32.toNat_mul, UInt32.size]
    rw [hbyte, Nat.mod_eq_of_lt hfits]

end OpenGL

/-! ## Every draw of a record -/

/-- Whatever calls are made on a new context, and whichever of them are refused: every draw call in
the record was added by a draw, and is the call of this draw for the pipeline that the context had
at the time. -/
theorem draws_of_record {calls : List ContextCall} (hcalls : ∀ call ∈ calls, call.ById) :
    (let session (calls : List ContextCall) :=
        Session.performAll Direct3D9.Recorder.applier calls { target := {} }
      ∀ prior draw later, (session calls).target.commands = prior ++ draw :: later → draw.IsDraw →
        ∃ done live work rest, calls = done ++ .work live work :: rest ∧
          (session (done ++ [.work live work])).target.commands = prior ++ [draw] ∧
          Direct3D9.Draws (session done).pipeline work draw) ∧
    (let session (calls : List ContextCall) :=
        Session.performAll OpenGL.Recorder.applier calls { target := {} }
      ∀ prior draw later, (session calls).target.commands = prior ++ draw :: later → draw.IsDraw →
        ∃ done live work rest, calls = done ++ .work live work :: rest ∧
          (session (done ++ [.work live work])).target.commands = prior ++ [draw] ∧
          OpenGL.Draws (session done).pipeline work draw) := by
  constructor
  · intro session prior draw later hsplit hdraw
    obtain ⟨done, live, work, rest, native, reached, after, rfl, -, hended, -, hnative, hremembers,
      hwork, hafter⟩ := Direct3D9.inStep_remembers.draw_of_record
        Direct3D9.Recorder.records_applier Direct3D9.remembers_new rfl hcalls hdraw hsplit
    obtain ⟨made, hmade, hdraws⟩ :=
      Direct3D9.draws_of_work (hremembers.trans hnative.topology) hwork
    obtain rfl : draw = made :=
      (List.append_inj_right' (hafter.symm.trans hmade) rfl |> List.cons.inj).1
    exact ⟨done, live, work, rest, rfl, hended, hdraws⟩
  · intro session prior draw later hsplit hdraw
    obtain ⟨done, live, work, rest, native, reached, after, rfl, hworkDraws, hended, hvalid,
      hnative, hremembers, hwork, hafter⟩ := OpenGL.inStep_remembers.draw_of_record
        OpenGL.Recorder.records_applier OpenGL.remembers_new rfl hcalls hdraw hsplit
    obtain ⟨made, hmade, hdraws⟩ :=
      OpenGL.draws_of_work hworkDraws hvalid (hnative.topology ▸ hremembers.mode)
        (hremembers.indices.trans hnative.indexBuffer) hwork
    obtain rfl : draw = made :=
      (List.append_inj_right' (hafter.symm.trans hmade) rfl |> List.cons.inj).1
    exact ⟨done, live, work, rest, rfl, hended, hdraws⟩

/-- Draws in topologies that are refused, by the context or by Direct3D 9. -/
def refusedDraws : List ContextCall :=
  [.set (.shader .vertex (some Session.emptyVertexShader)),
    .set (.topology (.patchList 3)),
    .work Session.emptyVertexShaderOnly (.draw 9 0),
    .set (.topology .lineListAdj),
    .work Session.emptyVertexShaderOnly (.draw 9 0),
    .set (.topology .triangleStrip),
    .set (.indexBuffer (some ⟨3, .uint16, 8⟩))]

/-- After them, a draw of three triangles in a strip with indices from the third one of a buffer. -/
def stripDraw : ContextCall :=
  .work Session.emptyVertexShaderOnly (.drawIndexed 5 2 0)

/-- No earlier call is an indexed draw. -/
theorem eq_of_append_stripDraw {done rest : List ContextCall} {live : LiveShaders}
    {count start : UInt32} {base : Int}
    (h : refusedDraws ++ [stripDraw] = done ++ .work live (.drawIndexed count start base) :: rest) :
    done = refusedDraws ∧ ContextCall.work live (.drawIndexed count start base) = stripDraw :=
  eq_of_append_single (by simp [refusedDraws]) h

theorem draws_of_record_stripDraw :
    (∃ prior, (Session.performAll Direct3D9.Recorder.applier (refusedDraws ++ [stripDraw])
        { target := {} }).target.commands = prior ++ [.drawIndexedPrimitive 5 0 2 3]) ∧
      Direct3D9.Draws
        (Session.performAll Direct3D9.Recorder.applier refusedDraws { target := {} }).pipeline
        (.drawIndexed 5 2 0) (.drawIndexedPrimitive 5 0 2 3) ∧
      (∃ prior, (Session.performAll OpenGL.Recorder.applier (refusedDraws ++ [stripDraw])
        { target := {} }).target.commands = prior ++ [.drawElements 5 5 5123 12 0]) ∧
      OpenGL.Draws
        (Session.performAll OpenGL.Recorder.applier refusedDraws { target := {} }).pipeline
        (.drawIndexed 5 2 0) (.drawElements 5 5 5123 12 0) := by
  have hcalls : ∀ call ∈ refusedDraws ++ [stripDraw], call.ById := by
    simp [refusedDraws, stripDraw, ContextCall.ById, Session.byId_emptyVertexShaderOnly]
  have hdraws := draws_of_record hcalls
  have hdirect3D9 := (List.dropLast_append_getLast? (l := (Session.performAll
    Direct3D9.Recorder.applier (refusedDraws ++ [stripDraw]) { target := {} }).target.commands)
    (.drawIndexedPrimitive 5 0 2 3) rfl).symm
  have hopenGL := (List.dropLast_append_getLast? (l := (Session.performAll
    OpenGL.Recorder.applier (refusedDraws ++ [stripDraw]) { target := {} }).target.commands)
    (.drawElements 5 5 5123 12 0) rfl).symm
  refine ⟨⟨_, hdirect3D9⟩, ?_, ⟨_, hopenGL⟩, ?_⟩
  · obtain ⟨done, live, work, rest, hsplit, -, hdraw⟩ := hdraws.1 _ _ [] hdirect3D9 trivial
    have hwork := hdraw
    cases hwork with
    | drawIndexed htype hnumber =>
      obtain ⟨rfl, hsame⟩ := eq_of_append_stripDraw hsplit
      cases hsame
      exact hdraw
  · obtain ⟨done, live, work, rest, hsplit, -, hdraw⟩ := hdraws.2 _ _ [] hopenGL trivial
    generalize hcall : OpenGL.Command.drawElements 5 5 5123 12 0 = call at hdraw ⊢
    cases hdraw with
    | draw hmode => cases hcall
    | drawIndexed hmode hindices hoffset =>
      obtain ⟨rfl, hsame⟩ := eq_of_append_stripDraw hsplit
      cases hsame
      exact .drawIndexed hmode hindices hoffset

end CrossShade
