import CrossShade.Device
import CrossShade.Proofs.Outcome
import Mathlib.Data.List.Nodup
import Std.Data.TreeMap.Lemmas

/-!
# Devices in use

What holds of a device after any calls, whatever the compiler answered to each of them.

* `Device.Call` and `Device.Log` are the calls on a device and their record.
* `createShader_cases`, `createLayout_cases` and `destroyShader_cases` say what each call can do,
  and `Performs` what any call can do.
* `Log.Sound` is the invariant: which ids are taken, that the drafts are those of the vertex shaders
  that exist, whom the layouts feed, and that every shader is what its backend and its compiler made
  of it.
* `Log.sound_perform` is one step and `Log.sound_performAll` the run.  `run_keeps_order` adds what
  refused calls and destruction leave as it is.
-/

namespace CrossShade

namespace Device

variable {α β : Type}

/-! ## Calls -/

/-- A call on a device.  A shader is created with the compiler as it is then. -/
inductive Call where
  | createShader (compiler : Compiler) (stage : Stage) (shader : Shader)
  | createLayout (shader : Nat) (elements : List VertexElement)
  | destroyShader (id : Nat)

/-- The answer to a call. -/
inductive Answer where
  | shader (result : Except ShaderError Nat)
  | layout (result : Except ContextError Nat)
  | destroyed (result : Except ContextError Unit)

namespace Answer

/-- The id that is handed out. -/
def id? : Answer → Option Nat
  | shader (.ok id) | layout (.ok id) => some id
  | _ => none

/-- Whether the call was refused. -/
def isError : Answer → Bool
  | shader (.error _) | layout (.error _) | destroyed (.error _) => true
  | _ => false

/-- A call that is refused hands out no id. -/
theorem id?_of_isError {answer : Answer} (h : answer.isError = true) : answer.id? = none := by
  unfold isError at h
  split at h
  · rfl
  · rfl
  · rfl
  · cases h

end Answer

/-- Makes one call. -/
def perform (device : Device α β) : Call → Answer × Device α β
  | .createShader compiler stage shader =>
    let outcome := device.createShader compiler stage shader
    (.shader outcome.1, outcome.2)
  | .createLayout shader elements =>
    match device.createLayout shader elements with
    | .ok (id, next) => (.layout (.ok id), next)
    | .error error => (.layout (.error error), device)
  | .destroyShader id =>
    match device.destroyShader id with
    | .ok next => (.destroyed (.ok ()), next)
    | .error error => (.destroyed (.error error), device)

/-- A device with the calls made on it so far and their answers. -/
structure Log (α β : Type) where
  device : Device α β
  history : List (Call × Answer) := []

namespace Log

/-- A device before any call. -/
def new (backend : Backend α β) (settings : Settings) : Log α β :=
  ⟨{ backend, settings }, []⟩

/-- Makes one call and records it. -/
def perform (log : Log α β) (call : Call) : Log α β :=
  let outcome := log.device.perform call
  ⟨outcome.2, log.history ++ [(call, outcome.1)]⟩

/-- Makes calls one after the other, whatever their answers. -/
def performAll (log : Log α β) (calls : List Call) : Log α β :=
  calls.foldl perform log

/-- The ids that were handed out, in order. -/
def handedOut (log : Log α β) : List Nat :=
  log.history.filterMap (·.2.id?)

end Log

/-! ## What calls do -/

/-- Dumping changes nothing but what is dumped. -/
theorem dump_eq (device : Device α β) (shader : Shader) (source : String) :
    ∃ dumped, device.dump shader source = { device with dumped } := by
  unfold dump
  dsimp only
  split
  · exact ⟨_, rfl⟩
  · exact ⟨device.dumped, rfl⟩

/-- A shader is what its backend and a compiler made of the shader that it was written for. -/
structure IsMade (backend : Backend α β) (settings : Settings) (compiler : Compiler)
    (compiled : CompiledShader) : Prop where
  name : compiled.name = compiled.shader.name
  stage : compiled.stage = compiled.shader.stage
  supported : backend.supports compiled.stage = true
  facts : compiled.shader.stageFacts = .ok compiled.facts
  profile : backend.profile compiled.shader = .ok compiled.profile
  source : backend.generate compiled.shader = .ok compiled.source
  /-- The compiler was asked with this source text, and the bytecode is what it put out. -/
  bytecode : ∃ warnings, compiler ⟨compiled.source, Backend.entryPoint, compiled.profile,
      compiled.stage, compiled.name⟩ (Compiler.flags settings) = .ok ⟨compiled.bytecode, warnings⟩

/-- The draft that belongs to a shader: a vertex shader has the one that its backend makes, and no
other shader has any. -/
structure IsDrafted (backend : Backend α β) (compiled : CompiledShader)
    (draft : Option (LayoutDraft α)) : Prop where
  vertex : compiled.stage = .vertex → ∃ made,
    backend.layoutDraft compiled.shader = .ok made ∧ draft = some made
  other : compiled.stage ≠ .vertex → draft = none

theorem IsDrafted.isSome_iff {backend : Backend α β} {compiled : CompiledShader}
    {draft : Option (LayoutDraft α)} (h : IsDrafted backend compiled draft) :
    draft.isSome ↔ compiled.stage = .vertex := by
  constructor
  · intro hsome
    by_contra hother
    rw [h.other hother] at hsome
    cases hsome
  · intro hvertex
    obtain ⟨made, -, rfl⟩ := h.vertex hvertex
    rfl

theorem exists_output_of_run {compiler : Compiler} {settings : Settings}
    {request : CompileRequest} {bytecode : Bytecode}
    (h : compiler.run settings request = .ok bytecode) :
    ∃ warnings, compiler request (Compiler.flags settings) = .ok ⟨bytecode, warnings⟩ := by
  unfold Compiler.run at h
  split at h
  · cases h
  · rename_i output houtput
    split at h
    · cases h
    · cases h
      exact ⟨output.warnings, houtput⟩

/-- What is asked of the compiler comes from the shader and the backend. -/
theorem prepare_eq_ok {device : Device α β} {stage : Stage} {shader : Shader} {facts : StageFacts}
    {request : CompileRequest} (h : device.prepare stage shader = .ok (facts, request)) :
    shader.stage = stage ∧ device.backend.supports stage = true ∧ shader.stageFacts = .ok facts ∧
      device.backend.profile shader = .ok request.profile ∧
      device.backend.generate shader = .ok request.source ∧
      request = ⟨request.source, Backend.entryPoint, request.profile, stage, shader.name⟩ := by
  unfold prepare at h
  split at h
  · cases h
  · rename_i hstage
    split at h
    · cases h
    · rename_i hsupports
      simp only [bind_eq_ok, pure_eq_ok] at h
      obtain ⟨found, hfacts, profile, hprofile, source, hsource, hrequest⟩ := h
      obtain ⟨rfl, rfl⟩ := Prod.mk.inj hrequest
      have hfound : shader.stageFacts = .ok found := mapError_eq_ok.mp hfacts
      exact ⟨not_not.mp hstage, by simpa using hsupports, hfound, hprofile, hsource, rfl⟩

theorem compile_eq_ok {device : Device α β} {compiler : Compiler} {shader : Shader}
    {request : CompileRequest} {bytecode : Bytecode} {draft : Option (LayoutDraft α)}
    (h : device.compile compiler shader request = .ok (bytecode, draft)) :
    compiler.run device.settings request = .ok bytecode ∧
      (request.stage = .vertex → ∃ made,
        device.backend.layoutDraft shader = .ok made ∧ draft = some made) ∧
      (request.stage ≠ .vertex → draft = none) := by
  simp only [compile, bind_eq_ok] at h
  obtain ⟨found, hrun, h⟩ := h
  split at h
  · rename_i hvertex
    simp only [bind_eq_ok, map_eq_ok, pure_eq_ok, Prod.mk.injEq] at h
    obtain ⟨_, ⟨made, hmade, rfl⟩, rfl, rfl⟩ := h
    exact ⟨hrun, fun _ => ⟨made, hmade, rfl⟩, fun hother => absurd hvertex hother⟩
  · rename_i hother
    simp only [bind_eq_ok, pure_eq_ok, Prod.mk.injEq] at h
    obtain ⟨_, rfl, rfl, rfl⟩ := h
    exact ⟨hrun, fun hvertex => absurd hvertex hother, fun _ => rfl⟩

/-- Whether the device can count on. -/
def HasId (device : Device α β) : Prop :=
  device.nextId.toNat + 1 < UInt64.size

theorem takeId_cases (device : Device α β) :
    device.takeId = .error .noIdLeft ∨
    device.HasId ∧
      device.takeId = .ok (device.nextId.toNat, { device with nextId := device.nextId + 1 }) := by
  unfold takeId
  split
  · rename_i hleft
    exact .inr ⟨hleft, rfl⟩
  · exact .inl rfl

/-- Counting on goes to the next number. -/
theorem HasId.toNat_succ {device : Device α β} (h : device.HasId) :
    (device.nextId + 1).toNat = device.nextId.toNat + 1 := by
  rw [UInt64.toNat_add]
  exact Nat.mod_eq_of_lt h

/-- Creating a shader is refused, or adds one shader that is made as it should be, with the next id
and for the stage and the shader that were given, and the draft that belongs to it. -/
theorem createShader_cases (device : Device α β) (compiler : Compiler) (stage : Stage)
    (shader : Shader) :
    (∃ error dumped, device.createShader compiler stage shader =
      (.error error, { device with dumped })) ∨
    ∃ compiled draft dumped, device.HasId ∧
      device.createShader compiler stage shader = (.ok device.nextId.toNat,
        { device.keep compiled draft with nextId := device.nextId + 1, dumped }) ∧
      compiled.id = device.nextId.toNat ∧ compiled.stage = stage ∧ compiled.shader = shader ∧
      IsMade device.backend device.settings compiler compiled ∧
      IsDrafted device.backend compiled draft := by
  unfold createShader
  split
  · rename_i error _
    exact .inl ⟨error, device.dumped, rfl⟩
  · rename_i facts request hprepare
    obtain ⟨hstage, hsupported, hfacts, hprofile, hsource, hrequest⟩ := prepare_eq_ok hprepare
    obtain ⟨dumped, hdump⟩ := device.dump_eq shader request.source
    rw [hdump]
    dsimp only
    split
    · rename_i error _
      exact .inl ⟨error, dumped, rfl⟩
    · rename_i bytecode draft hcompile
      obtain ⟨hrun, hvertex, hother⟩ := compile_eq_ok hcompile
      obtain ⟨warnings, houtput⟩ := exists_output_of_run hrun
      have hrequestStage : request.stage = stage := by rw [hrequest]
      rw [hrequestStage] at hvertex hother ⊢
      rcases takeId_cases { device with dumped } with hnone | ⟨hleft, htake⟩
      · rw [hnone]
        exact .inl ⟨.noIdLeft, dumped, rfl⟩
      · rw [htake]
        refine .inr ⟨_, draft, dumped, hleft, rfl, rfl, rfl, rfl, ?_, ⟨hvertex, hother⟩⟩
        exact ⟨rfl, hstage.symm, hsupported, hfacts, hprofile, hsource,
          ⟨warnings, hrequest ▸ houtput⟩⟩

/-- A finished layout has one element for each entry of its draft. -/
theorem length_finishAll {target : Target}
    {finish : LayoutEntry α → VertexElement → ExceptT ShaderError Id β}
    {pairs : List (LayoutEntry α × VertexElement)} {elements : List β}
    (h : (LayoutDraft.finishAll target finish pairs).run =
      (.ok elements : Except ShaderError (List β))) :
    elements.length = pairs.length := by
  induction pairs generalizing elements with
  | nil =>
    cases h
    rfl
  | cons pair rest ih =>
    obtain ⟨entry, element⟩ := pair
    unfold LayoutDraft.finishAll at h
    split at h
    · simp only [run_bind_eq_ok] at h
      obtain ⟨first, -, following, hfollowing, hpure⟩ := h
      cases hpure
      exact congrArg (· + 1) (ih hfollowing)
    · cases h

theorem length_finishLayout {backend : Backend α β} {draft : LayoutDraft α}
    {elements : List VertexElement} {finished : List β}
    (h : backend.finishLayout draft elements = .ok finished) : finished.length = draft.length := by
  unfold Backend.finishLayout LayoutDraft.finish at h
  split at h
  · rename_i hlength
    rw [length_finishAll h, List.length_zip, hlength]
    exact Nat.min_self _
  · cases h

theorem draft_eq_ok_iff {device : Device α β} {id : Nat} {draft : LayoutDraft α} :
    device.draft id = .ok draft ↔
      (device.shader? id).isSome ∧ device.drafts[id]? = some draft := by
  unfold Device.draft
  cases device.shader? id with
  | none => simp
  | some compiled => cases device.drafts[id]? <;> simp

/-- Creating a layout is refused, or adds one layout with the next id, which has an element for each
entry of the draft of its shader. -/
theorem createLayout_cases (device : Device α β) (shader : Nat) (elements : List VertexElement) :
    (∃ error, device.createLayout shader elements = .error error) ∨
    ∃ draft finished, device.HasId ∧ device.draft shader = .ok draft ∧
      finished.length = draft.length ∧
      device.createLayout shader elements = .ok (device.nextId.toNat,
        { device with
          layouts := device.layouts.insert device.nextId.toNat ⟨shader, finished⟩
          nextId := device.nextId + 1 }) := by
  unfold createLayout
  cases hdraft : device.draft shader with
  | error error => exact .inl ⟨error, rfl⟩
  | ok draft =>
    cases hfinished : device.backend.finishLayout draft elements with
    | error error => exact .inl ⟨_, by rw [ok_bind, hfinished]; rfl⟩
    | ok finished =>
      rcases takeId_cases device with hnone | ⟨hleft, htake⟩
      · exact .inl ⟨_, by rw [ok_bind, hfinished, hnone]; rfl⟩
      · refine .inr ⟨draft, finished, hleft, rfl, length_finishLayout hfinished, ?_⟩
        rw [ok_bind, hfinished, htake]
        rfl

/-- The device without a shader, its draft and the layouts made for it. -/
def without (device : Device α β) (id : Nat) : Device α β :=
  { device with
    shaders := device.shaders.erase id
    drafts := device.drafts.erase id
    layouts := device.layouts.filter fun _ layout => layout.shader ≠ id }

/-- Destroying a shader fails if it does not exist, and otherwise takes it, its draft and the
layouts for it. -/
theorem destroyShader_cases (device : Device α β) (id : Nat) :
    (device.shader? id = none ∧ device.destroyShader id = .error (.unknownShader id)) ∨
    ((device.shader? id).isSome ∧ device.destroyShader id = .ok (device.without id)) := by
  unfold destroyShader
  cases hfind : device.shader? id with
  | none => exact .inl ⟨rfl, rfl⟩
  | some compiled => exact .inr ⟨rfl, rfl⟩

/-- All that a call can do: it is refused, it adds a shader or a layout with the next id, or it
takes away a shader with what belongs to it. -/
inductive Performs (device : Device α β) : Call → Answer → Device α β → Prop where
  | refused (call : Call) {answer : Answer} (herror : answer.isError = true)
      (dumped : List (String × String)) : Performs device call answer { device with dumped }
  | created (compiler : Compiler) {compiled : CompiledShader} {draft : Option (LayoutDraft α)}
      (hleft : device.HasId) (hid : compiled.id = device.nextId.toNat)
      (hmade : IsMade device.backend device.settings compiler compiled)
      (hdraft : IsDrafted device.backend compiled draft) (dumped : List (String × String)) :
      Performs device (.createShader compiler compiled.stage compiled.shader)
        (.shader (.ok device.nextId.toNat))
        { device.keep compiled draft with nextId := device.nextId + 1, dumped }
  | laidOut {shader : Nat} {draft : LayoutDraft α} {finished : List β} (hleft : device.HasId)
      (hdraft : device.draft shader = .ok draft) (hlength : finished.length = draft.length)
      (elements : List VertexElement) :
      Performs device (.createLayout shader elements) (.layout (.ok device.nextId.toNat))
        { device with
          layouts := device.layouts.insert device.nextId.toNat ⟨shader, finished⟩
          nextId := device.nextId + 1 }
  | destroyed {id : Nat} (hfound : (device.shader? id).isSome) :
      Performs device (.destroyShader id) (.destroyed (.ok ())) (device.without id)

/-- There is one case for each call, and in it one for each way in which the call can end. -/
theorem performs (device : Device α β) (call : Call) :
    device.Performs call (device.perform call).1 (device.perform call).2 := by
  cases call with
  | createShader compiler stage shader =>
    rcases createShader_cases device compiler stage shader with
      ⟨error, dumped, hcreate⟩ |
      ⟨compiled, draft, dumped, hleft, hcreate, hid, rfl, rfl, hmade, hdraft⟩
    · simp only [perform, hcreate]
      exact .refused _ rfl dumped
    · simp only [perform, hcreate]
      exact .created compiler hleft hid hmade hdraft dumped
  | createLayout shader elements =>
    rcases createLayout_cases device shader elements with
      ⟨error, hcreate⟩ | ⟨draft, finished, hleft, hdraft, hlength, hcreate⟩
    · simp only [perform, hcreate]
      exact .refused _ rfl device.dumped
    · simp only [perform, hcreate]
      exact .laidOut hleft hdraft hlength elements
  | destroyShader id =>
    rcases destroyShader_cases device id with ⟨-, hdestroy⟩ | ⟨hfound, hdestroy⟩
    · simp only [perform, hdestroy]
      exact .refused _ rfl device.dumped
    · simp only [perform, hdestroy]
      exact .destroyed hfound

/-! ## What is found after a call -/

section Lookups

variable (device : Device α β) (compiled : CompiledShader) (draft : Option (LayoutDraft α))
  (id other : Nat)

theorem shader?_keep : (device.keep compiled draft).shader? other =
    if compiled.id = other then some compiled else device.shader? other := by
  simp [shader?, keep, Std.TreeMap.getElem?_insert]

/-- Where nothing was before, there is the draft that is kept. -/
theorem drafts_keep (hfresh : device.drafts[compiled.id]? = none) :
    (device.keep compiled draft).drafts[other]? =
      if compiled.id = other then draft else device.drafts[other]? := by
  cases draft with
  | none =>
    show device.drafts[other]? = _
    split
    · rename_i hsame
      exact hsame ▸ hfresh
    · rfl
  | some made => simp [keep, Std.TreeMap.getElem?_insert]

theorem shader?_without :
    (device.without id).shader? other = if id = other then none else device.shader? other := by
  simp [shader?, without, Std.TreeMap.getElem?_erase]

theorem drafts_without :
    (device.without id).drafts[other]? = if id = other then none else device.drafts[other]? := by
  simp [without, Std.TreeMap.getElem?_erase]

theorem layouts_without (layout : InputLayout β) :
    (device.without id).layouts[other]? = some layout ↔
      device.layouts[other]? = some layout ∧ layout.shader ≠ id := by
  simp [without, Option.filter_eq_some_iff]

end Lookups

/-! ## The invariant -/

/-- An id is taken by a shader or a layout. -/
def Takes (device : Device α β) (id : Nat) : Prop :=
  (device.shader? id).isSome ∨ device.layouts[id]?.isSome

/-- A shader that is kept takes its own id. -/
theorem Takes.of_keep {device : Device α β} {compiled : CompiledShader}
    {draft : Option (LayoutDraft α)} {id : Nat} (h : (device.keep compiled draft).Takes id) :
    compiled.id = id ∨ device.Takes id := by
  by_cases hsame : compiled.id = id
  · exact .inl hsame
  · rcases h with hshader | hlayout
    · rw [shader?_keep, if_neg hsame] at hshader
      exact .inr (.inl hshader)
    · exact .inr (.inr hlayout)

/-- A layout that is added takes its own id. -/
theorem Takes.of_insert {device : Device α β} {taken id : Nat} {layout : InputLayout β}
    (h : Takes { device with layouts := device.layouts.insert taken layout } id) :
    taken = id ∨ device.Takes id := by
  by_cases hsame : taken = id
  · exact .inl hsame
  · rcases h with hshader | hlayout
    · exact .inr (.inl hshader)
    · refine .inr (.inr ?_)
      simpa [Std.TreeMap.getElem?_insert, hsame] using hlayout

/-- A layout has its vertex shader, and as many elements as that needs. -/
def Feeds (device : Device α β) (layout : InputLayout β) : Prop :=
  ∃ compiled, device.shader? layout.shader = some compiled ∧ compiled.stage = .vertex ∧
    device.layoutLength layout.shader = .ok layout.elements.length

/-- Whether a layout has its shader depends on that shader and its draft alone. -/
theorem Feeds.of_eq {device next : Device α β} {layout : InputLayout β} (h : device.Feeds layout)
    (hshader : next.shader? layout.shader = device.shader? layout.shader)
    (hdraft : next.drafts[layout.shader]? = device.drafts[layout.shader]?) :
    next.Feeds layout := by
  obtain ⟨compiled, hcompiled, hvertex, hlength⟩ := h
  refine ⟨compiled, hshader.trans hcompiled, hvertex, ?_⟩
  rw [layoutLength, draft, hshader, hdraft]
  exact hlength

namespace Log

/-- What every record of calls on a device shows. -/
structure Sound (log : Log α β) : Prop where
  /-- Ids are handed out in the order of the numbers, each once. -/
  handedOut : log.handedOut = List.range log.device.nextId.toNat
  below : ∀ id, log.device.Takes id → id < log.device.nextId.toNat
  /-- No id is taken by a shader and a layout. -/
  apart : ∀ id : Nat, (log.device.shader? id).isSome → log.device.layouts[id]? = none
  /-- A shader has the draft that belongs to it under its id. -/
  drafted : ∀ (id : Nat) (compiled : CompiledShader), log.device.shader? id = some compiled →
    IsDrafted log.device.backend compiled log.device.drafts[id]?
  /-- There is no draft without a shader. -/
  undrafted : ∀ id : Nat, log.device.shader? id = none → log.device.drafts[id]? = none
  layouts : ∀ (id : Nat) (layout : InputLayout β), log.device.layouts[id]? = some layout →
    log.device.Feeds layout
  /-- Every shader is under its own id and was made by the call that handed that out. -/
  made : ∀ (id : Nat) (compiled : CompiledShader), log.device.shader? id = some compiled →
    compiled.id = id ∧ ∃ compiler,
      (.createShader compiler compiled.stage compiled.shader, .shader (.ok id)) ∈ log.history ∧
      IsMade log.device.backend log.device.settings compiler compiled

variable {device : Device α β} {history : List (Call × Answer)} {id : Nat}

/-- One call more hands out the id of its answer, if there is one. -/
theorem handedOut_append (device next : Device α β) (history : List (Call × Answer)) (call : Call)
    (answer : Answer) :
    handedOut ⟨next, history ++ [(call, answer)]⟩ =
      handedOut ⟨device, history⟩ ++ answer.id?.toList := by
  unfold handedOut
  rw [List.filterMap_append]
  cases hid : answer.id? <;> simp [hid]

theorem sound_new (backend : Backend α β) (settings : Settings) :
    (new backend settings).Sound where
  handedOut := rfl
  below := fun _ htaken => absurd htaken (by simp [Takes, new, shader?])
  apart := fun _ _ => Std.TreeMap.getElem?_emptyc
  drafted := fun _ _ hcompiled => absurd hcompiled (by simp [new, shader?])
  undrafted := fun _ _ => Std.TreeMap.getElem?_emptyc
  layouts := fun _ _ hlayout => absurd hlayout (by simp [new])
  made := fun _ _ hcompiled => absurd hcompiled (by simp [new, shader?])

/-- What was made stays made when calls follow. -/
theorem Sound.made_append (h : Sound ⟨device, history⟩) (event : Call × Answer) {id : Nat}
    {compiled : CompiledShader} (hcompiled : device.shader? id = some compiled) :
    compiled.id = id ∧ ∃ compiler,
      (.createShader compiler compiled.stage compiled.shader, .shader (.ok id)) ∈
        history ++ [event] ∧
      IsMade device.backend device.settings compiler compiled := by
  obtain ⟨hid, compiler, hevent, hmade⟩ := h.made id compiled hcompiled
  exact ⟨hid, compiler, List.mem_append_left _ hevent, hmade⟩

/-- A call that hands nothing out and changes nothing but what is dumped. -/
theorem Sound.refused (h : Sound ⟨device, history⟩) (dumped : List (String × String)) (call : Call)
    {answer : Answer} (hanswer : answer.id? = none) :
    Sound ⟨{ device with dumped }, history ++ [(call, answer)]⟩ where
  handedOut := by
    rw [handedOut_append device, hanswer, h.handedOut]
    exact List.append_nil _
  below := h.below
  apart := h.apart
  drafted := h.drafted
  undrafted := h.undrafted
  layouts := fun id layout hlayout => (h.layouts id layout hlayout).of_eq rfl rfl
  made := fun _ _ hcompiled => h.made_append (call, answer) hcompiled

/-- The next id is not taken. -/
theorem Sound.not_takes_nextId (h : Sound ⟨device, history⟩) :
    device.shader? device.nextId.toNat = none ∧ device.layouts[device.nextId.toNat]? = none ∧
      device.drafts[device.nextId.toNat]? = none := by
  have hfree : ¬device.Takes device.nextId.toNat := fun htaken =>
    Nat.lt_irrefl _ (h.below _ htaken)
  obtain ⟨hshader, hlayout⟩ := not_or.mp hfree
  have hnone : device.shader? device.nextId.toNat = none := by simpa using hshader
  exact ⟨hnone, by simpa using hlayout, h.undrafted _ hnone⟩

/-- The next id, and every id that is taken, is below the number after it. -/
theorem Sound.lt_next (h : Sound ⟨device, history⟩) (hleft : device.HasId)
    (hid : device.nextId.toNat = id ∨ device.Takes id) : id < (device.nextId + 1).toNat := by
  rw [hleft.toNat_succ]
  rcases hid with rfl | htaken
  · exact Nat.lt_succ_self _
  · exact Nat.lt_succ_of_lt (h.below id htaken)

/-- When the next id is handed out, all ids so far are handed out in order. -/
theorem handedOut_taken (h : Sound ⟨device, history⟩) (hleft : device.HasId)
    (next : Device α β) (call : Call) {answer : Answer}
    (hanswer : answer.id? = some device.nextId.toNat) (hnext : next.nextId = device.nextId + 1) :
    handedOut ⟨next, history ++ [(call, answer)]⟩ = List.range next.nextId.toNat := by
  rw [handedOut_append device, hanswer, h.handedOut, hnext, hleft.toNat_succ, List.range_succ]
  rfl

/-- A shader that was made takes the next id, and its draft goes with it. -/
theorem Sound.created (h : Sound ⟨device, history⟩) {compiler : Compiler}
    {compiled : CompiledShader} {draft : Option (LayoutDraft α)} (hleft : device.HasId)
    (hid : compiled.id = device.nextId.toNat)
    (hmade : IsMade device.backend device.settings compiler compiled)
    (hdraft : IsDrafted device.backend compiled draft) (dumped : List (String × String)) :
    Sound ⟨{ device.keep compiled draft with nextId := device.nextId + 1, dumped },
      history ++ [(.createShader compiler compiled.stage compiled.shader,
        .shader (.ok device.nextId.toNat))]⟩ := by
  obtain ⟨hshader, hlayout, hundrafted⟩ := h.not_takes_nextId
  have hfound : ∀ other : Nat, (device.keep compiled draft).shader? other =
      if compiled.id = other then some compiled else device.shader? other :=
    device.shader?_keep compiled draft
  have hdrafts : ∀ other : Nat, (device.keep compiled draft).drafts[other]? =
      if compiled.id = other then draft else device.drafts[other]? :=
    fun other => device.drafts_keep compiled draft other (hid ▸ hundrafted)
  -- under every other id everything is as it was
  refine ⟨handedOut_taken h hleft _ _ rfl rfl, ?_, ?_, ?_, ?_, ?_, ?_⟩
  · intro other htaken
    have htakes : (device.keep compiled draft).Takes other := htaken
    have hcases := htakes.of_keep
    rw [hid] at hcases
    exact h.lt_next hleft hcases
  · intro other hsome
    show device.layouts[other]? = none
    change ((device.keep compiled draft).shader? other).isSome at hsome
    rw [hfound] at hsome
    split at hsome
    · rename_i hsame
      rwa [← hsame, hid]
    · exact h.apart other hsome
  · intro other found hother
    change (device.keep compiled draft).shader? other = some found at hother
    show IsDrafted device.backend found (device.keep compiled draft).drafts[other]?
    rw [hfound] at hother
    rw [hdrafts]
    by_cases hsame : compiled.id = other
    · rw [if_pos hsame] at hother ⊢
      cases hother
      exact hdraft
    · rw [if_neg hsame] at hother ⊢
      exact h.drafted other found hother
  · intro other hnone
    change (device.keep compiled draft).shader? other = none at hnone
    show (device.keep compiled draft).drafts[other]? = none
    rw [hfound] at hnone
    rw [hdrafts]
    by_cases hsame : compiled.id = other
    · rw [if_pos hsame] at hnone
      cases hnone
    · rw [if_neg hsame] at hnone ⊢
      exact h.undrafted other hnone
  · intro other layout hother
    have hfeeds := h.layouts other layout hother
    have hne : compiled.id ≠ layout.shader := by
      intro hsame
      obtain ⟨found, hfeeder, -⟩ := hfeeds
      rw [← hsame, hid, hshader] at hfeeder
      cases hfeeder
    exact hfeeds.of_eq ((hfound _).trans (if_neg hne)) ((hdrafts _).trans (if_neg hne))
  · intro other found hother
    change (device.keep compiled draft).shader? other = some found at hother
    rw [hfound] at hother
    split at hother
    · rename_i hsame
      cases hother
      refine ⟨hsame, compiler, List.mem_append_right _ ?_, hmade⟩
      rw [← hsame, hid]
      exact List.mem_singleton_self _
    · exact h.made_append _ hother

/-- A layout for a shader with a draft takes the next id. -/
theorem Sound.laidOut (h : Sound ⟨device, history⟩) {shader : Nat} {draft : LayoutDraft α}
    {finished : List β} (hleft : device.HasId) (hdraft : device.draft shader = .ok draft)
    (hlength : finished.length = draft.length) (elements : List VertexElement) :
    Sound ⟨{ device with
        layouts := device.layouts.insert device.nextId.toNat ⟨shader, finished⟩
        nextId := device.nextId + 1 },
      history ++ [(.createLayout shader elements, .layout (.ok device.nextId.toNat))]⟩ := by
  obtain ⟨hnone, -, -⟩ := h.not_takes_nextId
  have hlayouts : ∀ other : Nat,
      (device.layouts.insert device.nextId.toNat ⟨shader, finished⟩)[other]? =
        if device.nextId.toNat = other then some ⟨shader, finished⟩
        else device.layouts[other]? := by
    simp [Std.TreeMap.getElem?_insert]
  refine ⟨handedOut_taken h hleft _ _ rfl rfl, ?_, ?_, h.drafted, h.undrafted, ?_,
    fun _ _ hcompiled => h.made_append _ hcompiled⟩
  · intro other htaken
    have hcases : device.nextId.toNat = other ∨ device.Takes other := Takes.of_insert htaken
    exact h.lt_next hleft hcases
  · intro other hsome
    show (device.layouts.insert device.nextId.toNat ⟨shader, finished⟩)[other]? = none
    rw [hlayouts, if_neg ?_]
    · exact h.apart other hsome
    · rintro rfl
      change (device.shader? device.nextId.toNat).isSome at hsome
      rw [hnone] at hsome
      cases hsome
  · intro other layout hother
    change (device.layouts.insert device.nextId.toNat ⟨shader, finished⟩)[other]? = some layout
      at hother
    rw [hlayouts] at hother
    split at hother
    · cases hother
      obtain ⟨hsome, hmade⟩ := draft_eq_ok_iff.mp hdraft
      obtain ⟨compiled, hcompiled⟩ := Option.isSome_iff_exists.mp hsome
      have hvertex : compiled.stage = .vertex :=
        (h.drafted shader compiled hcompiled).isSome_iff.mp (by rw [hmade]; rfl)
      have hneeded : device.layoutLength shader = .ok draft.length := by
        rw [layoutLength, hdraft]
        rfl
      exact ⟨compiled, hcompiled, hvertex, hneeded.trans (by rw [hlength])⟩
    · exact (h.layouts other layout hother).of_eq rfl rfl

/-- A shader that is destroyed takes nothing with it but its draft and its layouts. -/
theorem Sound.destroyed (h : Sound ⟨device, history⟩) (id : Nat) :
    Sound ⟨device.without id,
      history ++ [(.destroyShader id, .destroyed (.ok ()))]⟩ := by
  have hkept : ∀ other compiled, (device.without id).shader? other = some compiled →
      id ≠ other ∧ device.shader? other = some compiled := by
    intro other compiled hcompiled
    rw [shader?_without] at hcompiled
    split at hcompiled
    · cases hcompiled
    · rename_i hne
      exact ⟨hne, hcompiled⟩
  have hlayouts : ∀ (other : Nat) (layout : InputLayout β),
      (device.without id).layouts[other]? = some layout →
        device.layouts[other]? = some layout ∧ layout.shader ≠ id :=
    fun other layout => (device.layouts_without id other layout).mp
  refine ⟨?_, ?_, ?_, ?_, ?_, ?_, ?_⟩
  · rw [handedOut_append device, h.handedOut]
    exact List.append_nil _
  · intro other htaken
    refine h.below other ?_
    rcases htaken with hshader | hlayout
    · obtain ⟨compiled, hcompiled⟩ := Option.isSome_iff_exists.mp hshader
      exact .inl (Option.isSome_of_eq_some (hkept other compiled hcompiled).2)
    · obtain ⟨layout, hother⟩ := Option.isSome_iff_exists.mp hlayout
      exact .inr (Option.isSome_of_eq_some (hlayouts other layout hother).1)
  · intro other hsome
    obtain ⟨compiled, hcompiled⟩ := Option.isSome_iff_exists.mp hsome
    have hnone := h.apart other (Option.isSome_of_eq_some (hkept other compiled hcompiled).2)
    by_contra hlayout
    obtain ⟨layout, hother⟩ := Option.ne_none_iff_exists'.mp hlayout
    rw [(hlayouts other layout hother).1] at hnone
    cases hnone
  · intro other compiled hcompiled
    obtain ⟨hne, hold⟩ := hkept other compiled hcompiled
    show IsDrafted device.backend compiled (device.without id).drafts[other]?
    rw [drafts_without, if_neg hne]
    exact h.drafted other compiled hold
  · intro other hnone
    change (device.without id).shader? other = none at hnone
    show (device.without id).drafts[other]? = none
    rw [shader?_without] at hnone
    rw [drafts_without]
    split
    · rfl
    · rename_i hne
      exact h.undrafted other (by rwa [if_neg hne] at hnone)
  · intro other layout hother
    obtain ⟨hold, hne⟩ := hlayouts other layout hother
    refine (h.layouts other layout hold).of_eq ?_ ?_
    · exact (device.shader?_without id _).trans (if_neg hne.symm)
    · exact (device.drafts_without id _).trans (if_neg hne.symm)
  · intro other compiled hcompiled
    exact h.made_append _ (hkept other compiled hcompiled).2

/-- Every call keeps the record sound. -/
theorem sound_perform {log : Log α β} (h : log.Sound) (call : Call) : (log.perform call).Sound := by
  obtain ⟨device, history⟩ := log
  have hperforms := device.performs call
  unfold Log.perform
  generalize device.perform call = outcome at hperforms ⊢
  obtain ⟨answer, next⟩ := outcome
  cases hperforms with
  | refused _ herror dumped => exact h.refused dumped _ (Answer.id?_of_isError herror)
  | created compiler hleft hid hmade hdraft dumped => exact h.created hleft hid hmade hdraft dumped
  | laidOut hleft hdraft hlength elements => exact h.laidOut hleft hdraft hlength elements
  | destroyed hfound => exact h.destroyed _

theorem sound_performAll {log : Log α β} (h : log.Sound) (calls : List Call) :
    (log.performAll calls).Sound := by
  induction calls generalizing log with
  | nil => exact h
  | cons call rest ih => exact ih (sound_perform h call)

/-- The drafts are those of the vertex shaders that exist. -/
theorem Sound.isSome_drafts_iff {log : Log α β} (h : log.Sound) (id : Nat) :
    log.device.drafts[id]?.isSome ↔
      ∃ compiled, log.device.shader? id = some compiled ∧ compiled.stage = .vertex := by
  cases hcompiled : log.device.shader? id with
  | none => simp [h.undrafted id hcompiled]
  | some compiled => simpa using (h.drafted id compiled hcompiled).isSome_iff

/-- A draft is given for exactly these shaders. -/
theorem Sound.exists_draft_iff {log : Log α β} (h : log.Sound) (id : Nat) :
    (∃ draft, log.device.draft id = .ok draft) ↔
      ∃ compiled, log.device.shader? id = some compiled ∧ compiled.stage = .vertex := by
  simp only [draft_eq_ok_iff, exists_and_left, ← Option.isSome_iff_exists, h.isSome_drafts_iff]
  constructor
  · exact fun hdraft => hdraft.2
  · rintro ⟨compiled, hcompiled, hvertex⟩
    exact ⟨Option.isSome_of_eq_some hcompiled, compiled, hcompiled, hvertex⟩

end Log

/-! ## Devices after calls -/

/-- A call that is refused leaves shaders, drafts, layouts and the next id as they are. -/
theorem perform_of_isError {device : Device α β} {call : Call}
    (h : (device.perform call).1.isError = true) :
    ∃ dumped, (device.perform call).2 = { device with dumped } := by
  have hperforms := device.performs call
  generalize device.perform call = outcome at hperforms h ⊢
  obtain ⟨answer, next⟩ := outcome
  cases hperforms with
  | refused _ herror dumped => exact ⟨dumped, rfl⟩
  | _ => cases h

/-- A shader that exists is destroyed with its draft and with the layouts for it, and nothing else
is. -/
structure Destroys (device : Device α β) (id : Nat) (next : Device α β) : Prop where
  gone : next.shader? id = none
  others : ∀ other : Nat, other ≠ id → next.shader? other = device.shader? other
  undrafted : next.drafts[id]? = none
  drafts : ∀ other : Nat, other ≠ id → next.drafts[other]? = device.drafts[other]?
  layouts : ∀ (other : Nat) (layout : InputLayout β), next.layouts[other]? = some layout ↔
    device.layouts[other]? = some layout ∧ layout.shader ≠ id
  nextId : next.nextId = device.nextId

theorem destroys_without (device : Device α β) (id : Nat) :
    device.Destroys id (device.without id) where
  gone := (device.shader?_without id id).trans (if_pos rfl)
  others := fun other hother => (device.shader?_without id other).trans (if_neg hother.symm)
  undrafted := (device.drafts_without id id).trans (if_pos rfl)
  drafts := fun other hother => (device.drafts_without id other).trans (if_neg hother.symm)
  layouts := fun other layout => device.layouts_without id other layout
  nextId := rfl

theorem destroyShader_eq_ok {device : Device α β} {id : Nat} (h : (device.shader? id).isSome) :
    ∃ next, device.perform (.destroyShader id) = (.destroyed (.ok ()), next) ∧
      device.Destroys id next := by
  rcases destroyShader_cases device id with ⟨hnone, -⟩ | ⟨-, hdestroy⟩
  · rw [hnone] at h
    cases h
  · exact ⟨device.without id, by simp only [perform, hdestroy], destroys_without device id⟩

/-- No call changes the backend or the settings. -/
theorem perform_backend (device : Device α β) (call : Call) :
    (device.perform call).2.backend = device.backend ∧
      (device.perform call).2.settings = device.settings := by
  have hperforms := device.performs call
  generalize device.perform call = outcome at hperforms ⊢
  obtain ⟨answer, next⟩ := outcome
  cases hperforms <;> exact ⟨rfl, rfl⟩

theorem Log.backend_performAll (log : Log α β) (calls : List Call) :
    (log.performAll calls).device.backend = log.device.backend ∧
      (log.performAll calls).device.settings = log.device.settings := by
  induction calls generalizing log with
  | nil => exact ⟨rfl, rfl⟩
  | cons call rest ih =>
    obtain ⟨hbackend, hsettings⟩ := perform_backend log.device call
    exact ⟨(ih (log.perform call)).1.trans hbackend, (ih (log.perform call)).2.trans hsettings⟩

/-- Whatever calls are made on a new device and whatever compilers answer: ids are handed out once,
the drafts are those of the vertex shaders that exist, layouts have their vertex shaders, and
shaders are what was made of them.  A refused call leaves all of it as it is, and destruction takes
exactly one shader, its draft and its layouts. -/
theorem run_keeps_order (backend : Backend α β) (settings : Settings) (calls : List Call) :
    let log := (Log.new backend settings).performAll calls
    log.device.backend = backend ∧ log.device.settings = settings ∧ log.Sound ∧
    (∀ id, log.device.drafts[id]?.isSome ↔
      ∃ compiled, log.device.shader? id = some compiled ∧ compiled.stage = .vertex) ∧
    (∀ id, (∃ draft, log.device.draft id = .ok draft) ↔
      ∃ compiled, log.device.shader? id = some compiled ∧ compiled.stage = .vertex) ∧
    (∀ call, (log.device.perform call).1.isError = true →
      ∃ dumped, (log.device.perform call).2 = { log.device with dumped }) ∧
    (∀ id, (log.device.shader? id).isSome → ∃ next,
      log.device.perform (.destroyShader id) = (.destroyed (.ok ()), next) ∧
      log.device.Destroys id next) := by
  intro log
  have hsound : log.Sound := Log.sound_performAll (Log.sound_new backend settings) calls
  obtain ⟨hbackend, hsettings⟩ := Log.backend_performAll (Log.new backend settings) calls
  exact ⟨hbackend, hsettings, hsound, hsound.isSome_drafts_iff, hsound.exists_draft_iff,
    fun _ herror => perform_of_isError herror, fun _ hfound => destroyShader_eq_ok hfound⟩

end Device

end CrossShade
