import CrossShade.Backend
import CrossShade.CompiledShader
import Std.Data.TreeMap

/-!
# Devices

The shaders and vertex layouts that exist on a target, and the drafts of the layouts of its vertex
shaders, each in a table of its own.  Shaders and layouts take their ids from one counter of 64
bits.  Layouts belong to the shader they were made for and end with it.
-/

namespace CrossShade

open Std (TreeMap)

/-- A finished vertex layout, with the id of the shader it was made for. -/
structure InputLayout (β : Type) where
  shader : Nat
  elements : List β
  deriving Repr, DecidableEq

/-- The shaders and layouts of a target; `α` and `β` are those of the backend. -/
structure Device (α β : Type) where
  backend : Backend α β
  settings : Settings
  shaders : TreeMap Nat CompiledShader := {}
  /-- The drafts of the layouts of vertex shaders, by the ids of the shaders. -/
  drafts : TreeMap Nat (LayoutDraft α) := {}
  layouts : TreeMap Nat (InputLayout β) := {}
  nextId : UInt64 := 0
  /-- The source texts that were put into the directory of the settings, by file name. -/
  dumped : List (String × String) := []

namespace Device

variable {α β : Type}

/-! ## Ids -/

/-- The id that is given next, and the device that has counted on.  Behind the greatest number there
is none to count on to. -/
def takeId (device : Device α β) : Except ShaderError (Nat × Device α β) :=
  if device.nextId.toNat + 1 < UInt64.size then
    .ok (device.nextId.toNat, { device with nextId := device.nextId + 1 })
  else
    .error .noIdLeft

/-! ## Shaders -/

/-- The compiled shader with an id. -/
def shader? (device : Device α β) : LiveShaders := fun id => device.shaders[id]?

/-- What is asked of the compiler for a shader of a stage, and the facts about that stage. -/
def prepare (device : Device α β) (stage : Stage) (shader : Shader) :
    Except ShaderError (StageFacts × CompileRequest) := do
  if shader.stage ≠ stage then
    shader.fault (.error (.otherStage shader.stage stage))
  else if !device.backend.supports stage then
    throw (.stageUnsupported device.backend.target stage)
  else
    let facts ← shader.fault shader.stageFacts
    let profile ← device.backend.profile shader
    let source ← device.backend.generate shader
    return (facts, ⟨source, Backend.entryPoint, profile, stage, shader.name⟩)

/-- The name of the file for the source text of a shader. -/
def dumpName (device : Device α β) (shader : Shader) : String :=
  s!"{shader.name}.{shader.stage.profileLetters}.{device.backend.extension}"

/-- Whether a file can have a name: it is at most 255 bytes long and without slashes and zeros. -/
def isFileName (name : String) : Bool :=
  name.utf8ByteSize ≤ 255 && name.toList.all fun c => c ≠ '/' && c ≠ '\x00'

/-- Puts a source text into the directory of the settings, if there is one and the file can have its
name. -/
def dump (device : Device α β) (shader : Shader) (source : String) : Device α β :=
  let name := device.dumpName shader
  if device.settings.dumpDir.isSome && isFileName name then
    { device with dumped := device.dumped.filter (·.1 ≠ name) ++ [(name, source)] }
  else device

/-- Compiles what is asked for, and drafts the layouts of a vertex shader. -/
def compile (device : Device α β) (compiler : Compiler) (shader : Shader)
    (request : CompileRequest) : Except ShaderError (Bytecode × Option (LayoutDraft α)) := do
  let bytecode ← compiler.run device.settings request
  let draft ← match request.stage with
    | .vertex => some <$> device.backend.layoutDraft shader
    | _ => pure none
  return (bytecode, draft)

/-- Keeps a shader under its id, and its draft if it has one. -/
def keep (device : Device α β) (compiled : CompiledShader) (draft : Option (LayoutDraft α)) :
    Device α β :=
  { device with
    drafts := draft.elim device.drafts (device.drafts.insert compiled.id)
    shaders := device.shaders.insert compiled.id compiled }

/-- Creates a shader of a stage and gives its id.  A source text is dumped before it is compiled,
even if it cannot be; apart from that an error changes nothing. -/
def createShader (device : Device α β) (compiler : Compiler) (stage : Stage) (shader : Shader) :
    Except ShaderError Nat × Device α β :=
  match device.prepare stage shader with
  | .error error => (.error error, device)
  | .ok (facts, request) =>
    let device := device.dump shader request.source
    match device.compile compiler shader request with
    | .error error => (.error error, device)
    | .ok (bytecode, draft) =>
      match device.takeId with
      | .error error => (.error error, device)
      | .ok (id, device) =>
        (.ok id, device.keep ⟨id, shader.name, request.stage, request.profile, request.source,
          bytecode, facts, shader⟩ draft)

/-- Destroys a shader, its draft and the layouts made for it. -/
def destroyShader (device : Device α β) (id : Nat) : Except ContextError (Device α β) :=
  match device.shader? id with
  | none => .error (.unknownShader id)
  | some _ => .ok { device with
      shaders := device.shaders.erase id
      drafts := device.drafts.erase id
      layouts := device.layouts.filter fun _ layout => layout.shader ≠ id }

/-! ## Vertex layouts -/

/-- The draft of the layouts of a vertex shader.  A shader without a draft is of another stage. -/
def draft (device : Device α β) (id : Nat) : Except ContextError (LayoutDraft α) :=
  match device.shader? id with
  | none => .error (.unknownShader id)
  | some compiled =>
    match device.drafts[id]? with
    | none => .error (.stageMismatch id compiled.stage .vertex)
    | some draft => .ok draft

/-- The number of elements in a layout for a shader. -/
def layoutLength (device : Device α β) (id : Nat) : Except ContextError Nat :=
  (device.draft id).map (·.length)

/-- Creates a layout for a shader and gives its id. -/
def createLayout (device : Device α β) (shader : Nat) (elements : List VertexElement) :
    Except ContextError (Nat × Device α β) := do
  let draft ← device.draft shader
  let finished ← (device.backend.finishLayout draft elements).mapError .shader
  let (id, device) ← device.takeId.mapError .shader
  return (id, { device with layouts := device.layouts.insert id ⟨shader, finished⟩ })

/-- The elements of a layout. -/
def layout? (device : Device α β) (id : Nat) : Option (List β) :=
  device.layouts[id]?.map (·.elements)

end Device

end CrossShade
