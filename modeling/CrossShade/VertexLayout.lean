import CrossShade.Error
import CrossShade.Format
import CrossShade.Shader

/-!
# Vertex layouts

What feeds the inputs of a vertex shader.  A draft says which elements the inputs need, as far as
that follows from the shader; `LayoutDraft.finish` pairs it with the elements of a caller.  Every
used input that is no system value needs its elements in a row: one, or one for each matrix column
and array element.
-/

namespace CrossShade

/-- An element of vertex data: its format, its buffer slot and its offset within a vertex.  With a
rate the data advances once in so many instances, and with every vertex otherwise. -/
structure VertexElement where
  format : ElementFormat
  slot : UInt32
  offset : UInt32
  rate : UInt32
  deriving Repr, DecidableEq

/-- What a shader needs at one place of a layout; `part` is what its target makes of that. -/
structure LayoutEntry (α : Type) where
  part : α
  /-- The position of the variable among all inputs. -/
  input : Nat
  /-- The name of the variable. -/
  name : String
  /-- Which of the elements of the variable this is. -/
  element : UInt32
  /-- What the shader reads. -/
  base : ScalarType
  deriving Repr, DecidableEq

/-- The layout of a shader before its elements are given. -/
structure LayoutDraft (α : Type) where
  shader : String
  entries : List (LayoutEntry α)
  deriving Repr, DecidableEq

/-- How a target makes the part of an entry: from the variable, the element and the place in the
layout. -/
abbrev LayoutPart (α : Type) := Variable → UInt32 → Nat → Except ShaderError α

namespace LayoutDraft

variable {α : Type}

/-- The entries of one variable from element `element` on, with `place` the place of the first. -/
def variableEntries (part : LayoutPart α) (v : Variable) (input : Nat) (base : ScalarType) :
    (element place count : Nat) → Except ShaderError (List (LayoutEntry α))
  | _, _, 0 => .ok []
  | element, place, count + 1 => do
    let first ← part v (UInt32.ofNat element) place
    let following ← variableEntries part v input base (element + 1) (place + 1) count
    return ⟨first, input, v.name, UInt32.ofNat element, base⟩ :: following

/-- Whether an input is fed by a layout. -/
def isFed (v : Variable) : Bool :=
  v.isUsed && !v.isSystemValue

/-- The entries of inputs, the first of which has number `input`, with `place` the next place. -/
def inputEntries (shader : Shader) (part : LayoutPart α) :
    (input place : Nat) → List Variable → Except ShaderError (List (LayoutEntry α))
  | _, _, [] => .ok []
  | input, place, v :: rest => do
    if isFed v then
      let count ← shader.fault (v.type.layoutElements.mapError (.unfedInput v.name))
      match v.type.base? with
      | none => shader.fault (.error (.inputWithoutScalar v.name))
      | some base => do
        let entries ← variableEntries part v input base 0 place count.toNat
        return entries ++ (← inputEntries shader part (input + 1) (place + count.toNat) rest)
    else
      inputEntries shader part (input + 1) place rest

/-- The draft of a vertex shader. -/
def ofShader (shader : Shader) (part : LayoutPart α) : Except ShaderError (LayoutDraft α) := do
  if shader.stage ≠ .vertex then
    shader.fault (.error (.layoutOfOtherStage shader.stage))
  else
    return ⟨shader.name, ← inputEntries shader part 0 0 shader.input⟩

/-- The number of elements that a shader needs. -/
def length (draft : LayoutDraft α) : Nat :=
  draft.entries.length

/-- Finishes entries with elements, one by one, until an element is of a format that cannot feed its
entry or cannot be finished. -/
def finishAll {β : Type} {m : Type → Type} [Monad m] (target : Target)
    (finish : LayoutEntry α → VertexElement → ExceptT ShaderError m β) :
    List (LayoutEntry α × VertexElement) → ExceptT ShaderError m (List β)
  | [] => pure []
  | (entry, element) :: rest => do
    if element.format.feeds entry.base then
      let first ← finish entry element
      return first :: (← finishAll target finish rest)
    else
      throw (.unsupported target (.feeding element.format.name entry.base.word entry.name))

/-- The layout that the elements make of a draft; there has to be one element for each entry. -/
def finish {β : Type} {m : Type → Type} [Monad m] (draft : LayoutDraft α) (target : Target)
    (elements : List VertexElement)
    (finish : LayoutEntry α → VertexElement → ExceptT ShaderError m β) :
    ExceptT ShaderError m (List β) :=
  if elements.length = draft.length then
    finishAll target finish (draft.entries.zip elements)
  else
    throw (.layoutLength draft.shader draft.length elements.length)

end LayoutDraft

end CrossShade
