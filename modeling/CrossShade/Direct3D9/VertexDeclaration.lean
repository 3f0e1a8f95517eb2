import CrossShade.Direct3D9.Native
import CrossShade.VertexLayout

/-!
# Direct3D 9 vertex declarations

A vertex declaration names its elements by usage and index, and its fields are narrow.
-/

namespace CrossShade.Direct3D9

/-- The usages in the order of their numbers. -/
def usageNames : List String :=
  ["POSITION", "BLENDWEIGHT", "BLENDINDICES", "NORMAL", "PSIZE", "TEXCOORD", "TANGENT", "BINORMAL",
    "TESSFACTOR", "POSITIONT", "COLOR", "FOG", "DEPTH", "SAMPLE"]

/-- A usage with its index. -/
structure ElementUsage where
  usage : UInt32
  index : UInt32
  deriving Repr, DecidableEq

/-- The greatest index of a usage. -/
def maxUsageIndex : UInt32 :=
  15

/-- The usage and index that a vertex input asks for: its semantic, or else the texture coordinate
with the number of its place. -/
def askedUsage (v : Variable) (element : UInt32) (place : Nat) : Except Unsupported ElementUsage :=
  match v.semanticBase? with
  | none => .ok ⟨5, UInt32.ofNat place⟩
  | some base =>
    match usageNames.idxOf? base with
    | none => .error (.vertexSemantic base v.name)
    | some usage => .ok ⟨UInt32.ofNat usage, v.semanticIndex + element⟩

/-- The usage of one element of a vertex input. -/
def elementUsage (v : Variable) (element : UInt32) (place : Nat) :
    Except ShaderError ElementUsage :=
  match askedUsage v element place with
  | .error what => .error (.unsupported .direct3D9 what)
  | .ok asked =>
    if asked.index ≤ maxUsageIndex then .ok asked
    else .error (.unsupported .direct3D9 (.usageIndex asked.index v.name))

/-- An element of a vertex declaration. -/
structure DeclaredElement where
  stream : UInt16
  offset : UInt16
  type : UInt32
  usage : UInt32
  usageIndex : UInt8
  rate : UInt32
  deriving Repr, DecidableEq

/-- A number in sixteen bits; `field` and `var` tell an error what it was for. -/
def narrow (field var : String) (amount : UInt32) : Except ShaderError UInt16 :=
  if amount < 0x10000 then .ok amount.toUInt16
  else .error (.unsupported .direct3D9 (.tooWide field amount var))

/-- The element that vertex data makes of an entry. -/
def declareElement (entry : LayoutEntry ElementUsage) (element : VertexElement) :
    Except ShaderError DeclaredElement :=
  return {
    stream := ← narrow "stream" entry.name element.slot
    offset := ← narrow "offset" entry.name element.offset
    type := ← vertexType element.format
    usage := entry.part.usage
    usageIndex := entry.part.index.toUInt8
    rate := element.rate }

end CrossShade.Direct3D9
