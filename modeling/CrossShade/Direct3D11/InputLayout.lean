import CrossShade.Direct3D11.Native
import CrossShade.Direct3D11.Semantic
import CrossShade.VertexLayout

/-!
# Direct3D 11 input layouts

An input layout names its elements by semantic and index.
-/

namespace CrossShade.Direct3D11

/-- An element of an input layout; `perInstance` says whether its data advances with instances. -/
structure InputElement where
  semantic : ElementSemantic
  format : UInt32
  slot : UInt32
  offset : UInt32
  perInstance : Bool
  rate : UInt32
  deriving Repr, DecidableEq

/-- The number of the class of data that an element is fed with. -/
def InputElement.classNumber (element : InputElement) : UInt32 :=
  if element.perInstance then 1 else 0

/-- The element that vertex data makes of an entry. -/
def inputElement (entry : LayoutEntry ElementSemantic) (element : VertexElement) :
    Except ShaderError InputElement :=
  return {
    semantic := entry.part
    format := ← native.format element.format
    slot := element.slot
    offset := element.offset
    perInstance := element.rate ≠ 0
    rate := element.rate }

end CrossShade.Direct3D11
