import CrossShade.OpenGL.Native
import CrossShade.VertexLayout

/-!
# OpenGL vertex attributes

An attribute is found by its location, which is its place in the layout.
-/

namespace CrossShade.OpenGL

/-- The location of the attribute at a place. -/
def attributeLocation (place : Nat) : UInt32 :=
  UInt32.ofNat place

/-- A vertex attribute. -/
structure VertexAttribute where
  location : UInt32
  binding : UInt32
  format : AttributeFormat
  offset : UInt32
  divisor : UInt32
  deriving Repr, DecidableEq

/-- The attribute that vertex data makes of an entry. -/
def vertexAttribute (entry : LayoutEntry UInt32) (element : VertexElement) :
    Except ShaderError VertexAttribute :=
  return {
    location := entry.part
    binding := element.slot
    format := ← attributeFormat element.format
    offset := element.offset
    divisor := element.rate }

end CrossShade.OpenGL
