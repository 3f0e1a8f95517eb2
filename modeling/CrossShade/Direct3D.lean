import CrossShade.Native

/-!
# Direct3D values

The numbers on which Direct3D 9 and Direct3D 11 agree.
-/

namespace CrossShade.Direct3D

/-- Blend factors; Direct3D 9 ends before those of the second source. -/
def blendFactor : BlendFactor → UInt32
  | .zero => 1
  | .one => 2
  | .srcColor => 3
  | .oneMinusSrcColor => 4
  | .srcAlpha => 5
  | .oneMinusSrcAlpha => 6
  | .dstAlpha => 7
  | .oneMinusDstAlpha => 8
  | .dstColor => 9
  | .oneMinusDstColor => 10
  | .srcAlphaSaturated => 11
  | .constant => 14
  | .oneMinusConstant => 15
  | .src1Color => 16
  | .oneMinusSrc1Color => 17
  | .src1Alpha => 18
  | .oneMinusSrc1Alpha => 19

/-- Blend operations. -/
def blendOperation : BlendOperation → UInt32
  | .add => 1
  | .subtract => 2
  | .reverseSubtract => 3
  | .min => 4
  | .max => 5

/-- Stencil operations. -/
def stencilOperation : StencilOperation → UInt32
  | .keep => 1
  | .zero => 2
  | .replace => 3
  | .incrementClamp => 4
  | .decrementClamp => 5
  | .invert => 6
  | .incrementWrap => 7
  | .decrementWrap => 8

/-- Comparisons. -/
def comparison : Comparison → UInt32
  | .never => 1
  | .less => 2
  | .equal => 3
  | .lessEqual => 4
  | .greater => 5
  | .notEqual => 6
  | .greaterEqual => 7
  | .always => 8

/-- Cull modes; Direct3D 9 tells faces by their winding, and front faces are clockwise. -/
def cullMode : CullMode → UInt32
  | .none => 1
  | .front => 2
  | .back => 3

/-- Texture address modes. -/
def addressMode : AddressMode → UInt32
  | .wrap => 1
  | .mirror => 2
  | .clamp => 3
  | .border => 4
  | .mirrorOnce => 5

/-- Topologies without adjacency and without patches. -/
def plainTopology? : PrimitiveTopology → Option UInt32
  | .pointList => some 1
  | .lineList => some 2
  | .lineStrip => some 3
  | .triangleList => some 4
  | .triangleStrip => some 5
  | .lineListAdj | .lineStripAdj | .triangleListAdj | .triangleStripAdj | .patchList _ => none

end CrossShade.Direct3D
