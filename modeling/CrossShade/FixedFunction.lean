import CrossShade.Keyword

/-!
# Fixed-function state

The settings of the fixed stages of the pipeline: blending, stencil, comparison, culling, filling
and sampling.
-/

namespace CrossShade

/-- What a color is multiplied with when it is blended. -/
inductive BlendFactor where
  | zero
  | one
  | srcColor
  | oneMinusSrcColor
  | srcAlpha
  | oneMinusSrcAlpha
  | dstColor
  | oneMinusDstColor
  | dstAlpha
  | oneMinusDstAlpha
  | srcAlphaSaturated
  | constant
  | oneMinusConstant
  | src1Color
  | oneMinusSrc1Color
  | src1Alpha
  | oneMinusSrc1Alpha
  deriving Repr, DecidableEq

namespace BlendFactor

/-- The name of the setting. -/
def name : BlendFactor → String
  | zero => "Zero"
  | one => "One"
  | srcColor => "SrcColor"
  | oneMinusSrcColor => "OneMinusSrcColor"
  | srcAlpha => "SrcAlpha"
  | oneMinusSrcAlpha => "OneMinusSrcAlpha"
  | dstColor => "DstColor"
  | oneMinusDstColor => "OneMinusDstColor"
  | dstAlpha => "DstAlpha"
  | oneMinusDstAlpha => "OneMinusDstAlpha"
  | srcAlphaSaturated => "SrcAlphaSaturated"
  | constant => "Constant"
  | oneMinusConstant => "OneMinusConstant"
  | src1Color => "Src1Color"
  | oneMinusSrc1Color => "OneMinusSrc1Color"
  | src1Alpha => "Src1Alpha"
  | oneMinusSrc1Alpha => "OneMinusSrc1Alpha"

/-- Every value. -/
def all : List BlendFactor :=
  [zero, one, srcColor, oneMinusSrcColor, srcAlpha, oneMinusSrcAlpha, dstColor,
    oneMinusDstColor, dstAlpha, oneMinusDstAlpha, srcAlphaSaturated, constant,
    oneMinusConstant, src1Color, oneMinusSrc1Color, src1Alpha, oneMinusSrc1Alpha]

instance : Named BlendFactor := ⟨all, name⟩

end BlendFactor

/-- How two colors are combined when they are blended. -/
inductive BlendOperation where
  | add
  | subtract
  | reverseSubtract
  | min
  | max
  deriving Repr, DecidableEq

namespace BlendOperation

/-- The name of the setting. -/
def name : BlendOperation → String
  | add => "Add"
  | subtract => "Subtract"
  | reverseSubtract => "ReverseSubtract"
  | min => "Min"
  | max => "Max"

/-- Every value. -/
def all : List BlendOperation :=
  [add, subtract, reverseSubtract, min, max]

instance : Named BlendOperation := ⟨all, name⟩

end BlendOperation

/-- What happens to a value of the stencil buffer. -/
inductive StencilOperation where
  | keep
  | zero
  | replace
  | invert
  | incrementClamp
  | decrementClamp
  | incrementWrap
  | decrementWrap
  deriving Repr, DecidableEq

namespace StencilOperation

/-- The name of the setting. -/
def name : StencilOperation → String
  | keep => "Keep"
  | zero => "Zero"
  | replace => "Replace"
  | invert => "Invert"
  | incrementClamp => "IncrementClamp"
  | decrementClamp => "DecrementClamp"
  | incrementWrap => "IncrementWrap"
  | decrementWrap => "DecrementWrap"

/-- Every value. -/
def all : List StencilOperation :=
  [keep, zero, replace, invert, incrementClamp, decrementClamp, incrementWrap, decrementWrap]

instance : Named StencilOperation := ⟨all, name⟩

end StencilOperation

/-- A comparison of depth, stencil or sampled values. -/
inductive Comparison where
  | never
  | less
  | equal
  | lessEqual
  | greater
  | notEqual
  | greaterEqual
  | always
  deriving Repr, DecidableEq

namespace Comparison

/-- The name of the setting. -/
def name : Comparison → String
  | never => "Never"
  | less => "Less"
  | equal => "Equal"
  | lessEqual => "LessEqual"
  | greater => "Greater"
  | notEqual => "NotEqual"
  | greaterEqual => "GreaterEqual"
  | always => "Always"

/-- Every value. -/
def all : List Comparison :=
  [never, less, equal, lessEqual, greater, notEqual, greaterEqual, always]

instance : Named Comparison := ⟨all, name⟩

end Comparison

/-- Which faces are not drawn. -/
inductive CullMode where
  | none
  | front
  | back
  deriving Repr, DecidableEq

namespace CullMode

/-- The name of the setting. -/
def name : CullMode → String
  | none => "None"
  | front => "Front"
  | back => "Back"

/-- Every value. -/
def all : List CullMode :=
  [none, front, back]

instance : Named CullMode := ⟨all, name⟩

end CullMode

/-- How triangles are filled. -/
inductive FillMode where
  | solid
  | wireframe
  | point
  deriving Repr, DecidableEq

namespace FillMode

/-- The name of the setting. -/
def name : FillMode → String
  | solid => "Solid"
  | wireframe => "Wireframe"
  | point => "Point"

/-- Every value. -/
def all : List FillMode :=
  [solid, wireframe, point]

instance : Named FillMode := ⟨all, name⟩

end FillMode

/-- What a sampler reads outside a texture. -/
inductive AddressMode where
  | wrap
  | mirror
  | clamp
  | border
  | mirrorOnce
  deriving Repr, DecidableEq

namespace AddressMode

/-- The name of the setting. -/
def name : AddressMode → String
  | wrap => "Wrap"
  | mirror => "Mirror"
  | clamp => "Clamp"
  | border => "Border"
  | mirrorOnce => "MirrorOnce"

/-- Every value. -/
def all : List AddressMode :=
  [wrap, mirror, clamp, border, mirrorOnce]

instance : Named AddressMode := ⟨all, name⟩

end AddressMode

/-- How a sampler reads between texels. -/
inductive FilterMode where
  | point
  | linear
  | anisotropic
  deriving Repr, DecidableEq

namespace FilterMode

/-- The name of the setting. -/
def name : FilterMode → String
  | point => "Point"
  | linear => "Linear"
  | anisotropic => "Anisotropic"

/-- Every value. -/
def all : List FilterMode :=
  [point, linear, anisotropic]

instance : Named FilterMode := ⟨all, name⟩

end FilterMode

end CrossShade
