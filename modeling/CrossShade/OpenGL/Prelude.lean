import CrossShade.Source

/-!
# GLSL prelude

Definitions that let code written with HLSL names compile as GLSL.
-/

namespace CrossShade.OpenGL

/-- The dimensions of vectors and matrices that have a name of their own. -/
def dimensions : List Nat :=
  [2, 3, 4]

/-- A name for another. -/
def alias_ (name meaning : String) : Source.Item :=
  .define name none meaning

/-- Names for vectors. -/
def vectorAliases : List Source.Item :=
  dimensions.flatMap fun width =>
    [alias_ s!"float{width}" s!"vec{width}", alias_ s!"int{width}" s!"ivec{width}",
      alias_ s!"uint{width}" s!"uvec{width}", alias_ s!"bool{width}" s!"bvec{width}"]

/-- Names for matrices, whose dimensions stand the other way around in GLSL. -/
def matrixAliases : List Source.Item :=
  dimensions.flatMap fun rows => dimensions.map fun columns =>
    alias_ s!"float{rows}x{columns}"
      (if rows = columns then s!"mat{columns}" else s!"mat{columns}x{rows}")

/-- Functions of other names. -/
def functionAliases : List Source.Item :=
  [Source.macroOf "lerp" ["a", "b", "t"] "mix(a, b, t)",
    Source.macroOf "saturate" ["x"] "clamp(x, 0.0, 1.0)",
    Source.macroOf "mul" ["a", "b"] "((a) * (b))",
    Source.macroOf "atan2" ["y", "x"] "atan(y, x)",
    alias_ "frac" "fract", alias_ "rsqrt" "inversesqrt", alias_ "ddx" "dFdx", alias_ "ddy" "dFdy"]

/-- The whole prelude. -/
def prelude_ : List Source.Item :=
  vectorAliases ++ matrixAliases ++ functionAliases ++ [.blank]

end CrossShade.OpenGL
