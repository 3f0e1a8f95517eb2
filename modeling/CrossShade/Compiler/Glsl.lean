import CrossShade.Compiler

/-!
# The GLSL compiler

The compiler of the OpenGL target.  It knows no entry points for the stages of tessellation and
geometry, which are refused before it sees the source text.
-/

namespace CrossShade.Glsl

/-- Whether the compiler knows entry points of a stage. -/
def knowsStage : Stage → Bool
  | .vertex | .pixel | .compute => true
  | .hull | .domain | .geometry => false

/-- A compiler that sees only the stages with entry points. -/
def guarded (compiler : Compiler) : Compiler := fun request flags =>
  if knowsStage request.stage then compiler request flags
  else .error s!"naga cannot compile {request.stage} shaders from GLSL"

end CrossShade.Glsl
