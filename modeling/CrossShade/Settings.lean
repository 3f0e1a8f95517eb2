/-!
# Settings

What a user can choose about compilation.
-/

namespace CrossShade

/-- The settings, each with the value it has unless it is given. -/
structure Settings where
  /-- Whether bytecode carries debug information. -/
  debugInfo : Bool := false
  /-- Whether a warning is a failure. -/
  warningsAsErrors : Bool := false
  /-- The compiler of the Direct3D targets. -/
  fxcPath : String := "fxc"
  /-- The number of the GLSL version for OpenGL. -/
  glslVersion : UInt32 := 450
  /-- A directory for all source texts that are compiled. -/
  dumpDir : Option String := none
  deriving Repr, DecidableEq

end CrossShade
