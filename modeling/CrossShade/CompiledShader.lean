import CrossShade.Compiler
import CrossShade.Shader.StageFacts

/-!
# Compiled shaders

What a device keeps of a shader that it compiled.
-/

namespace CrossShade

/-- A compiled shader. -/
structure CompiledShader where
  id : Nat
  name : String
  stage : Stage
  profile : String
  /-- The source text that was compiled. -/
  source : String
  bytecode : Bytecode
  facts : StageFacts
  /-- The shader that the source text was written for. -/
  shader : Shader
  deriving Repr

/-- The compiled shaders that exist at a moment, by id. -/
abbrev LiveShaders := Nat → Option CompiledShader

end CrossShade
