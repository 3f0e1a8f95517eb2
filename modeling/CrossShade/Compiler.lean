import CrossShade.Error
import CrossShade.Settings

/-!
# Compilers

A compiler turns a source text into bytecode or refuses it with a diagnostic.  Matrices are always
packed by columns and optimization is always at its highest level; the settings decide about debug
information and about warnings.
-/

namespace CrossShade

/-- How matrices lie in registers. -/
inductive MatrixPacking where
  | columnMajor
  | rowMajor
  deriving Repr, DecidableEq

/-- The name of a packing. -/
def MatrixPacking.name : MatrixPacking → String
  | columnMajor => "ColumnMajor"
  | rowMajor => "RowMajor"

instance : Named MatrixPacking := ⟨[.columnMajor, .rowMajor], MatrixPacking.name⟩

/-- How hard a compiler optimizes. -/
inductive OptimizationLevel where
  | skip
  | level0
  | level1
  | level2
  | level3
  deriving Repr, DecidableEq

/-- The name of a level. -/
def OptimizationLevel.name : OptimizationLevel → String
  | skip => "Skip"
  | level0 => "Level0"
  | level1 => "Level1"
  | level2 => "Level2"
  | level3 => "Level3"

instance : Named OptimizationLevel :=
  ⟨[.skip, .level0, .level1, .level2, .level3], OptimizationLevel.name⟩

/-- What a compiler is told besides the source text. -/
structure CompileFlags where
  packing : MatrixPacking
  optimization : OptimizationLevel
  debugInfo : Bool
  deriving Repr, DecidableEq

/-- A source text to compile. -/
structure CompileRequest where
  source : String
  entryPoint : String
  profile : String
  stage : Stage
  shader : String
  deriving Repr, DecidableEq

/-- Compiled code. -/
abbrev Bytecode := List UInt8

/-- What a compiler that succeeds puts out. -/
structure CompileOutput where
  bytecode : Bytecode
  warnings : List String
  deriving Repr, DecidableEq

/-- A compiler: it succeeds or gives a diagnostic. -/
abbrev Compiler := CompileRequest → CompileFlags → Except String CompileOutput

namespace Compiler

/-- The flags for all compilations under some settings. -/
def flags (settings : Settings) : CompileFlags :=
  ⟨.columnMajor, .level3, settings.debugInfo⟩

/-- Compiles a source text.  An error carries the source text, and under settings that say so
warnings are an error. -/
def run (compiler : Compiler) (settings : Settings) (request : CompileRequest) :
    Except ShaderError Bytecode :=
  match compiler request (flags settings) with
  | .error diagnostic => .error (.compilationFailed request.shader request.source diagnostic)
  | .ok output =>
    if settings.warningsAsErrors && !output.warnings.isEmpty then
      .error (.compilationFailed request.shader request.source ("\n".intercalate output.warnings))
    else .ok output.bytecode

end Compiler

end CrossShade
