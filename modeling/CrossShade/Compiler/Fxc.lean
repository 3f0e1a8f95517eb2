import CrossShade.Compiler
import CrossShade.FileFault

/-!
# The HLSL compiler

The compiler of the Direct3D targets is a program that is run with arguments.  It prints what it has
to say, exits with a code and leaves an object file.
-/

namespace CrossShade.Fxc

/-- What became of a run of the program. -/
inductive Outcome where
  /-- There is no such program. -/
  | notFound
  /-- The program ended. -/
  | exited (code : Nat) (stdout stderr : List UInt8) (object : Option Bytecode)
  deriving Repr, DecidableEq

/-- The program: what becomes of a run with some arguments on a source text. -/
abbrev Tool := (arguments : List String) → (source : String) → Outcome

/-- The option for a packing. -/
def packingOption : MatrixPacking → String
  | .columnMajor => "/Zpc"
  | .rowMajor => "/Zpr"

/-- The option for a level of optimization. -/
def optimizationOption : OptimizationLevel → String
  | .skip => "/Od"
  | .level0 => "/O0"
  | .level1 => "/O1"
  | .level2 => "/O2"
  | .level3 => "/O3"

/-- The arguments for a compilation of one file into another. -/
def arguments (request : CompileRequest) (flags : CompileFlags) (source object : String) :
    List String :=
  ["/nologo", "/T", request.profile, "/E", request.entryPoint, packingOption flags.packing,
    optimizationOption flags.optimization] ++
  (if flags.debugInfo then ["/Zi"] else []) ++ ["/Fo", object, source]

/-- Why a run gave no bytecode. -/
inductive Fault where
  | launch (path : String)
  | rejected (code : Nat) (diagnostic : String)
  | noObject
  deriving Repr, DecidableEq

/-- The report of a fault. -/
def Fault.message : Fault → String
  | launch path => s!"failed to launch '{path}': {FileFault.missing.message}"
  | rejected code diagnostic => s!"fxc exited with exit status: {code}:\n{diagnostic}"
  | noObject => s!"failed to read the compiled object: {FileFault.missing.message}"

/-- The lines of a printed text that report warnings. -/
def warningLines (printed : List Char) : List String :=
  ((Text.lines printed).filter (Text.occursIn ": warning ".toList)).map fun line =>
    String.ofList (Text.trim line)

/-- What a run of the program at a path comes to. -/
def result (path : String) : Outcome → Except Fault CompileOutput
  | .notFound => .error (.launch path)
  | .exited code stdout stderr object =>
    let printed := Text.Utf8.decodeLossy stdout ++ Text.Utf8.decodeLossy stderr
    if code ≠ 0 then .error (.rejected code (String.ofList (Text.trim printed)))
    else
      match object with
      | none => .error .noObject
      | some bytecode => .ok ⟨bytecode, warningLines printed⟩

/-- The compiler that runs the program at a path. -/
def compiler (tool : Tool) (path : String) : Compiler := fun request flags =>
  (result path (tool (arguments request flags "shader.hlsl" "shader.cso") request.source)).mapError
    Fault.message

end CrossShade.Fxc
