import CrossShade.CommandLine.Help
import CrossShade.CommandLine.Report
import CrossShade.Compiler.Fxc
import CrossShade.Compiler.Glsl
import CrossShade.Device
import CrossShade.Shader.Reader

/-!
# Running an invocation

What an invocation does with files and compilers that are given to it: it reads settings and a
description, then generates or compiles, and ends with a text to print or a file to write.
-/

namespace CrossShade.CommandLine

/-- What an invocation can reach. -/
structure Environment where
  /-- The content of a file. -/
  read : String → Except FileFault (List UInt8)
  /-- The HLSL compiler at a path. -/
  tool : String → Fxc.Tool
  /-- The GLSL compiler, for the stages with entry points. -/
  glsl : Compiler

/-- What an invocation ends with. -/
inductive Product where
  | text (text : String)
  | file (path : String) (content : List UInt8)
  deriving Repr, DecidableEq

/-- A path with another ending of its last part: what follows the last point, unless that begins the
part. -/
def withEnding (path ending : String) : String :=
  let letters := path.toList
  let name := (letters.reverse.takeWhile (· ≠ '/')).reverse
  let directory := letters.take (letters.length - name.length)
  let stem := (name.reverse.dropWhile (· ≠ '.')).drop 1 |>.reverse
  String.ofList (directory ++ if stem.isEmpty then name else stem) ++ "." ++ ending

/-- The ending of names of files with bytecode. -/
def bytecodeEnding : Target → String
  | .direct3D9 | .direct3D11 => "cso"
  | .openGL => "spv"

namespace Environment

/-- The settings in a file, or the defaults. -/
def settings (environment : Environment) : Option String → Except Failure Settings
  | none => .ok {}
  | some path => (Settings.load (environment.read path)).mapError (.ofSettings path)

/-- The shader in a file. -/
def shader (environment : Environment) (path : String) : Except Failure Shader := do
  let text ← (fileText (environment.read path)).mapError (.ofFile "read" path)
  (Shader.read text).mapError (.ofShader s!"Invalid shader description {path}")

/-- The compiler of a target. -/
def compiler (environment : Environment) (settings : Settings) : Target → Compiler
  | .direct3D9 | .direct3D11 =>
    Fxc.compiler (environment.tool settings.fxcPath) settings.fxcPath
  | .openGL => Glsl.guarded environment.glsl

end Environment

/-- The result of something that is done with the backend of a target. -/
def withBackend {γ : Type} (target : Target) (settings : Settings)
    (run : {α β : Type} → Backend α β → Except Failure γ) : Except Failure γ :=
  match target with
  | .direct3D9 => run Direct3D9.backend
  | .direct3D11 => run Direct3D11.backend
  | .openGL => do
    let version ← (OpenGL.Version.ofNumber settings.glslVersion).mapError fun error =>
      { message := error.message }
    run (OpenGL.backend version)

/-- The source text of a shader. -/
def generateOn {α β : Type} (shader : Shader) (backend : Backend α β) : Except Failure Product := do
  let text ← (backend.generate shader).mapError
    (.ofShader s!"{backend.target} cannot generate '{shader.name}'")
  return .text text

/-- The bytecode of a shader and the source texts that were dumped for it. -/
def compileOn {α β : Type} (compiler : Compiler) (settings : Settings) (shader : Shader)
    (backend : Backend α β) : Except Failure Bytecode × List (String × String) :=
  let device : Device α β := { backend, settings }
  let (created, device) := device.createShader compiler shader.stage shader
  let bytecode := do
    let id ← created.mapError (.ofShader s!"{backend.target} failed to compile '{shader.name}'")
    match device.shader? id with
    | some compiled => .ok compiled.bytecode
    | none => .error { message := s!"'{shader.name}' is missing from the device" }
  (bytecode, device.dumped)

/-- How an invocation ends: with a product or a failure, and with source texts for files of a
directory. -/
structure Outcome where
  product : Except Failure Product
  dumpDir : Option String := none
  dumped : List (String × String) := []

/-- The end of a compilation into a file. -/
def compiled (environment : Environment) (job : Job) (output : Option String)
    (settings : Settings) (shader : Shader) : Outcome :=
  let path := output.getD (withEnding job.file (bytecodeEnding job.target))
  let compiler := environment.compiler settings job.target
  match withBackend job.target settings fun backend =>
    .ok (compileOn compiler settings shader backend) with
  | .error failure => { product := .error failure }
  | .ok (bytecode, dumped) =>
    { product := bytecode.map (.file path), dumpDir := settings.dumpDir, dumped }

/-- Does what an invocation asks for; settings are read before the description. -/
def Invocation.run (environment : Environment) : Invocation → Outcome
  | .help command => { product := .ok (.text (helpText command)) }
  | .version => { product := .ok (.text versionText) }
  | .generate job =>
    { product := do
        let settings ← environment.settings job.config
        let shader ← environment.shader job.file
        withBackend job.target settings (generateOn shader) }
  | .compile job output =>
    match (do
      let settings ← environment.settings job.config
      let shader ← environment.shader job.file
      return (settings, shader)) with
    | .error failure => { product := .error failure }
    | .ok (settings, shader) => compiled environment job output settings shader

/-- The files that an invocation reads. -/
def Invocation.files : Invocation → List String
  | .generate job | .compile job _ => job.config.toList ++ [job.file]
  | .help _ | .version => []

/-- What the program prints and how it exits. -/
structure Report where
  code : Nat
  stdout : String
  stderr : String
  deriving Repr, DecidableEq

/-- The report about arguments that are not in order. -/
def Report.usage : Report :=
  ⟨2, "", "error: invalid arguments\n\nFor more information, try '--help'.\n"⟩

/-- What is left of a program that stopped; its last words are not the invocation's. -/
def Report.stopped : Report :=
  ⟨101, "", ""⟩

/-- The report about a product or a failure. -/
def Report.ofProduct : Except Failure Product → Report
  | .ok (.text text) => ⟨0, text, ""⟩
  | .ok (.file _ _) => ⟨0, "", ""⟩
  | .error failure => if failure.isTold then ⟨1, "", failure.report⟩ else .stopped

end CrossShade.CommandLine
