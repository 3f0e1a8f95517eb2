import CrossShade.CommandLine.Run

/-!
# The program

Reads the files that an invocation names, runs the invocation, and writes and prints what it ends
with.  No other program can be started from here, so neither an HLSL nor a GLSL compiler is there.
-/

namespace CrossShade.CommandLine

/-- The fault behind an error of the operating system. -/
def faultOf : IO.Error → FileFault
  | .noFileOrDirectory _ number reason => .system reason number
  | .permissionDenied _ number reason => .system reason number
  | .inappropriateType _ number reason => .system reason number
  | .invalidArgument _ number reason => .system reason number
  | .resourceExhausted _ number reason => .system reason number
  | error => .system (toString error) 5

/-- The content of a file. -/
def readFile (path : String) : IO (Except FileFault (List UInt8)) := do
  let content ← (IO.FS.readBinFile path).toBaseIO
  return (content.map (·.toList)).mapError faultOf

/-- Writes a file. -/
def writeFile (path : String) (content : List UInt8) : IO (Except FileFault Unit) := do
  let written ← (IO.FS.writeBinFile path ⟨content.toArray⟩).toBaseIO
  return written.mapError faultOf

/-- Writes the source texts that were dumped; what cannot be written is passed over. -/
def writeDumps (outcome : Outcome) : IO Unit := do
  match outcome.dumpDir with
  | none => return ()
  | some directory =>
    for (name, text) in outcome.dumped do
      let _ ← (IO.FS.createDirAll directory).toBaseIO
      let _ ← writeFile (directory ++ "/" ++ name) text.toUTF8.toList

/-- Writes the product of an invocation if it is a file. -/
def deliver : Except Failure Product → IO (Except Failure Product)
  | .ok (.file path content) => do
    let written ← writeFile path content
    return (written.mapError (.ofFile "write" path)).map fun _ => .file path content
  | product => return product

/-- Prints a report and gives its exit code. -/
def print (report : Report) : IO UInt32 := do
  IO.print report.stdout
  IO.eprint report.stderr
  return UInt32.ofNat report.code

/-- Runs an invocation on the files of the working directory. -/
def perform (invocation : Invocation) : IO UInt32 := do
  let contents ← invocation.files.mapM fun path => return (path, ← readFile path)
  let environment : Environment :=
    { read := fun path => (contents.lookup path).getD (.error .missing)
      tool := fun _ _ _ => .notFound
      glsl := fun _ _ => .error "no GLSL compiler was found" }
  let outcome := invocation.run environment
  writeDumps outcome
  print (.ofProduct (← deliver outcome.product))

end CrossShade.CommandLine

/-- Generates or compiles a shader as the arguments say. -/
def main (arguments : List String) : IO UInt32 :=
  match CrossShade.CommandLine.Invocation.read? arguments with
  | none => CrossShade.CommandLine.print .usage
  | some invocation => CrossShade.CommandLine.perform invocation
