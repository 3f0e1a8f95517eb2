import CrossShade.CommandLine.Run

/-!
# Working directories

The files below a directory, by path, and what a run of the program changes there.  Directories
exist as far as files are in them.
-/

namespace CrossShade.CommandLine

/-- The files below a directory; a path is the list of its parts. -/
structure WorkingDirectory where
  files : List (List String × List UInt8)
  deriving Repr, DecidableEq

namespace WorkingDirectory

/-- The parts of a path; empty parts and single points do not count. -/
def parts (path : String) : List String :=
  ((Text.pieces (· == '/') path.toList).map String.ofList).filter fun part =>
    part ≠ "" && part ≠ "."

/-- The directory with files by path. -/
def ofFiles (files : List (String × List UInt8)) : WorkingDirectory :=
  ⟨files.map fun (path, content) => (parts path, content)⟩

/-- Whether there is a directory with some parts. -/
def hasDirectory (directory : WorkingDirectory) (path : List String) : Bool :=
  path.isEmpty || directory.files.any fun (file, _) =>
    path.isPrefixOf file && path.length < file.length

/-- Why there is no file with some parts. -/
def fault (directory : WorkingDirectory) (path : List String) : FileFault :=
  let isBelow (file : List String) : Bool := file.isPrefixOf path && file.length < path.length
  if directory.hasDirectory path then .isDirectory
  else if directory.files.any fun (file, _) => isBelow file then .notDirectory
  else .missing

/-- The content of a file; nothing is known about files outside the directory. -/
def read (directory : WorkingDirectory) (path : String) : Except FileFault (List UInt8) :=
  if path.startsWith "/" then .error .missing
  else
    match directory.files.lookup (parts path) with
    | some content => .ok content
    | none => .error (directory.fault (parts path))

/-- The directory with another content of a file. -/
def put (directory : WorkingDirectory) (path : List String) (content : List UInt8) :
    WorkingDirectory :=
  ⟨directory.files.filter (·.1 ≠ path) ++ [(path, content)]⟩

/-- Writes a file, for which there has to be a directory. -/
def write (directory : WorkingDirectory) (path : String) (content : List UInt8) :
    Except FileFault WorkingDirectory :=
  let path' := parts path
  if path.startsWith "/" then .error .missing
  else if (directory.files.lookup path').isSome then .ok (directory.put path' content)
  else if directory.hasDirectory path' then .error .isDirectory
  else if directory.hasDirectory path'.dropLast then .ok (directory.put path' content)
  else .error (directory.fault path')

/-- Whether a directory with some parts is there or can be made: no part leads out of the working
directory, and no file stands in the way. -/
def canHaveDirectory (directory : WorkingDirectory) (path : List String) : Bool :=
  !path.contains ".." && !directory.files.any fun (file, _) => file.isPrefixOf path

/-- Writes the source texts that an invocation dumped, below a directory that is made for them.
What cannot be written there is left out. -/
def dump (directory : WorkingDirectory) (outcome : Outcome) : WorkingDirectory :=
  let path := outcome.dumpDir.getD ""
  if path.startsWith "/" || !directory.canHaveDirectory (parts path) then directory
  else
    outcome.dumped.foldl (fun directory (name, text) =>
      let file := parts path ++ [name]
      if directory.hasDirectory file then directory
      else directory.put file text.toUTF8.toList) directory

/-- Runs the program with arguments in a directory. -/
def run (directory : WorkingDirectory) (tool : String → Fxc.Tool) (glsl : Compiler)
    (arguments : List String) : Report × WorkingDirectory :=
  match Invocation.read? arguments with
  | none => (.usage, directory)
  | some invocation =>
    let outcome := invocation.run ⟨directory.read, tool, glsl⟩
    let directory := directory.dump outcome
    match outcome.product with
    | .ok (.file path content) =>
      match directory.write path content with
      | .ok directory => (.ofProduct outcome.product, directory)
      | .error fault => (.ofProduct (.error (.ofFile "write" path fault)), directory)
    | product => (.ofProduct product, directory)

end WorkingDirectory

end CrossShade.CommandLine
