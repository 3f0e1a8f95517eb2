import CrossShade.Text.Utf8

/-!
# Faults of files

Why a file cannot be read or written, in the words of the operating system, and files that hold
text.
-/

namespace CrossShade

/-- Why a file cannot be read or written. -/
inductive FileFault where
  /-- The operating system refuses, with a number for the reason. -/
  | system (reason : String) (number : UInt32)
  /-- The file is not in UTF-8. -/
  | notText
  deriving Repr, DecidableEq

namespace FileFault

/-- There is no such file, or no directory for it. -/
def missing : FileFault :=
  .system "No such file or directory" 2

/-- A file stands where a directory is expected. -/
def notDirectory : FileFault :=
  .system "Not a directory" 20

/-- A directory stands where a file is expected. -/
def isDirectory : FileFault :=
  .system "Is a directory" 21

/-- The report of a fault. -/
def message : FileFault → String
  | system reason number => s!"{reason} (os error {number})"
  | notText => "stream did not contain valid UTF-8"

end FileFault

/-- The text of a file that may not be there. -/
def fileText (content : Except FileFault (List UInt8)) : Except FileFault String := do
  match Text.Utf8.decode? (← content) with
  | none => .error .notText
  | some text => .ok (String.ofList text)

end CrossShade
