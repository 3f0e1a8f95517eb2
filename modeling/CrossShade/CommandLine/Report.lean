import CrossShade.Error
import CrossShade.Settings.Reader

/-!
# Reports of failures

A failure says what could not be done, and after that why, each reason with its own below it.  More
than one reason is numbered.
-/

namespace CrossShade.CommandLine

/-- What could not be done, and the chain of reasons. -/
structure Failure where
  message : String
  causes : List String := []
  /-- Whether the program is there to tell of the failure. -/
  isTold : Bool := true
  deriving Repr, DecidableEq

/-- A text with the start of its first line and of all other lines. -/
def indented (first other text : String) : String :=
  let lines := (Text.pieces (· == '\n') text.toList).map String.ofList
  first ++ ("\n" ++ other).intercalate lines

/-- The lines of a reason with its number. -/
def numberedCause (number : Nat) (text : String) : String :=
  indented (padLeft 5 (toString number) ++ ": ") "       " text

/-- The lines of all reasons. -/
def causeLines : List String → List String
  | [] => []
  | [cause] => ["", "Caused by:", indented "    " "    " cause]
  | causes =>
    ["", "Caused by:"] ++ causes.zipIdx.map fun (cause, number) => numberedCause number cause

/-- The report of a failure. -/
def Failure.report (failure : Failure) : String :=
  String.join ((("Error: " ++ failure.message) :: causeLines failure.causes).map (· ++ "\n"))

/-- The failure to load settings from a file. -/
def Failure.ofSettings (path : String) (fault : Settings.Fault) : Failure :=
  let causes := match fault with
    | .file reason => [fault.message, reason.message]
    | .format => [fault.message]
  { message := s!"Failed to load settings from {path}", causes }

/-- The failure to do something with a shader. -/
def Failure.ofShader (message : String) (error : ShaderError) : Failure :=
  { message, causes := [error.message], isTold := error.isTold }

/-- The failure to do something with a file. -/
def Failure.ofFile (verb path : String) (fault : FileFault) : Failure :=
  { message := s!"Failed to {verb} {path}", causes := [fault.message] }

end CrossShade.CommandLine
