import CrossShade.Error
import CrossShade.Stage

/-!
# Compilation profiles

A profile names a stage and a shader model.
-/

namespace CrossShade

/-- A version of the shader language with its limits. -/
inductive ShaderModel where
  | v2
  | v2a
  | v2b
  | v3
  | v4
  | v41
  | v5
  deriving Repr, DecidableEq

/-- The spelling of a model in profiles. -/
def ShaderModel.name : ShaderModel → String
  | v2 => "2_0"
  | v2a => "2_a"
  | v2b => "2_b"
  | v3 => "3_0"
  | v4 => "4_0"
  | v41 => "4_1"
  | v5 => "5_0"

/-- What a shader is compiled for. -/
structure Profile where
  stage : Stage
  model : ShaderModel
  deriving Repr, DecidableEq

namespace Profile

/-- The spelling of a profile. -/
def name (profile : Profile) : String :=
  s!"{profile.stage.profileLetters}_{profile.model.name}"

/-- Whether a profile is of model five. -/
def isModelFive (profile : Profile) : Bool :=
  profile.model = .v5

/-- The profile of a stage with a spelling, among those that a target has. -/
def find? (profiles : List Profile) (stage : Stage) (text : String) : Option Profile :=
  profiles.find? fun profile => profile.name == text && profile.stage = stage

/-- Reads the profile of a stage. -/
def read (profiles : List Profile) (stage : Stage) (text : String) : Except ShaderError Profile :=
  match find? profiles stage text with
  | some profile => .ok profile
  | none => .error (.invalidProfile (some stage) text)

end Profile

end CrossShade
