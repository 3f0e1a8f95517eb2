import CrossShade.Error

/-!
# GLSL versions

A version is the same for every stage.
-/

namespace CrossShade.OpenGL

/-- A version of GLSL. -/
inductive Version where
  | v440
  | v450
  | v460
  deriving Repr, DecidableEq

namespace Version

/-- Every version. -/
def all : List Version :=
  [v440, v450, v460]

/-- The number of a version. -/
def number : Version → UInt32
  | v440 => 440
  | v450 => 450
  | v460 => 460

/-- The spelling of a version. -/
def name (version : Version) : String :=
  toString version.number

instance : ToString Version := ⟨name⟩

/-- The version with a number. -/
def ofNumber (number : UInt32) : Except ShaderError Version :=
  match all.find? (·.number = number) with
  | some version => .ok version
  | none => .error (.invalidProfile none (toString number))

/-- Reads the version that a shader of a stage asks for. -/
def read (stage : Stage) (text : String) : Except ShaderError Version :=
  match all.find? (·.name == text) with
  | some version => .ok version
  | none => .error (.invalidProfile (some stage) text)

end Version

end CrossShade.OpenGL
