import CrossShade.Profile

/-!
# Direct3D 9 profiles

Vertex and pixel shaders of models two and three.  A profile of the right stage that the target does
not have stands for model three.
-/

namespace CrossShade.Direct3D9

/-- The profiles. -/
def profiles : List Profile :=
  [⟨.vertex, .v2⟩, ⟨.vertex, .v2a⟩, ⟨.vertex, .v3⟩, ⟨.pixel, .v2⟩, ⟨.pixel, .v2a⟩, ⟨.pixel, .v2b⟩,
    ⟨.pixel, .v3⟩]

/-- Whether shaders of a stage exist. -/
def supports (stage : Stage) : Bool :=
  stage = .vertex || stage = .pixel

/-- The profile of model three for a stage. -/
def modelThree? (stage : Stage) : Option Profile :=
  if supports stage then some ⟨stage, .v3⟩ else none

/-- The profile a shader is compiled for. -/
def resolveProfile (stage : Stage) (text : String) : Except ShaderError Profile :=
  match modelThree? stage with
  | none => .error (.stageUnsupported .direct3D9 stage)
  | some fallback =>
    if text.isEmpty then .ok fallback
    else
      match Profile.find? profiles stage text with
      | some exact => .ok exact
      | none =>
        if Stage.ofProfile? text = some stage then .ok fallback
        else .error (.invalidProfile (some stage) text)

end CrossShade.Direct3D9
