import CrossShade.Profile

/-!
# Direct3D 11 profiles

Every stage in models four and five; tessellation has model five alone.
-/

namespace CrossShade.Direct3D11

/-- The profiles. -/
def profiles : List Profile :=
  [⟨.vertex, .v4⟩, ⟨.vertex, .v41⟩, ⟨.vertex, .v5⟩, ⟨.pixel, .v4⟩, ⟨.pixel, .v41⟩, ⟨.pixel, .v5⟩,
    ⟨.geometry, .v4⟩, ⟨.geometry, .v41⟩, ⟨.geometry, .v5⟩, ⟨.hull, .v5⟩, ⟨.domain, .v5⟩,
    ⟨.compute, .v4⟩, ⟨.compute, .v41⟩, ⟨.compute, .v5⟩]

/-- The newest profile of a stage. -/
def latest (stage : Stage) : Profile :=
  ⟨stage, .v5⟩

/-- The profile a shader is compiled for: the newest one unless it is given. -/
def resolveProfile (stage : Stage) (text : String) : Except ShaderError Profile :=
  if text.isEmpty then .ok (latest stage) else Profile.read profiles stage text

/-- The newest profile of a stage is one of the profiles. -/
theorem latest_mem (stage : Stage) : latest stage ∈ profiles := by
  cases stage <;> decide

end CrossShade.Direct3D11
