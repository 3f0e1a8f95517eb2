import CrossShade.OpenGL.Interface
import CrossShade.OpenGL.Prelude
import CrossShade.OpenGL.Version

/-!
# OpenGL source texts

GLSL for vertex, pixel and compute shaders.
-/

namespace CrossShade.OpenGL

/-- Whether shaders of a stage exist. -/
def supports (stage : Stage) : Bool :=
  stage = .vertex || stage = .pixel || stage = .compute

/-- The version a shader is written in: the one its profile asks for, or else the given one. -/
def versionFor (version : Version) (shader : Shader) : Version :=
  match Version.read shader.stage shader.profile with
  | .ok asked => asked
  | .error _ => version

/-- The line that gives the thread group of a compute shader. -/
def threadGroup (shader : Shader) : Except ShaderError (List Source.Item) := do
  if shader.stage = .compute then
    let group ← shader.fault shader.threadGroup
    let sizes :=
      s!"local_size_x = {group.x}, local_size_y = {group.y}, local_size_z = {group.z}"
    return [.verbatim s!"layout({sizes}) in;", .blank]
  else
    return []

/-- The source text of a shader. -/
def source (version : Version) (shader : Shader) : Except ShaderError Source := do
  let stage := shader.stage
  if !supports stage then
    .error (.stageUnsupported .openGL stage)
  else
    let resources ← resources shader
    let interface ← stageInterface shader
    let group ← threadGroup shader
    return Source.ofItems <|
      [.verbatim s!"#version {versionFor version shader}",
        .comment s!"{shader.name} ({stage} shader, OpenGL)", .blank] ++ prelude_ ++ resources ++
      interface.items ++
      [Source.macroOf "INPUT" ["x"] s!"{inputLocal}.x",
        Source.macroOf "OUTPUT" ["x"] s!"{outputLocal}.x", .blank] ++ group ++
      [.function { returns := "void", name := "main", body := interface.body shader.mainCode }]

end CrossShade.OpenGL
