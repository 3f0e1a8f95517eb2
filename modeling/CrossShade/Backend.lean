import CrossShade.Compiler
import CrossShade.Direct3D11.InputLayout
import CrossShade.Direct3D11.Profile
import CrossShade.Direct3D11.Source
import CrossShade.Direct3D9.Source
import CrossShade.Direct3D9.VertexDeclaration
import CrossShade.OpenGL.Source
import CrossShade.OpenGL.VertexAttribute

/-!
# Backends

A backend is all that shaders need to know about a target: which stages it has, how a source text
and a profile come from a shader, and how vertex layouts are made.  `α` is what it makes of a shader
input in a layout, `β` an element of a finished layout.
-/

namespace CrossShade

/-- What the shaders of a target are made with. -/
structure Backend (α β : Type) where
  target : Target
  /-- Whether shaders of a stage exist. -/
  supports : Stage → Bool
  /-- The source text of a shader. -/
  source : Shader → Except ShaderError Source
  /-- The profile a shader is compiled for. -/
  profile : Shader → Except ShaderError String
  /-- What names of files with source texts end in. -/
  extension : String
  /-- The name of the compiler. -/
  compilerName : String
  /-- What a layout needs to know of one element of an input. -/
  layoutPart : LayoutPart α
  /-- The element that vertex data makes of an entry. -/
  layoutElement : LayoutEntry α → VertexElement → Except ShaderError β

namespace Backend

/-- The name of the entry point, whatever the stage. -/
def entryPoint : String :=
  "main"

variable {α β : Type}

/-- The rendered source text of a shader. -/
def generate (backend : Backend α β) (shader : Shader) : Except ShaderError String :=
  if backend.supports shader.stage then
    (backend.source shader).map Source.render
  else
    .error (.stageUnsupported backend.target shader.stage)

/-- The vertex layout of a vertex shader before its elements are given. -/
def layoutDraft (backend : Backend α β) (shader : Shader) : Except ShaderError (LayoutDraft α) :=
  LayoutDraft.ofShader shader backend.layoutPart

/-- The vertex layout that elements make of a draft. -/
def finishLayout (backend : Backend α β) (draft : LayoutDraft α) (elements : List VertexElement) :
    Except ShaderError (List β) :=
  (draft.finish backend.target elements fun entry element =>
    ExceptT.mk (m := Id) (backend.layoutElement entry element)).run

end Backend

namespace Direct3D9

/-- Shaders for Direct3D 9. -/
def backend : Backend ElementUsage DeclaredElement where
  target := .direct3D9
  supports := supports
  source := source
  profile := fun shader => (resolveProfile shader.stage shader.profile).map (·.name)
  extension := "hlsl"
  compilerName := "fxc"
  layoutPart := elementUsage
  layoutElement := declareElement

end Direct3D9

namespace Direct3D11

/-- Shaders for Direct3D 11. -/
def backend : Backend ElementSemantic InputElement where
  target := .direct3D11
  supports := fun _ => true
  source := source
  profile := fun shader => (resolveProfile shader.stage shader.profile).map (·.name)
  extension := "hlsl"
  compilerName := "fxc"
  layoutPart := fun v element _ => .ok (elementSemantic v element)
  layoutElement := inputElement

end Direct3D11

namespace OpenGL

/-- Shaders for OpenGL, in a version unless they ask for another. -/
def backend (version : Version) : Backend UInt32 VertexAttribute where
  target := .openGL
  supports := supports
  source := source version
  profile := fun shader => .ok (versionFor version shader).name
  extension := "glsl"
  compilerName := "naga"
  layoutPart := fun _ _ place => .ok (attributeLocation place)
  layoutElement := vertexAttribute

end OpenGL

end CrossShade
