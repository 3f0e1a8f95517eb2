import CrossShade.Keyword

/-!
# Resource kinds

The kinds of resource that a view of a shader can refer to.
-/

namespace CrossShade

/-- The kind of resource behind a view. -/
inductive ResourceKind where
  | buffer
  | structuredBuffer
  | renderbuffer
  | texture1D
  | texture1DArray
  | texture2D
  | texture2DArray
  | texture2DMultisample
  | texture3D
  | textureCube
  | textureCubeArray
  deriving Repr, DecidableEq

namespace ResourceKind

/-- Every kind. -/
def all : List ResourceKind :=
  [buffer, structuredBuffer, renderbuffer, texture1D, texture1DArray, texture2D, texture2DArray,
    texture2DMultisample, texture3D, textureCube, textureCubeArray]

/-- The name of a kind. -/
def name : ResourceKind → String
  | buffer => "Buffer"
  | structuredBuffer => "StructuredBuffer"
  | renderbuffer => "Renderbuffer"
  | texture1D => "Texture1D"
  | texture1DArray => "Texture1DArray"
  | texture2D => "Texture2D"
  | texture2DArray => "Texture2DArray"
  | texture2DMultisample => "Texture2DMultisample"
  | texture3D => "Texture3D"
  | textureCube => "TextureCube"
  | textureCubeArray => "TextureCubeArray"

/-- The word for a kind in a description. -/
def word : ResourceKind → String
  | texture2DMultisample => "Texture2DMS"
  | kind => kind.name

/-- Drops the letters that mark a view as one that is written to. -/
def withoutWriteMark (text : String) : String :=
  match text.toList with
  | 'R' :: 'W' :: rest => String.ofList rest
  | _ => text

/-- Reads the word for a kind, with or without the mark of a view that is written to. -/
def read (text : String) : Except UnknownKeyword ResourceKind :=
  readKeyword "resource kind" (all.map fun kind => (kind.word, kind)) (withoutWriteMark text)

/-- Whether a sampler can read the resource. -/
def isSampleable : ResourceKind → Bool
  | texture1D | texture1DArray | texture2D | texture2DArray | texture3D | textureCube
  | textureCubeArray => true
  | buffer | structuredBuffer | renderbuffer | texture2DMultisample => false

/-- How many coordinates sampling takes, for the kinds that can be sampled. -/
def coordinates? : ResourceKind → Option UInt32
  | texture1D => some 1
  | texture1DArray | texture2D => some 2
  | texture2DArray | texture3D | textureCube => some 3
  | textureCubeArray => some 4
  | buffer | structuredBuffer | renderbuffer | texture2DMultisample => none

/-- The HLSL type of a view that is read. -/
def hlslRead? : ResourceKind → Option String
  | buffer => some "Buffer"
  | structuredBuffer => some "StructuredBuffer"
  | renderbuffer => none
  | texture1D => some "Texture1D"
  | texture1DArray => some "Texture1DArray"
  | texture2D => some "Texture2D"
  | texture2DArray => some "Texture2DArray"
  | texture2DMultisample => some "Texture2DMS"
  | texture3D => some "Texture3D"
  | textureCube => some "TextureCube"
  | textureCubeArray => some "TextureCubeArray"

/-- The HLSL type of a view that is written. -/
def hlslWrite? : ResourceKind → Option String
  | buffer => some "RWBuffer"
  | structuredBuffer => some "RWStructuredBuffer"
  | texture1D => some "RWTexture1D"
  | texture1DArray => some "RWTexture1DArray"
  | texture2D => some "RWTexture2D"
  | texture2DArray => some "RWTexture2DArray"
  | texture3D => some "RWTexture3D"
  | renderbuffer | texture2DMultisample | textureCube | textureCubeArray => none

/-- A kind takes coordinates exactly if it can be sampled. -/
theorem isSome_coordinates? (kind : ResourceKind) :
    kind.coordinates?.isSome = kind.isSampleable := by
  cases kind <;> rfl

instance : Named ResourceKind := ⟨all, name⟩

end ResourceKind

end CrossShade
