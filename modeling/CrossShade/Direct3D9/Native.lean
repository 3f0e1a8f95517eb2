import CrossShade.Direct3D

/-!
# Direct3D 9 values

The numbers of Direct3D 9: texture and index formats, types of vertex elements and fixed-function
settings.
-/

namespace CrossShade.Direct3D9

/-- Texture formats. -/
def textureFormat? : ElementFormat → Option UInt32
  | .r8Unorm => some 50
  | .r8G8B8A8Unorm => some 32
  | .r8G8B8A8Snorm => some 63
  | .b8G8R8A8Unorm => some 21
  | .r16Float => some 111
  | .r16G16Float => some 112
  | .r16G16Unorm => some 34
  | .r16G16Snorm => some 64
  | .r16G16B16A16Float => some 113
  | .r16G16B16A16Unorm => some 36
  | .r32Float => some 114
  | .r32G32Float => some 115
  | .r32G32B32A32Float => some 116
  | .r10G10B10A2Unorm => some 31
  | .d16Unorm => some 80
  | .d24UnormS8Uint => some 75
  | .d32Float => some 82
  | _ => none

/-- Types of vertex elements. -/
def vertexType? : ElementFormat → Option UInt32
  | .r32Float => some 0
  | .r32G32Float => some 1
  | .r32G32B32Float => some 2
  | .r32G32B32A32Float => some 3
  | .b8G8R8A8Unorm => some 4
  | .r8G8B8A8Uint => some 5
  | .r16G16Sint => some 6
  | .r16G16B16A16Sint => some 7
  | .r8G8B8A8Unorm => some 8
  | .r16G16Snorm => some 9
  | .r16G16B16A16Snorm => some 10
  | .r16G16Unorm => some 11
  | .r16G16B16A16Unorm => some 12
  | .r16G16Float => some 15
  | .r16G16B16A16Float => some 16
  | _ => none

/-- The type of a vertex element. -/
def vertexType (format : ElementFormat) : Except ShaderError UInt32 :=
  Target.direct3D9.demand format.name (vertexType? format)

/-- Index formats. -/
def indexFormat : IndexFormat → UInt32
  | .uint16 => 101
  | .uint32 => 102

/-- Blend factors; there is one source. -/
def blendFactor? : BlendFactor → Option UInt32
  | .src1Color | .oneMinusSrc1Color | .src1Alpha | .oneMinusSrc1Alpha => none
  | factor => some (Direct3D.blendFactor factor)

/-- Fill modes. -/
def fillMode : FillMode → UInt32
  | .point => 1
  | .wireframe => 2
  | .solid => 3

/-- Filters. -/
def filter : FilterMode → UInt32
  | .point => 1
  | .linear => 2
  | .anisotropic => 3

/-- The numbers of Direct3D 9. -/
def native : NativeValues where
  target := .direct3D9
  format? := textureFormat?
  indexFormat := indexFormat
  topology? := Direct3D.plainTopology?
  blendFactor? := blendFactor?
  blendOperation := Direct3D.blendOperation
  stencilOperation := Direct3D.stencilOperation
  comparison := Direct3D.comparison
  cullMode? := fun mode => some (Direct3D.cullMode mode)
  fillMode? := fun mode => some (fillMode mode)
  addressMode := Direct3D.addressMode
  filter? := fun mode => some (filter mode)

end CrossShade.Direct3D9
