import CrossShade.Direct3D

/-!
# Direct3D 11 values

The numbers of Direct3D 11.  Every element format has one.
-/

namespace CrossShade.Direct3D11

/-- Element formats. -/
def elementFormat : ElementFormat → UInt32
  | .r32G32B32A32Float => 2
  | .r32G32B32A32Uint => 3
  | .r32G32B32A32Sint => 4
  | .r32G32B32Float => 6
  | .r32G32B32Uint => 7
  | .r32G32B32Sint => 8
  | .r16G16B16A16Float => 10
  | .r16G16B16A16Unorm => 11
  | .r16G16B16A16Uint => 12
  | .r16G16B16A16Snorm => 13
  | .r16G16B16A16Sint => 14
  | .r32G32Float => 16
  | .r32G32Uint => 17
  | .r32G32Sint => 18
  | .r10G10B10A2Unorm => 24
  | .r11G11B10Float => 26
  | .r8G8B8A8Unorm => 28
  | .r8G8B8A8UnormSrgb => 29
  | .r8G8B8A8Uint => 30
  | .r8G8B8A8Snorm => 31
  | .r8G8B8A8Sint => 32
  | .r16G16Float => 34
  | .r16G16Unorm => 35
  | .r16G16Uint => 36
  | .r16G16Snorm => 37
  | .r16G16Sint => 38
  | .d32Float => 40
  | .r32Float => 41
  | .r32Uint => 42
  | .r32Sint => 43
  | .d24UnormS8Uint => 45
  | .r8G8Unorm => 49
  | .r16Float => 54
  | .d16Unorm => 55
  | .r8Unorm => 61
  | .r8Uint => 62
  | .b8G8R8A8Unorm => 87

/-- Index formats. -/
def indexFormat : IndexFormat → UInt32
  | .uint16 => 57
  | .uint32 => 42

/-- Topologies; patches of one to thirty-two points follow each other. -/
def topology? : PrimitiveTopology → Option UInt32
  | .lineListAdj => some 10
  | .lineStripAdj => some 11
  | .triangleListAdj => some 12
  | .triangleStripAdj => some 13
  | .patchList points => if 1 ≤ points && points ≤ 32 then some (32 + points.toUInt32) else none
  | topology => Direct3D.plainTopology? topology

/-- Fill modes; points are not drawn for corners. -/
def fillMode? : FillMode → Option UInt32
  | .wireframe => some 2
  | .solid => some 3
  | .point => none

/-- Filters. -/
def filter : FilterMode → UInt32
  | .point => 0x00
  | .linear => 0x15
  | .anisotropic => 0x55

/-- The numbers of Direct3D 11. -/
def native : NativeValues where
  target := .direct3D11
  format? := fun format => some (elementFormat format)
  indexFormat := indexFormat
  topology? := topology?
  blendFactor? := fun factor => some (Direct3D.blendFactor factor)
  blendOperation := Direct3D.blendOperation
  stencilOperation := Direct3D.stencilOperation
  comparison := Direct3D.comparison
  cullMode? := fun mode => some (Direct3D.cullMode mode)
  fillMode? := fillMode?
  addressMode := Direct3D.addressMode
  filter? := fun mode => some (filter mode)

end CrossShade.Direct3D11
