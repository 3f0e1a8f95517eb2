import CrossShade.ValueType

/-!
# Element formats

The formats of vertex data, textures and index buffers, each with what a value of the format holds.
-/

namespace CrossShade

/-- The format of one element of a buffer or texture: its channels, their bits and how bits are
read. -/
inductive ElementFormat where
  | r8Unorm
  | r8Uint
  | r8G8Unorm
  | r8G8B8A8Unorm
  | r8G8B8A8UnormSrgb
  | r8G8B8A8Snorm
  | r8G8B8A8Uint
  | r8G8B8A8Sint
  | b8G8R8A8Unorm
  | r16Float
  | r16G16Float
  | r16G16Unorm
  | r16G16Snorm
  | r16G16Uint
  | r16G16Sint
  | r16G16B16A16Float
  | r16G16B16A16Unorm
  | r16G16B16A16Snorm
  | r16G16B16A16Uint
  | r16G16B16A16Sint
  | r32Float
  | r32G32Float
  | r32G32B32Float
  | r32G32B32A32Float
  | r32Uint
  | r32G32Uint
  | r32G32B32Uint
  | r32G32B32A32Uint
  | r32Sint
  | r32G32Sint
  | r32G32B32Sint
  | r32G32B32A32Sint
  | r10G10B10A2Unorm
  | r11G11B10Float
  | d16Unorm
  | d24UnormS8Uint
  | d32Float
  deriving Repr, DecidableEq

namespace ElementFormat

/-- What is known about a format. -/
structure Facts where
  name : String
  scalar : ScalarType
  components : UInt32
  bytes : UInt32
  isDepth : Bool
  deriving Repr, DecidableEq

/-- The facts about each format: the scalar it feeds, its channels, its size and whether it holds
depth. -/
def facts : ElementFormat → Facts
  | r8Unorm => ⟨"R8Unorm", .float, 1, 1, false⟩
  | r8Uint => ⟨"R8Uint", .uint, 1, 1, false⟩
  | r8G8Unorm => ⟨"R8G8Unorm", .float, 2, 2, false⟩
  | r8G8B8A8Unorm => ⟨"R8G8B8A8Unorm", .float, 4, 4, false⟩
  | r8G8B8A8UnormSrgb => ⟨"R8G8B8A8UnormSrgb", .float, 4, 4, false⟩
  | r8G8B8A8Snorm => ⟨"R8G8B8A8Snorm", .float, 4, 4, false⟩
  | r8G8B8A8Uint => ⟨"R8G8B8A8Uint", .uint, 4, 4, false⟩
  | r8G8B8A8Sint => ⟨"R8G8B8A8Sint", .int, 4, 4, false⟩
  | b8G8R8A8Unorm => ⟨"B8G8R8A8Unorm", .float, 4, 4, false⟩
  | r16Float => ⟨"R16Float", .float, 1, 2, false⟩
  | r16G16Float => ⟨"R16G16Float", .float, 2, 4, false⟩
  | r16G16Unorm => ⟨"R16G16Unorm", .float, 2, 4, false⟩
  | r16G16Snorm => ⟨"R16G16Snorm", .float, 2, 4, false⟩
  | r16G16Uint => ⟨"R16G16Uint", .uint, 2, 4, false⟩
  | r16G16Sint => ⟨"R16G16Sint", .int, 2, 4, false⟩
  | r16G16B16A16Float => ⟨"R16G16B16A16Float", .float, 4, 8, false⟩
  | r16G16B16A16Unorm => ⟨"R16G16B16A16Unorm", .float, 4, 8, false⟩
  | r16G16B16A16Snorm => ⟨"R16G16B16A16Snorm", .float, 4, 8, false⟩
  | r16G16B16A16Uint => ⟨"R16G16B16A16Uint", .uint, 4, 8, false⟩
  | r16G16B16A16Sint => ⟨"R16G16B16A16Sint", .int, 4, 8, false⟩
  | r32Float => ⟨"R32Float", .float, 1, 4, false⟩
  | r32G32Float => ⟨"R32G32Float", .float, 2, 8, false⟩
  | r32G32B32Float => ⟨"R32G32B32Float", .float, 3, 12, false⟩
  | r32G32B32A32Float => ⟨"R32G32B32A32Float", .float, 4, 16, false⟩
  | r32Uint => ⟨"R32Uint", .uint, 1, 4, false⟩
  | r32G32Uint => ⟨"R32G32Uint", .uint, 2, 8, false⟩
  | r32G32B32Uint => ⟨"R32G32B32Uint", .uint, 3, 12, false⟩
  | r32G32B32A32Uint => ⟨"R32G32B32A32Uint", .uint, 4, 16, false⟩
  | r32Sint => ⟨"R32Sint", .int, 1, 4, false⟩
  | r32G32Sint => ⟨"R32G32Sint", .int, 2, 8, false⟩
  | r32G32B32Sint => ⟨"R32G32B32Sint", .int, 3, 12, false⟩
  | r32G32B32A32Sint => ⟨"R32G32B32A32Sint", .int, 4, 16, false⟩
  | r10G10B10A2Unorm => ⟨"R10G10B10A2Unorm", .float, 4, 4, false⟩
  | r11G11B10Float => ⟨"R11G11B10Float", .float, 3, 4, false⟩
  | d16Unorm => ⟨"D16Unorm", .float, 1, 2, true⟩
  | d24UnormS8Uint => ⟨"D24UnormS8Uint", .float, 1, 4, true⟩
  | d32Float => ⟨"D32Float", .float, 1, 4, true⟩

/-- Every format. -/
def all : List ElementFormat :=
  [r8Unorm, r8Uint, r8G8Unorm, r8G8B8A8Unorm, r8G8B8A8UnormSrgb, r8G8B8A8Snorm, r8G8B8A8Uint,
    r8G8B8A8Sint, b8G8R8A8Unorm, r16Float, r16G16Float, r16G16Unorm, r16G16Snorm, r16G16Uint,
    r16G16Sint, r16G16B16A16Float, r16G16B16A16Unorm, r16G16B16A16Snorm, r16G16B16A16Uint,
    r16G16B16A16Sint, r32Float, r32G32Float, r32G32B32Float, r32G32B32A32Float, r32Uint,
    r32G32Uint, r32G32B32Uint, r32G32B32A32Uint, r32Sint, r32G32Sint, r32G32B32Sint,
    r32G32B32A32Sint, r10G10B10A2Unorm, r11G11B10Float, d16Unorm, d24UnormS8Uint, d32Float]

/-- The name of a format. -/
def name (format : ElementFormat) : String :=
  format.facts.name

/-- The scalar that shaders read from the format. -/
def scalar (format : ElementFormat) : ScalarType :=
  format.facts.scalar

/-- The number of channels. -/
def components (format : ElementFormat) : UInt32 :=
  format.facts.components

/-- The size of an element in bytes. -/
def bytes (format : ElementFormat) : UInt32 :=
  format.facts.bytes

/-- Whether the format holds depth. -/
def isDepth (format : ElementFormat) : Bool :=
  format.facts.isDepth

/-- Whether vertex data of the format can feed an input of a scalar type. -/
def feeds (format : ElementFormat) (base : ScalarType) : Bool :=
  !format.isDepth && format.scalar = base

/-- The format with a name. -/
def ofName? (name : String) : Option ElementFormat :=
  all.find? (·.name == name)

instance : Named ElementFormat := ⟨all, name⟩

end ElementFormat

/-- The format of the indices of an indexed draw. -/
inductive IndexFormat where
  | uint16
  | uint32
  deriving Repr, DecidableEq

namespace IndexFormat

/-- Every index format. -/
def all : List IndexFormat :=
  [uint16, uint32]

/-- The name of an index format. -/
def name : IndexFormat → String
  | uint16 => "Uint16"
  | uint32 => "Uint32"

/-- The size of an index in bytes. -/
def bytes : IndexFormat → UInt32
  | uint16 => 2
  | uint32 => 4

instance : Named IndexFormat := ⟨all, name⟩

end IndexFormat

end CrossShade
