import CrossShade.Native

/-!
# OpenGL values

The numbers of the OpenGL core profile, and the formats of vertex attributes.
-/

namespace CrossShade.OpenGL

/-- Internal formats; none has its channels in the order of blue, green and red. -/
def internalFormat? : ElementFormat → Option UInt32
  | .r8Unorm => some 0x8229
  | .r8Uint => some 0x8232
  | .r8G8Unorm => some 0x822B
  | .r8G8B8A8Unorm => some 0x8058
  | .r8G8B8A8UnormSrgb => some 0x8C43
  | .r8G8B8A8Snorm => some 0x8F97
  | .r8G8B8A8Uint => some 0x8D7C
  | .r8G8B8A8Sint => some 0x8D8E
  | .r16Float => some 0x822D
  | .r16G16Float => some 0x822F
  | .r16G16Unorm => some 0x822C
  | .r16G16Snorm => some 0x8F99
  | .r16G16Uint => some 0x823A
  | .r16G16Sint => some 0x8239
  | .r16G16B16A16Float => some 0x881A
  | .r16G16B16A16Unorm => some 0x805B
  | .r16G16B16A16Snorm => some 0x8F9B
  | .r16G16B16A16Uint => some 0x8D76
  | .r16G16B16A16Sint => some 0x8D88
  | .r32Float => some 0x822E
  | .r32G32Float => some 0x8230
  | .r32G32B32Float => some 0x8815
  | .r32G32B32A32Float => some 0x8814
  | .r32Uint => some 0x8236
  | .r32G32Uint => some 0x823C
  | .r32G32B32Uint => some 0x8D71
  | .r32G32B32A32Uint => some 0x8D70
  | .r32Sint => some 0x8235
  | .r32G32Sint => some 0x823B
  | .r32G32B32Sint => some 0x8D83
  | .r32G32B32A32Sint => some 0x8D82
  | .r10G10B10A2Unorm => some 0x8059
  | .r11G11B10Float => some 0x8C3A
  | .d16Unorm => some 0x81A5
  | .d24UnormS8Uint => some 0x88F0
  | .d32Float => some 0x8CAC
  | .b8G8R8A8Unorm => none

/-- The format of a vertex attribute: its channels, their type, whether whole numbers are normalized
and whether they are read as whole numbers. -/
structure AttributeFormat where
  channels : UInt32
  type : UInt32
  isNormalized : Bool
  isInteger : Bool
  deriving Repr, DecidableEq

namespace AttributeFormat

/-- Numbers read as they are. -/
def float (channels type : UInt32) : AttributeFormat :=
  ⟨channels, type, false, false⟩

/-- Whole numbers read as fractions. -/
def normalized (channels type : UInt32) : AttributeFormat :=
  ⟨channels, type, true, false⟩

/-- Whole numbers read as whole numbers. -/
def integer (channels type : UInt32) : AttributeFormat :=
  ⟨channels, type, false, true⟩

end AttributeFormat

/-- The number of signed bytes. -/
def byteType : UInt32 := 0x1400

/-- The number of unsigned bytes. -/
def unsignedByteType : UInt32 := 0x1401

/-- The number of signed 16-bit numbers. -/
def shortType : UInt32 := 0x1402

/-- The number of unsigned 16-bit numbers. -/
def unsignedShortType : UInt32 := 0x1403

/-- The number of signed 32-bit numbers. -/
def intType : UInt32 := 0x1404

/-- The number of unsigned 32-bit numbers. -/
def unsignedIntType : UInt32 := 0x1405

/-- The number of 32-bit floating-point numbers. -/
def floatType : UInt32 := 0x1406

/-- The number of 16-bit floating-point numbers. -/
def halfFloatType : UInt32 := 0x140B

/-- The number of three ten-bit channels and one of two bits. -/
def packedUnormType : UInt32 := 0x8368

/-- The number of three small floating-point channels. -/
def packedFloatType : UInt32 := 0x8C3B

/-- What stands for the count of four channels with blue first. -/
def blueFirst : UInt32 := 0x80E1

/-- Formats of vertex attributes. -/
def attributeFormat? : ElementFormat → Option AttributeFormat
  | .r8Unorm => some (.normalized 1 unsignedByteType)
  | .r8Uint => some (.integer 1 unsignedByteType)
  | .r8G8Unorm => some (.normalized 2 unsignedByteType)
  | .r8G8B8A8Unorm => some (.normalized 4 unsignedByteType)
  | .r8G8B8A8Snorm => some (.normalized 4 byteType)
  | .r8G8B8A8Uint => some (.integer 4 unsignedByteType)
  | .r8G8B8A8Sint => some (.integer 4 byteType)
  | .b8G8R8A8Unorm => some (.normalized blueFirst unsignedByteType)
  | .r16Float => some (.float 1 halfFloatType)
  | .r16G16Float => some (.float 2 halfFloatType)
  | .r16G16Unorm => some (.normalized 2 unsignedShortType)
  | .r16G16Snorm => some (.normalized 2 shortType)
  | .r16G16Uint => some (.integer 2 unsignedShortType)
  | .r16G16Sint => some (.integer 2 shortType)
  | .r16G16B16A16Float => some (.float 4 halfFloatType)
  | .r16G16B16A16Unorm => some (.normalized 4 unsignedShortType)
  | .r16G16B16A16Snorm => some (.normalized 4 shortType)
  | .r16G16B16A16Uint => some (.integer 4 unsignedShortType)
  | .r16G16B16A16Sint => some (.integer 4 shortType)
  | .r32Float => some (.float 1 floatType)
  | .r32G32Float => some (.float 2 floatType)
  | .r32G32B32Float => some (.float 3 floatType)
  | .r32G32B32A32Float => some (.float 4 floatType)
  | .r32Uint => some (.integer 1 unsignedIntType)
  | .r32G32Uint => some (.integer 2 unsignedIntType)
  | .r32G32B32Uint => some (.integer 3 unsignedIntType)
  | .r32G32B32A32Uint => some (.integer 4 unsignedIntType)
  | .r32Sint => some (.integer 1 intType)
  | .r32G32Sint => some (.integer 2 intType)
  | .r32G32B32Sint => some (.integer 3 intType)
  | .r32G32B32A32Sint => some (.integer 4 intType)
  | .r10G10B10A2Unorm => some (.normalized 4 packedUnormType)
  | .r11G11B10Float => some (.float 3 packedFloatType)
  | .r8G8B8A8UnormSrgb | .d16Unorm | .d24UnormS8Uint | .d32Float => none

/-- The format of a vertex attribute. -/
def attributeFormat (format : ElementFormat) : Except ShaderError AttributeFormat :=
  Target.openGL.demand format.name (attributeFormat? format)

/-- Types of indices. -/
def indexType : IndexFormat → UInt32
  | .uint16 => unsignedShortType
  | .uint32 => unsignedIntType

/-- Draw modes; there are no patches without tessellation. -/
def drawMode? : PrimitiveTopology → Option UInt32
  | .pointList => some 0x0000
  | .lineList => some 0x0001
  | .lineStrip => some 0x0003
  | .triangleList => some 0x0004
  | .triangleStrip => some 0x0005
  | .lineListAdj => some 0x000A
  | .lineStripAdj => some 0x000B
  | .triangleListAdj => some 0x000C
  | .triangleStripAdj => some 0x000D
  | .patchList _ => none

/-- Blend factors. -/
def blendFactor : BlendFactor → UInt32
  | .zero => 0
  | .one => 1
  | .srcColor => 0x0300
  | .oneMinusSrcColor => 0x0301
  | .srcAlpha => 0x0302
  | .oneMinusSrcAlpha => 0x0303
  | .dstAlpha => 0x0304
  | .oneMinusDstAlpha => 0x0305
  | .dstColor => 0x0306
  | .oneMinusDstColor => 0x0307
  | .srcAlphaSaturated => 0x0308
  | .constant => 0x8001
  | .oneMinusConstant => 0x8002
  | .src1Color => 0x88F9
  | .oneMinusSrc1Color => 0x88FA
  | .src1Alpha => 0x8589
  | .oneMinusSrc1Alpha => 0x88FB

/-- Blend equations. -/
def blendEquation : BlendOperation → UInt32
  | .add => 0x8006
  | .min => 0x8007
  | .max => 0x8008
  | .subtract => 0x800A
  | .reverseSubtract => 0x800B

/-- Stencil operations. -/
def stencilOperation : StencilOperation → UInt32
  | .keep => 0x1E00
  | .zero => 0
  | .replace => 0x1E01
  | .invert => 0x150A
  | .incrementClamp => 0x1E02
  | .decrementClamp => 0x1E03
  | .incrementWrap => 0x8507
  | .decrementWrap => 0x8508

/-- Comparisons. -/
def comparison : Comparison → UInt32
  | .never => 0x0200
  | .less => 0x0201
  | .equal => 0x0202
  | .lessEqual => 0x0203
  | .greater => 0x0204
  | .notEqual => 0x0205
  | .greaterEqual => 0x0206
  | .always => 0x0207

/-- The face that is culled. -/
def culledFace? : CullMode → Option UInt32
  | .none => none
  | .front => some 0x0404
  | .back => some 0x0405

/-- Polygon modes. -/
def polygonMode : FillMode → UInt32
  | .point => 0x1B00
  | .wireframe => 0x1B01
  | .solid => 0x1B02

/-- Wrap modes. -/
def wrapMode : AddressMode → UInt32
  | .wrap => 0x2901
  | .mirror => 0x8370
  | .clamp => 0x812F
  | .border => 0x812D
  | .mirrorOnce => 0x8743

/-- Filters; anisotropy is a setting beside the filter. -/
def filter? : FilterMode → Option UInt32
  | .point => some 0x2600
  | .linear => some 0x2601
  | .anisotropic => none

/-- The numbers of OpenGL. -/
def native : NativeValues where
  target := .openGL
  format? := internalFormat?
  indexFormat := indexType
  topology? := drawMode?
  blendFactor? := fun factor => some (blendFactor factor)
  blendOperation := blendEquation
  stencilOperation := stencilOperation
  comparison := comparison
  cullMode? := culledFace?
  fillMode? := fun mode => some (polygonMode mode)
  addressMode := wrapMode
  filter? := filter?

end CrossShade.OpenGL
