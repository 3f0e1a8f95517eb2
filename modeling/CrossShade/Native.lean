import CrossShade.Error
import CrossShade.FixedFunction
import CrossShade.Format
import CrossShade.Primitive

/-!
# Native values

Every target knows formats, topologies and fixed-function settings by numbers of its own.  What it
does not have has no number, and asking for it is an error.
-/

namespace CrossShade

/-- The numbers of a target.  A cull mode without a number stands for no culling. -/
structure NativeValues where
  target : Target
  format? : ElementFormat → Option UInt32
  indexFormat : IndexFormat → UInt32
  topology? : PrimitiveTopology → Option UInt32
  blendFactor? : BlendFactor → Option UInt32
  blendOperation : BlendOperation → UInt32
  stencilOperation : StencilOperation → UInt32
  comparison : Comparison → UInt32
  cullMode? : CullMode → Option UInt32
  fillMode? : FillMode → Option UInt32
  addressMode : AddressMode → UInt32
  filter? : FilterMode → Option UInt32

/-- A value that a target may not have; `name` is how an error tells of it. -/
def Target.demand {α : Type} (target : Target) (name : String) (value : Option α) :
    Except ShaderError α :=
  match value with
  | some value => .ok value
  | none => .error (.unsupported target (.value name))

namespace NativeValues

/-- The number of a format. -/
def format (native : NativeValues) (format : ElementFormat) : Except ShaderError UInt32 :=
  native.target.demand format.name (native.format? format)

/-- The number of a topology. -/
def topology (native : NativeValues) (topology : PrimitiveTopology) : Except ShaderError UInt32 :=
  native.target.demand topology.name (native.topology? topology)

/-- The number of a blend factor. -/
def blendFactor (native : NativeValues) (factor : BlendFactor) : Except ShaderError UInt32 :=
  native.target.demand factor.name (native.blendFactor? factor)

/-- The number of a fill mode. -/
def fillMode (native : NativeValues) (mode : FillMode) : Except ShaderError UInt32 :=
  native.target.demand mode.name (native.fillMode? mode)

/-- The number of a filter. -/
def filter (native : NativeValues) (mode : FilterMode) : Except ShaderError UInt32 :=
  native.target.demand mode.name (native.filter? mode)

end NativeValues

end CrossShade
