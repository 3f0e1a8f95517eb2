import CrossShade.Keyword

/-!
# Tessellation

What a hull shader tells the tessellator: the domain it divides, how it divides edges and what it
puts out.
-/

namespace CrossShade

/-- The shape of patch that the tessellator divides. -/
inductive TessellationDomain where
  | isoline
  | triangle
  | quad
  deriving Repr, DecidableEq

namespace TessellationDomain

/-- Every domain. -/
def all : List TessellationDomain :=
  [.isoline, .triangle, .quad]

/-- The name of a domain. -/
def name : TessellationDomain → String
  | isoline => "Isoline"
  | triangle => "Triangle"
  | quad => "Quad"

/-- Reads the name of a domain. -/
def read (text : String) : Except UnknownKeyword TessellationDomain :=
  readKeyword "tessellation domain" (all.map fun domain => (domain.name, domain)) text

/-- How many factors divide the edges of a patch. -/
def outerFactors : TessellationDomain → UInt32
  | isoline => 2
  | triangle => 3
  | quad => 4

/-- How many factors divide the inside of a patch. -/
def innerFactors : TessellationDomain → UInt32
  | isoline => 0
  | triangle => 1
  | quad => 2

/-- The spelling of a domain in HLSL attributes. -/
def hlsl : TessellationDomain → String
  | isoline => "isoline"
  | triangle => "tri"
  | quad => "quad"

end TessellationDomain

/-- How the tessellator spaces the points on an edge. -/
inductive Partitioning where
  | integer
  | fractionalEven
  | fractionalOdd
  | pow2
  deriving Repr, DecidableEq

namespace Partitioning

/-- The name of a partitioning. -/
def name : Partitioning → String
  | integer => "Integer"
  | fractionalEven => "FractionalEven"
  | fractionalOdd => "FractionalOdd"
  | pow2 => "Pow2"

/-- Reads the name of a partitioning. -/
def read (text : String) : Except UnknownKeyword Partitioning :=
  readKeyword "partitioning"
    ([integer, fractionalEven, fractionalOdd, pow2].map fun mode => (mode.name, mode)) text

/-- The spelling of a partitioning in HLSL attributes. -/
def hlsl : Partitioning → String
  | integer => "integer"
  | fractionalEven => "fractional_even"
  | fractionalOdd => "fractional_odd"
  | pow2 => "pow2"

end Partitioning

/-- The primitives that the tessellator puts out. -/
inductive OutputTopology where
  | point
  | line
  | triangleCw
  | triangleCcw
  deriving Repr, DecidableEq

namespace OutputTopology

/-- The name of an output topology. -/
def name : OutputTopology → String
  | point => "Point"
  | line => "Line"
  | triangleCw => "TriangleCw"
  | triangleCcw => "TriangleCcw"

/-- Reads an output topology; the winding of triangles has two spellings. -/
def read (text : String) : Except UnknownKeyword OutputTopology :=
  readKeyword "output topology"
    [("Point", point), ("Line", line), ("TriangleCW", triangleCw), ("TriangleCw", triangleCw),
      ("TriangleCCW", triangleCcw), ("TriangleCcw", triangleCcw)] text

/-- The spelling of an output topology in HLSL attributes. -/
def hlsl : OutputTopology → String
  | point => "point"
  | line => "line"
  | triangleCw => "triangle_cw"
  | triangleCcw => "triangle_ccw"

end OutputTopology

end CrossShade
