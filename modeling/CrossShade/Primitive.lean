import CrossShade.Keyword

/-!
# Primitives

The primitives a geometry shader consumes, the streams it writes, and the topologies in which a draw
assembles vertices.
-/

namespace CrossShade

/-- The primitive that a geometry shader consumes. -/
inductive GeometryPrimitive where
  | point
  | line
  | triangle
  | lineAdj
  | triangleAdj
  deriving Repr, DecidableEq

namespace GeometryPrimitive

/-- The name of a primitive. -/
def name : GeometryPrimitive → String
  | point => "Point"
  | line => "Line"
  | triangle => "Triangle"
  | lineAdj => "LineAdj"
  | triangleAdj => "TriangleAdj"

/-- Reads the name of a primitive. -/
def read (text : String) : Except UnknownKeyword GeometryPrimitive :=
  readKeyword "geometry primitive"
    ([point, line, triangle, lineAdj, triangleAdj].map fun p => (p.name, p)) text

/-- How many vertices one primitive brings. -/
def vertexCount : GeometryPrimitive → UInt32
  | point => 1
  | line => 2
  | triangle => 3
  | lineAdj => 4
  | triangleAdj => 6

/-- The spelling of a primitive in HLSL parameters. -/
def hlsl : GeometryPrimitive → String
  | point => "point"
  | line => "line"
  | triangle => "triangle"
  | lineAdj => "lineadj"
  | triangleAdj => "triangleadj"

end GeometryPrimitive

/-- The primitives that a geometry shader writes to a stream. -/
inductive StreamTopology where
  | point
  | line
  | triangle
  deriving Repr, DecidableEq

namespace StreamTopology

/-- The name of a stream topology. -/
def name : StreamTopology → String
  | point => "Point"
  | line => "Line"
  | triangle => "Triangle"

/-- Reads the name of a stream topology. -/
def read (text : String) : Except UnknownKeyword StreamTopology :=
  readKeyword "stream topology" ([point, line, triangle].map fun t => (t.name, t)) text

/-- The HLSL type that wraps the vertex structure of a stream. -/
def hlsl : StreamTopology → String
  | point => "PointStream"
  | line => "LineStream"
  | triangle => "TriangleStream"

end StreamTopology

/-- How the vertices of a draw form primitives. -/
inductive PrimitiveTopology where
  | pointList
  | lineList
  | lineStrip
  | triangleList
  | triangleStrip
  | lineListAdj
  | lineStripAdj
  | triangleListAdj
  | triangleStripAdj
  | patchList (points : UInt8)
  deriving Repr, DecidableEq

namespace PrimitiveTopology

/-- The name of a topology. -/
def name : PrimitiveTopology → String
  | pointList => "PointList"
  | lineList => "LineList"
  | lineStrip => "LineStrip"
  | triangleList => "TriangleList"
  | triangleStrip => "TriangleStrip"
  | lineListAdj => "LineListAdj"
  | lineStripAdj => "LineStripAdj"
  | triangleListAdj => "TriangleListAdj"
  | triangleStripAdj => "TriangleStripAdj"
  | patchList points => s!"PatchList({points})"

/-- The class of primitive that a geometry shader sees; patches are of none. -/
def primitive? : PrimitiveTopology → Option GeometryPrimitive
  | pointList => some .point
  | lineList | lineStrip => some .line
  | triangleList | triangleStrip => some .triangle
  | lineListAdj | lineStripAdj => some .lineAdj
  | triangleListAdj | triangleStripAdj => some .triangleAdj
  | patchList _ => none

/-- The control points of a patch topology. -/
def patchPoints? : PrimitiveTopology → Option UInt8
  | patchList points => some points
  | _ => none

/-- How many complete primitives some vertices form.  The vertices of patches and of primitives with
adjacency are counted one by one. -/
def primitiveCount (topology : PrimitiveTopology) (vertices : UInt32) : UInt32 :=
  match topology with
  | lineList => vertices / 2
  | lineStrip => if vertices < 1 then 0 else vertices - 1
  | triangleList => vertices / 3
  | triangleStrip => if vertices < 2 then 0 else vertices - 2
  | _ => vertices

/-- The topologies without a number of their own. -/
def plain : List PrimitiveTopology :=
  [pointList, lineList, lineStrip, triangleList, triangleStrip, lineListAdj, lineStripAdj,
    triangleListAdj, triangleStripAdj]

end PrimitiveTopology

end CrossShade
