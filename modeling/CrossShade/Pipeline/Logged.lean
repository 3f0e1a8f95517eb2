import CrossShade.Pipeline.Flush

/-!
# Logged calls

A call of a graphics interface as a log shows it: its name and its arguments.  Targets have calls of
their own; the kinds of argument are the same for all of them.
-/

namespace CrossShade

/-- An argument of a call. -/
inductive Argument where
  | number (value : UInt32)
  | signed (value : Int)
  | stage (stage : Stage)
  /-- The id of an object, or none. -/
  | object (id : Option Nat)
  | objects (ids : List (Option Nat))
  /-- The number of a slot. -/
  | slot (slot : Nat)
  | vertexBuffer (buffer : Option VertexBuffer)
  | vertexBuffers (buffers : List (Option VertexBuffer))
  | viewport (viewport : Viewport)
  | viewports (viewports : List Viewport)
  | scissorRect (rect : ScissorRect)
  | scissorRects (rects : List ScissorRect)
  /-- A native value, or none. -/
  | value? (value : Option UInt32)
  /-- The numbers of groups along the axes. -/
  | groups (x y z : UInt32)
  deriving Repr

/-- A call with its arguments in order. -/
structure LoggedCall where
  name : String
  arguments : List Argument
  deriving Repr

end CrossShade
