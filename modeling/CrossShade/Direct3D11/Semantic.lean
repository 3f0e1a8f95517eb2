import CrossShade.Variable

/-!
# Direct3D 11 semantics

A variable without a semantic gets its own name as one.  HLSL reads digits at the end of a semantic
as its index, so a name that ends in a digit gets an underscore behind it.
-/

namespace CrossShade.Direct3D11

/-- The semantic that a name stands for. -/
def ownSemantic (name : String) : String :=
  let semantic := Text.upper name
  if semantic.toList.getLast?.any Char.isDigit then semantic ++ "_" else semantic

/-- The semantic of a variable. -/
def semanticOf (v : Variable) : String :=
  v.semantic.getD (ownSemantic v.name)

/-- A semantic as a vertex layout names it. -/
structure ElementSemantic where
  name : String
  index : UInt32
  deriving Repr, DecidableEq

/-- The semantic of one element of a vertex input. -/
def elementSemantic (v : Variable) (element : UInt32) : ElementSemantic :=
  match v.semanticBase? with
  | some base => ⟨base, v.semanticIndex + element⟩
  | none => ⟨ownSemantic v.name, element⟩

end CrossShade.Direct3D11
