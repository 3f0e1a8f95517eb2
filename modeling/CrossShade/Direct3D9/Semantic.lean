import CrossShade.Error
import CrossShade.Shader

/-!
# Shader model three semantics

Every variable of an interface is passed in a register with a semantic.  A variable without one of
its own gets the next `TEXCOORD` register.  Vertex inputs count the registers of all used inputs, as
the vertex declaration does; between stages only variables without a semantic are counted, used or
not, so that both sides of a boundary agree.
-/

namespace CrossShade.Direct3D9

/-- The interfaces of the two stages. -/
inductive Interface where
  | vertexInput
  | vertexOutput
  | pixelInput
  | pixelOutput
  deriving Repr, DecidableEq

namespace Interface

/-- Whether values are passed between the stages. -/
def isVarying : Interface → Bool
  | vertexOutput | pixelInput => true
  | vertexInput | pixelOutput => false

/-- The semantic of a system value, if the interface has it. -/
def systemValue? : Interface → (base : String) → (index : UInt32) → Option String
  | vertexOutput, "SV_POSITION", _ => some "POSITION"
  | pixelInput, "SV_POSITION", _ => some "VPOS"
  | pixelInput, "SV_ISFRONTFACE", _ => some "VFACE"
  | pixelOutput, "SV_TARGET", index => some s!"COLOR{index}"
  | pixelOutput, "SV_DEPTH", _ => some "DEPTH"
  | _, _, _ => none

/-- The semantic of a variable before interpolation; `next` is the next free register. -/
def register (interface : Interface) (next : UInt32) (v : Variable) : Except Unsupported String :=
  match v.semantic with
  | none =>
    if interface = pixelOutput then .error (.outputWithoutSemantic v.name)
    else .ok s!"TEXCOORD{next}"
  | some semantic =>
    if v.isSystemValue then
      let base := v.semanticBase?.getD ""
      match interface.systemValue? base v.semanticIndex with
      | some semantic => .ok semantic
      | none => .error (.systemValue base v.name)
    else .ok semantic

/-- The semantic of a varying with its interpolation; only floats are passed, and only the pixel
shader says that a value is taken at the centroid. -/
def interpolated (interface : Interface) (v : Variable) (semantic : String) :
    Except Unsupported String :=
  if !interface.isVarying || v.isSystemValue then .ok semantic
  else if v.type.base?.any (·.isInteger) then .error (.integerVarying v.name v.type)
  else
    match v.interpolation with
    | .unspecified | .linear => .ok semantic
    | .centroid => .ok (if interface = pixelInput then semantic ++ "_centroid" else semantic)
    | mode => .error (.interpolation mode.name v.name)

/-- The semantic of a variable. -/
def semantic (interface : Interface) (next : UInt32) (v : Variable) : Except Unsupported String :=
  interface.register next v >>= interface.interpolated v

end Interface

/-- How many registers a variable takes. -/
def registers (v : Variable) : UInt32 :=
  match v.type.layoutElements with
  | .ok count => count
  | .error _ => 1

/-- The register after a variable. -/
def Interface.after (interface : Interface) (next : UInt32) (v : Variable) : UInt32 :=
  if interface = .vertexInput || v.semantic.isNone then next + registers v else next

/-- The semantics of variables by name, with `next` the next free register.  A variable that is not
used may have none. -/
def Interface.semanticsFrom (interface : Interface) :
    (next : UInt32) → List Variable → Except Unsupported (List (String × String))
  | _, [] => .ok []
  | next, v :: rest =>
    if interface = .vertexInput && !v.isUsed then interface.semanticsFrom next rest
    else
      match interface.semantic next v with
      | .ok semantic =>
        return (v.name, semantic) :: (← interface.semanticsFrom (interface.after next v) rest)
      | .error what =>
        if v.isUsed then .error what
        else interface.semanticsFrom (interface.after next v) rest

/-- The semantics of the variables of an interface, by name. -/
def Interface.semantics (interface : Interface) (vars : List Variable) :
    Except ShaderError (List (String × String)) :=
  (interface.semanticsFrom 0 vars).mapError (.unsupported .direct3D9)

end CrossShade.Direct3D9
