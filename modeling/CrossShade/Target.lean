import CrossShade.Stage
import CrossShade.Text.Quoted
import CrossShade.ValueType

/-!
# Targets

The graphics interfaces that shaders are written for, and what one of them may be unable to express.
-/

namespace CrossShade

/-- A graphics interface. -/
inductive Target where
  | direct3D9
  | direct3D11
  | openGL
  deriving Repr, DecidableEq

/-- The name of a target. -/
def Target.name : Target → String
  | direct3D9 => "Direct3D9"
  | direct3D11 => "Direct3D11"
  | openGL => "OpenGL"

instance : ToString Target := ⟨Target.name⟩

/-- Something that a target cannot express. -/
inductive Unsupported where
  /-- A value of an enumeration, by name. -/
  | value (name : String)
  /-- A vertex format that cannot feed an input of its scalar type. -/
  | feeding (format scalar input : String)
  /-- A view that is written, where none can be. -/
  | writeView (view : String)
  /-- A view that is written in a stage that writes none. -/
  | writeViewInStage (view : String) (stage : Stage)
  /-- A write view that a context binds, where none can be bound. -/
  | writeViewSlot (stage : Stage) (slot : Nat)
  /-- A view of a kind that cannot be declared. -/
  | viewKind (kind view : String)
  /-- A write view of a kind that cannot be declared. -/
  | writeViewKind (kind view : String)
  /-- A write view whose elements have no image format. -/
  | imageElement (element : ValueType) (view : String)
  /-- A view that is sampled although its kind cannot be. -/
  | sampledKind (kind view : String)
  /-- A pixel output that says neither color nor depth. -/
  | outputWithoutSemantic (var : String)
  /-- A system value that the interface does not have. -/
  | systemValue (base var : String)
  /-- A whole number passed between stages. -/
  | integerVarying (var : String) (type : ValueType)
  /-- An interpolation mode without an equivalent. -/
  | interpolation (mode var : String)
  /-- A variable to which no semantic was given. -/
  | noSemantic (var : String)
  /-- A vertex input semantic without a declaration usage. -/
  | vertexSemantic (base var : String)
  /-- A usage index beyond what a declaration can address. -/
  | usageIndex (index : UInt32) (var : String)
  /-- A number of a vertex element that does not fit its field. -/
  | tooWide (field : String) (amount : UInt32) (var : String)
  /-- A type without a spelling. -/
  | spelling (fault : ValueType.Fault)
  /-- A uniform member that begins before the one before it ends. -/
  | overlap (member buffer : String)
  /-- A uniform member of a type that a block cannot hold. -/
  | blockMember (member buffer : String) (fault : ValueType.Fault)
  /-- A system value input without a built-in variable. -/
  | builtinInput (base var : String) (stage : Stage)
  /-- An input in a stage that has no inputs of its own. -/
  | stageInput (var : String) (stage : Stage)
  /-- An output in a stage that cannot pass it on. -/
  | stageOutput (var : String) (semantic : Option String) (stage : Stage)
  deriving Repr, DecidableEq

namespace Unsupported

/-- What is not supported, in words. -/
def text : Unsupported → String
  | value name => name
  | feeding format scalar input => s!"{format} feeding {scalar} input '{input}'"
  | writeView view => s!"read-write view '{view}'"
  | writeViewInStage view stage => s!"read-write view '{view}' in a {stage} shader"
  | writeViewSlot stage slot => s!"read-write view in {stage} slot {slot}"
  | viewKind kind view => s!"{kind} view '{view}'"
  | writeViewKind kind view => s!"{kind} read-write view '{view}'"
  | imageElement element view => s!"{element} elements in read-write view '{view}'"
  | sampledKind kind view => s!"sampling {kind} view '{view}'"
  | outputWithoutSemantic var =>
    s!"pixel output '{var}' without a SV_Target or SV_Depth semantic"
  | systemValue base var => s!"system value {base} on '{var}'"
  | integerVarying var type => s!"integer varying '{var}' of type {type}"
  | interpolation mode var => s!"{mode} interpolation on '{var}'"
  | noSemantic var => s!"no shader model 3 semantic for '{var}'"
  | vertexSemantic base var => s!"vertex input semantic {base} on '{var}'"
  | usageIndex index var => s!"usage index {index} on '{var}'"
  | tooWide field amount var => s!"{field} {amount} for '{var}'"
  | spelling fault => fault.message
  | overlap member buffer => s!"'{member}' overlaps the std140 layout of '{buffer}'"
  | blockMember member buffer fault => s!"'{member}' in '{buffer}': {fault.message}"
  | builtinInput base var stage => s!"{base} input '{var}' in a {stage} shader"
  | stageInput var stage => s!"user input '{var}' in a {stage} shader"
  | stageOutput var semantic stage =>
    let told := semantic.getD "no semantic"
    s!"output '{var}' ({told}) in a {stage} shader"

/-- What is not supported, as a message shows it: the name of a value stands bare, a description in
words between quotation marks. -/
def shown (what : Unsupported) : String :=
  match what with
  | value _ | feeding _ _ _ => what.text
  | _ => Text.quoted what.text

/-- Whether the program is there to tell of what is not supported. -/
def isTold : Unsupported → Bool
  | spelling fault | blockMember _ _ fault => fault.isTold
  | _ => true

end Unsupported

end CrossShade
