import CrossShade.Primitive
import CrossShade.ResourceKind
import CrossShade.Stage
import CrossShade.UniformBuffer
import CrossShade.Variable

/-!
# Shaders

A shader as it is described, apart from any target: its stage, its interface, its resources and its
code.  Properties are kept sorted by key, everything else in the order in which it is declared.
-/

namespace CrossShade

/-- Properties of a shader: keys with values, sorted by key, each key once. -/
abbrev Properties := List (String × String)

namespace Properties

/-- The value of a key. -/
def get? (properties : Properties) (key : String) : Option String :=
  List.lookup key properties

/-- Sets the value of a key. -/
def set : Properties → String → String → Properties
  | [], key, value => [(key, value)]
  | (k, v) :: rest, key, value =>
    if key < k then (key, value) :: (k, v) :: rest
    else if key = k then (key, value) :: rest
    else (k, v) :: set rest key value

/-- Removes a key. -/
def erase (properties : Properties) (key : String) : Properties :=
  properties.filter (·.1 ≠ key)

@[simp] theorem get?_nil (key : String) : get? [] key = none := rfl

theorem get?_set_self (properties : Properties) (key value : String) :
    (properties.set key value).get? key = some value := by
  induction properties with
  | nil => simp [set, get?]
  | cons row rest ih =>
    obtain ⟨k, v⟩ := row
    unfold set
    split
    · simp [get?]
    · split
      · simp [get?]
      · rename_i different
        have unequal : (key == k) = false := by simpa using different
        simpa [get?, List.lookup_cons, unequal] using ih

end Properties

/-- A sampler, bound to a slot. -/
structure SamplerBinding where
  name : String
  slot : UInt32
  comparison : Bool
  deriving Repr, DecidableEq

/-- A view of a resource, bound to a slot. -/
structure ViewBinding where
  name : String
  slot : UInt32
  kind : ResourceKind
  element : ValueType
  deriving Repr, DecidableEq

/-- A view that is always sampled with one sampler. -/
structure FixedSampling where
  view : String
  sampler : String
  deriving Repr, DecidableEq

/-- One of several streams that a geometry shader writes. -/
structure OutputStream where
  name : String
  outputs : List Variable
  deriving Repr, DecidableEq

/-- A shader apart from any target. -/
structure Shader where
  name : String
  stage : Stage
  profile : String := ""
  properties : Properties := []
  input : List Variable := []
  output : List Variable := []
  inputExtra : List Variable := []
  inputPatch : List Variable := []
  outputPatch : List Variable := []
  streams : List OutputStream := []
  uniformBuffers : List UniformBuffer := []
  samplers : List SamplerBinding := []
  readViews : List ViewBinding := []
  writeViews : List ViewBinding := []
  structures : List Structure := []
  fixedSampling : List FixedSampling := []
  globalCode : List String := []
  patchCode : List String := []
  mainCode : List String := []
  deriving Repr, DecidableEq

namespace Shader

/-- The structure with a name. -/
def structure? (shader : Shader) (name : String) : Option Structure :=
  shader.structures.find? (·.name == name)

/-- The slot of a uniform buffer. -/
def uniformBufferSlot? (shader : Shader) (name : String) : Option UInt32 :=
  (shader.uniformBuffers.find? (·.name == name)).map (·.slot)

/-- The slot of a sampler. -/
def samplerSlot? (shader : Shader) (name : String) : Option UInt32 :=
  (shader.samplers.find? (·.name == name)).map (·.slot)

/-- The view with a name among those that are read. -/
def readView? (shader : Shader) (name : String) : Option ViewBinding :=
  shader.readViews.find? (·.name == name)

/-- The slot of a view that is read. -/
def readViewSlot? (shader : Shader) (name : String) : Option UInt32 :=
  (shader.readView? name).map (·.slot)

/-- The slot of a view that is written. -/
def writeViewSlot? (shader : Shader) (name : String) : Option UInt32 :=
  (shader.writeViews.find? (·.name == name)).map (·.slot)

/-- The sampler with which a view is always sampled. -/
def fixedSampler? (shader : Shader) (view : String) : Option SamplerBinding := do
  let pair ← shader.fixedSampling.find? (·.view == view)
  shader.samplers.find? (·.name == pair.sampler)

end Shader

end CrossShade
