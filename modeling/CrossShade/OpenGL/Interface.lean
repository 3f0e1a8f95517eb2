import CrossShade.OpenGL.Resources

/-!
# GLSL stage interfaces

Inputs and outputs are globals, or built-in variables for system values, and are copied from and to
the structures that code works with.  Every global has a location.  Vertex inputs are counted like
the elements of a vertex layout; between stages every variable counts, used or not, so that both
sides of a boundary agree; a pixel output has the number of its target.
-/

namespace CrossShade.OpenGL

/-- The local that holds the inputs. -/
def inputLocal : String :=
  "stage_input"

/-- The local that holds the outputs. -/
def outputLocal : String :=
  "stage_output"

/-- The built-in variable behind a system value input. -/
def builtinInput? : Stage → (base : String) → Option String
  | .vertex, "SV_VERTEXID" => some "gl_VertexIndex"
  | .vertex, "SV_INSTANCEID" => some "gl_InstanceIndex"
  | .pixel, "SV_POSITION" => some "gl_FragCoord"
  | .pixel, "SV_ISFRONTFACE" => some "gl_FrontFacing"
  | .pixel, "SV_PRIMITIVEID" => some "gl_PrimitiveID"
  | .compute, "SV_DISPATCHTHREADID" => some "gl_GlobalInvocationID"
  | .compute, "SV_GROUPTHREADID" => some "gl_LocalInvocationID"
  | .compute, "SV_GROUPID" => some "gl_WorkGroupID"
  | .compute, "SV_GROUPINDEX" => some "gl_LocalInvocationIndex"
  | _, _ => none

/-- The built-in variable behind a system value output. -/
def builtinOutput? : Stage → (base : String) → Option String
  | .vertex, "SV_POSITION" => some "gl_Position"
  | .pixel, "SV_DEPTH" => some "gl_FragDepth"
  | _, _ => none

/-- The qualifier for the interpolation of a varying; whole numbers are never interpolated. -/
def interpolationQualifier? (v : Variable) : Option String :=
  if v.type.base?.any (·.isInteger) then some "flat"
  else
    match v.interpolation with
    | .unspecified => none
    | .linear => some "smooth"
    | .centroid => some "centroid"
    | .noInterpolation => some "flat"
    | .noPerspective => some "noperspective"
    | .sample => some "sample"

/-- The side of a stage on which an interface lies. -/
inductive Side where
  | input
  | output
  deriving Repr, DecidableEq

/-- How many locations a variable takes. -/
def locationCount (v : Variable) : UInt32 :=
  match v.type.layoutElements with
  | .ok count => count
  | .error _ => 1

/-- Whether a variable that is no pixel output has a location. -/
def isLocated (stage : Stage) (side : Side) (v : Variable) : Bool :=
  !v.isSystemValue && !(stage = .vertex && side = .input && !v.isUsed)

/-- The locations of variables that are counted, with `next` the next free one. -/
def countedLocations (stage : Stage) (side : Side) :
    (next : UInt32) → List Variable → List (Option UInt32)
  | _, [] => []
  | next, v :: rest =>
    if isLocated stage side v then
      some next :: countedLocations stage side (next + locationCount v) rest
    else none :: countedLocations stage side next rest

/-- The location of a pixel output. -/
def targetLocation? (v : Variable) : Option UInt32 :=
  if v.semanticBase? = some "SV_TARGET" then some v.semanticIndex else none

/-- The location of every variable of an interface that has one. -/
def locations (stage : Stage) (side : Side) (vars : List Variable) : List (Option UInt32) :=
  if stage = .pixel && side = .output then vars.map targetLocation?
  else countedLocations stage side 0 vars

/-- How a variable reaches the code or leaves it: its global, if it is not built in, and the line
that copies it. -/
structure Transfer where
  global? : Option Source.Declaration
  copy : String
  deriving Repr, DecidableEq

/-- The global of a variable. -/
def declareGlobal (shader : Shader) (v : Variable) (type name : String) (location : UInt32)
    (isVarying : Bool) (direction : String) : Except ShaderError Source.Declaration := do
  let length ← shader.fault (memberLength v.name v.type none)
  let interpolation := if isVarying then (interpolationQualifier? v).toList else []
  return {
    qualifiers := s!"layout(location = {location})" :: interpolation ++ [direction]
    type, name, length := length.length? }

/-- The transfer of an input. -/
def receive (shader : Shader) (v : Variable) (location : Option UInt32) :
    Except ShaderError Transfer := do
  let stage := shader.stage
  let type ← typeName v.type
  let base := v.semanticBase?.getD ""
  if v.isSystemValue then
    match builtinInput? stage base with
    | none => refuse (.builtinInput base v.name stage)
    | some builtin => return ⟨none, s!"    {inputLocal}.{v.name} = {type}({builtin});"⟩
  else
    match location.filter fun _ => stage ≠ .compute with
    | none => refuse (.stageInput v.name stage)
    | some location =>
      let name := s!"in_{v.name}"
      let declared ← declareGlobal shader v type name location (stage = .pixel) "in"
      return ⟨declared, s!"    {inputLocal}.{v.name} = {name};"⟩

/-- The transfer of an output. -/
def pass (shader : Shader) (v : Variable) (location : Option UInt32) :
    Except ShaderError Transfer := do
  let stage := shader.stage
  let type ← typeName v.type
  match builtinOutput? stage (v.semanticBase?.getD "") with
  | some builtin => return ⟨none, s!"    {builtin} = {outputLocal}.{v.name};"⟩
  | none =>
    match location.filter fun _ => stage ≠ .compute with
    | none => refuse (.stageOutput v.name v.semantic stage)
    | some location =>
      let name := s!"out_{v.name}"
      let declared ← declareGlobal shader v type name location (stage = .vertex) "out"
      return ⟨declared, s!"    {name} = {outputLocal}.{v.name};"⟩

/-- The transfers of the used variables on one side. -/
def transfers (transfer : Variable → Option UInt32 → Except ShaderError Transfer) (stage : Stage)
    (side : Side) (vars : List Variable) : Except ShaderError (List Transfer) :=
  ((vars.zip (locations stage side vars)).filter (·.1.isUsed)).mapM
    fun (v, location) => transfer v location

/-- Declares a variable in an interface structure. -/
def declareVariable (v : Variable) (length : MemberLength) :
    Except ShaderError Source.Declaration :=
  return { type := ← typeName v.type, name := v.name, length := length.length? }

/-- Everything that passes the interface of a stage. -/
structure StageInterface where
  input : Option InterfaceStruct
  output : Option InterfaceStruct
  received : List Transfer
  passed : List Transfer
  deriving Repr, DecidableEq

/-- The interface of the stage of a shader. -/
def stageInterface (shader : Shader) : Except ShaderError StageInterface := do
  let input ← interfaceStruct shader "Input" none declareVariable shader.input
  let output ← interfaceStruct shader "Output" none declareVariable shader.output
  let received ← transfers (receive shader) shader.stage .input shader.input
  let passed ← transfers (pass shader) shader.stage .output shader.output
  return ⟨input, output, received, passed⟩

namespace StageInterface

/-- The structures and globals of an interface. -/
def items (interface : StageInterface) : List Source.Item :=
  InterfaceStruct.items interface.input ++ InterfaceStruct.items interface.output ++
    ((interface.received ++ interface.passed).filterMap (·.global?)).map .global ++ [.blank]

/-- The body of the entry point: inputs are copied in, code runs, and outputs are copied out. -/
def body (interface : StageInterface) (code : List String) : List String :=
  let local_ (s : Option InterfaceStruct) (name : String) : List String :=
    match s with
    | none => []
    | some s => [s!"    {s.name} {name};"]
  local_ interface.input inputLocal ++ interface.received.map (·.copy) ++
    local_ interface.output outputLocal ++ code ++ interface.passed.map (·.copy)

end StageInterface

end CrossShade.OpenGL
