import CrossShade.Source.Interface

/-!
# HLSL

What the source texts of both Direct3D targets have in common.
-/

namespace CrossShade.Hlsl

/-- Declares a value; only a length that is a number is written. -/
def declare (type : ValueType) (name : String) (boundTo : Option String) : Source.Declaration :=
  { type := type.hlsl, name, length := type.fixedLength?, boundTo }

/-- The structures a shader declares. -/
def structures (shader : Shader) : List Source.Item :=
  shader.structures.flatMap fun s =>
    [.struct s.name (s.members.map fun m => declare m.type m.name none), .blank]

/-- A local of a type that is set to zero. -/
def zeroed (type name : String) : String :=
  s!"    {type} {name} = ({type})0;"

/-- The body of a function that fills a local, given by type and name, and returns it. -/
def returningBody (output : Option (String × String)) (code : List String) : List String :=
  match output with
  | none => code
  | some (type, name) => zeroed type name :: code ++ [s!"    return {name};"]

/-- The entry point, which returns the output structure if there is one. -/
def entryPoint (attributes : List String) (output : Option InterfaceStruct)
    (parameters code : List String) : Source.Item :=
  let output := output.map (·.name)
  .function {
    attributes, parameters
    returns := output.getD "void"
    name := "main"
    body := returningBody (output.map (·, "output")) code }

/-- The macros by which code names the members of the single input and output. -/
def interfaceMacros : List Source.Item :=
  [Source.macroOf "INPUT" ["x"] "input.x", Source.macroOf "OUTPUT" ["x"] "output.x", .blank]

/-- The parameter for a structure, if there is one. -/
def parameter (s : Option InterfaceStruct) (name : String) : List String :=
  match s with
  | none => []
  | some s => [s!"{s.name} {name}"]

end CrossShade.Hlsl
