import CrossShade.Target

/-!
# Invocations

What the arguments of the program ask for.  An option may stand anywhere after the command, with its
value in the next argument or attached to it, and may be given once; two dashes end the options.
-/

namespace CrossShade.CommandLine

/-- What the program can do with a shader. -/
inductive Command where
  | generate
  | compile
  deriving Repr, DecidableEq

/-- What both commands need: a target, a description and maybe settings, the last two by file. -/
structure Job where
  target : Target
  file : String
  config : Option String
  deriving Repr, DecidableEq

/-- What the arguments ask for. -/
inductive Invocation where
  | generate (job : Job)
  | compile (job : Job) (output : Option String)
  | help (command : Option Command)
  | version
  deriving Repr, DecidableEq

/-- What ends the reading of arguments early. -/
inductive Stop where
  | usage
  | help
  deriving Repr, DecidableEq

/-- An option that has a value. -/
inductive Opt where
  | backend
  | config
  | output
  deriving Repr, DecidableEq

/-- The options of a command with their long names. -/
def longNames : Command → List (String × Opt)
  | .generate => [("backend", .backend), ("config", .config)]
  | .compile => [("backend", .backend), ("config", .config), ("output", .output)]

/-- The options of a command that have a letter. -/
def letters : Command → List (Char × Opt)
  | .generate => [('b', .backend)]
  | .compile => [('b', .backend), ('o', .output)]

/-- The targets by name. -/
def targetNames : List (String × Target) :=
  [("d3d9", .direct3D9), ("d3d11", .direct3D11), ("opengl", .openGL)]

/-- What one argument is. -/
inductive Argument where
  /-- A value without an option. -/
  | operand
  /-- The end of the options. -/
  | separator
  | help
  | unknown
  /-- An option with its value in the next argument. -/
  | bare (opt : Opt)
  /-- An option with its value attached. -/
  | attached (opt : Opt) (value : String)
  deriving Repr, DecidableEq

/-- What an argument after two dashes is. -/
def classifyLong (command : Command) (text : List Char) : Argument :=
  let name := String.ofList (text.takeWhile (· ≠ '='))
  match (longNames command).lookup name, text.dropWhile (· ≠ '=') with
  | some opt, [] => .bare opt
  | some opt, _ :: value => .attached opt (String.ofList value)
  | none, [] => if name == "help" then .help else .unknown
  | none, _ => .unknown

/-- What an argument after one dash is; an equals sign may stand before an attached value. -/
def classifyShort (command : Command) (letter : Char) (rest : List Char) : Argument :=
  match (letters command).lookup letter, rest with
  | some opt, [] => .bare opt
  | some opt, '=' :: value => .attached opt (String.ofList value)
  | some opt, value => .attached opt (String.ofList value)
  | none, _ => if letter == 'h' then .help else .unknown

/-- What an argument is while options may come. -/
def classify (command : Command) (text : String) : Argument :=
  match text.toList with
  | ['-', '-'] => .separator
  | '-' :: '-' :: rest => classifyLong command rest
  | '-' :: letter :: rest => classifyShort command letter rest
  | _ => .operand

/-- What was read so far. -/
structure Draft where
  target : Option Target := none
  file : Option String := none
  config : Option String := none
  output : Option String := none
  deriving Repr, DecidableEq

namespace Draft

/-- A value that may be given once and is not empty. -/
def once (present : Option String) (value : String) : Except Stop (Option String) :=
  if present.isSome || value.isEmpty then .error .usage else .ok (some value)

/-- Takes the value of an option. -/
def set (draft : Draft) (value : String) : Opt → Except Stop Draft
  | .backend =>
    match draft.target, targetNames.lookup value with
    | none, some target => .ok { draft with target }
    | _, _ => .error .usage
  | .config => return { draft with config := ← once draft.config value }
  | .output => return { draft with output := ← once draft.output value }

/-- Takes a value without an option. -/
def setFile (draft : Draft) (value : String) : Except Stop Draft :=
  return { draft with file := ← once draft.file value }

/-- Takes all arguments; `ended` says that the options have ended. -/
def read (command : Command) : (ended : Bool) → List String → Draft → Except Stop Draft
  | _, [], draft => .ok draft
  | ended, text :: rest, draft =>
    match if ended then .operand else classify command text with
    | .operand => do read command ended rest (← draft.setFile text)
    | .separator => read command true rest draft
    | .help => .error .help
    | .unknown => .error .usage
    | .attached opt value => do read command ended rest (← draft.set value opt)
    | .bare opt =>
      match rest with
      | [] => .error .usage
      | value :: rest =>
        if classify command value = .operand then do
          read command ended rest (← draft.set value opt)
        else .error .usage

end Draft

/-- What the arguments of a command ask for. -/
def readCommand (command : Command) (arguments : List String) : Option Invocation :=
  match Draft.read command false arguments {} with
  | .error .help => some (.help command)
  | .error .usage => none
  | .ok draft =>
    match draft.target, draft.file with
    | some target, some file =>
      let job : Job := ⟨target, file, draft.config⟩
      match command with
      | .generate => some (.generate job)
      | .compile => some (.compile job draft.output)
    | _, _ => none

/-- The commands by name. -/
def commandNames : List (String × Command) :=
  [("generate", .generate), ("compile", .compile)]

/-- What arguments ask for, if they are in order. -/
def Invocation.read? : List String → Option Invocation
  | [] => none
  | ["help"] => some (.help none)
  | ["help", topic] => (commandNames.lookup topic).map fun command => .help (some command)
  | "--help" :: _ => some (.help none)
  | "--version" :: _ => some .version
  | first :: rest =>
    match commandNames.lookup first, first.toList with
    | some command, _ => readCommand command rest
    | none, '-' :: 'h' :: _ => some (.help none)
    | none, '-' :: 'V' :: _ => some .version
    | none, _ => none

end CrossShade.CommandLine
