import CrossShade.CommandLine.Invocation

/-!
# Help texts

What the program tells about itself and its commands.
-/

namespace CrossShade.CommandLine

/-- The name and version of the program. -/
def versionText : String :=
  "prismc 0.1.0\n"

/-- What each command does. -/
def Command.about : Command → String
  | generate => "Print the source generated for a backend"
  | compile => "Generate and compile a shader, writing its bytecode"

/-- The name of a command. -/
def Command.name : Command → String
  | generate => "generate"
  | compile => "compile"

/-- The line about a command's own option. -/
def outputLine : Command → List String
  | .generate => []
  | .compile =>
    ["  -o, --output <OUTPUT>    Bytecode output path " ++
      "(defaults to the description path with a backend extension)"]

/-- The lines about a command. -/
def commandLines (command : Command) : List String :=
  [command.about, "",
    "Usage: prismc " ++ command.name ++ " [OPTIONS] --backend <BACKEND> <FILE>", "",
    "Arguments:", "  <FILE>  Shader description file", "", "Options:",
    "  -b, --backend <BACKEND>  Target backend [possible values: d3d9, d3d11, opengl]"] ++
  outputLine command ++
  ["      --config <CONFIG>    Compiler settings in RON", "  -h, --help               Print help"]

/-- The lines about the program. -/
def programLines : List String :=
  ["Prism shader cross-compiler", "", "Usage: prismc <COMMAND>", "", "Commands:",
    "  generate  " ++ Command.generate.about, "  compile   " ++ Command.compile.about,
    "  help      Print this message or the help of the given subcommand(s)", "", "Options:",
    "  -h, --help     Print help", "  -V, --version  Print version"]

/-- The help about a command or about the program. -/
def helpText (command : Option Command) : String :=
  String.join ((command.elim programLines commandLines).map (· ++ "\n"))

end CrossShade.CommandLine
