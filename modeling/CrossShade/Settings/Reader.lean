import CrossShade.FileFault
import CrossShade.Settings
import CrossShade.Settings.Value

/-!
# Reading settings

A text of settings is a structure with named fields between parentheses, each a setting that differs
from its default.  Settings that are not known are skipped, and none may be given twice.  Before the
structure attributes may switch on extensions, and its name may stand before it.
-/

namespace CrossShade.Settings

namespace Reader

/-- Switches on an extension by its name. -/
def extension (extensions : Extensions) : String → Reader Extensions
  | "implicit_some" => return { extensions with implicitSome := true }
  | "explicit_struct_names" => return { extensions with explicitNames := true }
  | "unwrap_newtypes" => return extensions
  | "unwrap_variant_newtypes" => return { extensions with bareStructures := true }
  | _ => failure

/-- Takes names of extensions between commas, at most `count` of them. -/
def extensionNames : (count : Nat) → Extensions → Reader Extensions
  | 0, _ => failure
  | count + 1, extensions => do
    let extensions ← extension extensions (← identifier)
    if (← comma) && (← remaining).head?.any Text.startsWord then extensionNames count extensions
    else return extensions

/-- Takes parts of a text one after the other, each with blanks behind it. -/
def parts : List String → Reader Unit
  | [] => return ()
  | text :: rest => do
    expect text
    blanks
    parts rest

/-- Takes what stands between the brackets of an attribute: extensions to switch on, or the type or
the schema of the text, which is not looked at. -/
def insideBrackets (extensions : Extensions) : Reader Extensions := do
  if ← word "enable" then
    blanks
    parts ["("]
    let extensions ← extensionNames (← remaining).length extensions
    blanks
    parts [")"]
    return extensions
  else
    check (← anyWord ["type", "schema"])
    blanks
    parts ["="]
    let _ ← quoted
    blanks
    return extensions

/-- Takes all attributes, at most `count` of them. -/
def attributes : (count : Nat) → Extensions → Reader Extensions
  | 0, extensions => return extensions
  | count + 1, extensions => do
    if (← remaining).head? == some '#' then
      parts ["#", "!", "["]
      let extensions ← insideBrackets extensions
      parts ["]"]
      attributes count extensions
    else return extensions

/-- Takes a truth value. -/
def flag : Reader Bool := do
  if ← word "true" then return true
  check (← word "false")
  return false

/-- Takes an option that holds a text. -/
def optionalText (extensions : Extensions) : Reader (Option String) := do
  if ← word "None" then return none
  if ← word "Some" then
    blanks
    if ← take ['('] then
      blanks
      let text ← quoted
      let _ ← comma
      expect ")"
      return some text
  check extensions.implicitSome
  return some (← quoted)

/-- The name of the structure. -/
def structureName : String :=
  "CompilerSettings"

/-- Takes the name of the structure; it may be missing unless names have to be there. -/
def header (extensions : Extensions) : Reader Unit := do
  if (← remaining).head?.any Text.continuesWord then
    check ((← identifier) == structureName)
    blanks
  else check (!extensions.explicitNames)

/-- How deep the value of an unknown setting may nest. -/
def nesting : Nat :=
  126

/-- Takes the value of a setting. -/
def setting (extensions : Extensions) (settings : Settings) : String → Reader Settings
  | "debug_info" => return { settings with debugInfo := ← flag }
  | "warnings_as_errors" => return { settings with warningsAsErrors := ← flag }
  | "fxc_path" => return { settings with fxcPath := ← quoted }
  | "glsl_version" => return { settings with glslVersion := ← uint32 }
  | "dump_dir" => return { settings with dumpDir := ← optionalText extensions }
  | _ => do
    skip extensions nesting false
    return settings

/-- The names of the settings. -/
def names : List String :=
  ["debug_info", "warnings_as_errors", "fxc_path", "glsl_version", "dump_dir"]

/-- Takes settings up to the closing parenthesis, at most `count` of them; `given` are the names of
those that cannot be given again. -/
def fields (extensions : Extensions) :
    (count : Nat) → (comma : Bool) → (given : List String) → Settings → Reader Settings
  | 0, _, _, _ => failure
  | count + 1, hadComma, given, settings => do
    blanks
    if ← take [')'] then return settings
    check hadComma
    let name ← identifier
    check (!given.contains name)
    blanks
    expect ":"
    blanks
    let settings ← setting extensions settings name
    let given := if names.contains name then name :: given else given
    fields extensions count (← comma) given settings

/-- Takes a whole text of settings. -/
def document : Reader Settings := do
  blanks
  let extensions ← attributes (← remaining).length {}
  header extensions
  blanks
  expect "("
  let settings ← fields extensions ((← remaining).length + 1) true [] {}
  blanks
  check (← remaining).isEmpty
  return settings

end Reader

/-- The settings that a text gives. -/
def read? (text : String) : Option Settings :=
  (Reader.document.run text.toList).map (·.1)

/-- Why settings cannot be loaded. -/
inductive Fault where
  /-- The file cannot be read. -/
  | file (fault : FileFault)
  /-- The file holds no settings. -/
  | format
  deriving Repr, DecidableEq

/-- The report of a fault. -/
def Fault.message : Fault → String
  | file fault => s!"Failed to read compiler settings: {fault.message}"
  | format => "Invalid compiler settings"

/-- The settings in a file. -/
def load (content : Except FileFault (List UInt8)) : Except Fault Settings := do
  let text ← (fileText content).mapError .file
  match read? text with
  | none => .error .format
  | some settings => .ok settings

end CrossShade.Settings
