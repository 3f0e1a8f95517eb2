import CrossShade.Settings
import CrossShade.Text.Quoted

/-!
# Writing settings

All settings as a text: a line each, between parentheses, in a fixed order.
-/

namespace CrossShade.Settings

/-- The settings as a text. -/
def text (settings : Settings) : String :=
  let option (value : Option String) : String :=
    match value with
    | none => "None"
    | some text => "Some(" ++ Text.quotedStrictly text ++ ")"
  let fields := [
    ("debug_info", toString settings.debugInfo),
    ("warnings_as_errors", toString settings.warningsAsErrors),
    ("fxc_path", Text.quotedStrictly settings.fxcPath),
    ("glsl_version", toString settings.glslVersion),
    ("dump_dir", option settings.dumpDir)]
  "(\n" ++ String.join (fields.map fun (name, value) => s!"  {name}: {value},\n") ++ ")"

end CrossShade.Settings
