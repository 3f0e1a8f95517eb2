import CrossShade.Keyword
import CrossShade.ValueType.Reader

/-!
# Sections of a description

A description of a shader is a text of sections.  A section begins with a line that starts with a
percent sign and its name, and says how the lines up to the next such line are read.
-/

namespace CrossShade

/-- The lists that lines of variables go to. -/
inductive VariableGroup where
  | input
  | output
  | inputExtra
  | inputPatch
  | outputPatch
  | stream
  deriving Repr, DecidableEq

/-- The blocks that lines of code go to. -/
inductive CodeBlock where
  | global
  | patch
  | main
  deriving Repr, DecidableEq

/-- How a line is read.  Before the first section there is nothing to read. -/
inductive Section where
  | preamble
  | properties
  | interface (group : VariableGroup)
  | uniformBuffers
  | samplers
  | readViews
  | writeViews
  | structures
  | fixedSampling
  | code (block : CodeBlock)
  deriving Repr, DecidableEq

namespace Section

/-- The sections by name. -/
def names : List (String × Section) :=
  [("meta", properties), ("input", interface .input), ("output", interface .output),
    ("input_extra", interface .inputExtra), ("input_patch", interface .inputPatch),
    ("output_patch", interface .outputPatch), ("output_stream", interface .stream),
    ("ubuffers", uniformBuffers), ("samplers", samplers), ("srvs", readViews),
    ("uavs", writeViews), ("structures", structures), ("fixed_sampling", fixedSampling),
    ("code_global", code .global), ("code_patch", code .patch), ("code_main", code .main)]

/-- The section with a name. -/
def ofName? (name : List Char) : Option Section :=
  names.lookup (String.ofList name)

/-- Whether the lines of a section are kept as they are. -/
def isCode : Section → Bool
  | code _ => true
  | _ => false

end Section

/-- What is wrong with a line of a description, or with the whole of it. -/
inductive LineFault where
  | beforeFirstSection
  | unknownSection (name : String)
  | sectionArgument (name : String)
  | streamWithoutName
  | noProperty (line : String)
  | emptyKey
  | keyTwice (key : String)
  | type (fault : ValueType.SpellingFault)
  | noIdentifier (text : String)
  | noSlot (text : String)
  | noBinding (text : String)
  | noField (line : String)
  | fieldOutsideBuffer (line : String)
  | fieldOutsideStructure (line : String)
  | noSampler (line : String)
  | noVariable (line : String)
  | emptySemantic (line : String)
  | noSemantic (text : String)
  | noView (line : String)
  | unterminatedElement (line : String)
  | viewWithoutName (line : String)
  | keyword (fault : UnknownKeyword)
  | noFixedSampling (line : String)
  | missingName
  | missingStage (profile : String)
  deriving Repr, DecidableEq

/-- The report of a fault. -/
def LineFault.message : LineFault → String
  | beforeFirstSection => "content before the first section"
  | unknownSection name => s!"unknown section '%{name}'"
  | sectionArgument name => s!"section '%{name}' takes no argument"
  | streamWithoutName => "%output_stream requires a stream name"
  | noProperty line => s!"expected 'Key = Value', found '{line}'"
  | emptyKey => "empty metadata key"
  | keyTwice key => s!"metadata '{key}' is set twice"
  | type fault => fault.message
  | noIdentifier text => s!"invalid identifier '{text}'"
  | noSlot text => s!"invalid slot '{text}'"
  | noBinding text => s!"expected '<Name> : <slot>', found '{text}'"
  | noField line => s!"expected '<type> <name>', found '{line}'"
  | fieldOutsideBuffer line => s!"member '{line}' outside of a ubuffer"
  | fieldOutsideStructure line => s!"member '{line}' outside of a struct"
  | noSampler line => s!"expected '[comparison] sampler <Name> : <slot>', found '{line}'"
  | noVariable line =>
    s!"expected '[unused] [interpolation] <type> <name> [: <semantic>]', found '{line}'"
  | emptySemantic line => s!"empty semantic in '{line}'"
  | noSemantic text => s!"invalid semantic '{text}'"
  | noView line => s!"expected '<Kind>[<elem>] <Name> : <slot>', found '{line}'"
  | unterminatedElement line => s!"unterminated element type in '{line}'"
  | viewWithoutName line => s!"missing view name in '{line}'"
  | keyword fault => fault.message
  | noFixedSampling line => s!"expected '<Srv> : <Sampler>', found '{line}'"
  | missingName => "missing 'Name' in %meta"
  | missingStage profile =>
    s!"missing 'Stage' in %meta and profile '{profile}' does not imply one"

end CrossShade
