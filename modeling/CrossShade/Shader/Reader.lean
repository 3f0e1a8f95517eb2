import CrossShade.Shader.Builder

/-!
# Reading descriptions

A description is read line by line.  What a line means depends on the section it stands in and on
what was read before it, so the reader is a fold of `Reading.step` over the lines; the first line
that cannot be read stops it.  The properties `Name`, `Profile` and `Stage` are taken out when all
lines are read, uniform buffers are packed, and the shader is validated.

Outside code a number sign begins a comment, except in the line that opens a section.  Inside code a
percent sign opens a section only if a section has the name that follows.
-/

namespace CrossShade

/-- A uniform buffer whose members have no offsets yet. -/
structure BufferDraft where
  name : String
  slot : UInt32
  members : List Field
  deriving Repr, DecidableEq

/-- What has been read of a description. -/
structure Description where
  properties : Properties := []
  input : List Variable := []
  output : List Variable := []
  inputExtra : List Variable := []
  inputPatch : List Variable := []
  outputPatch : List Variable := []
  streams : List OutputStream := []
  uniformBuffers : List BufferDraft := []
  samplers : List SamplerBinding := []
  readViews : List ViewBinding := []
  writeViews : List ViewBinding := []
  structures : List Structure := []
  fixedSampling : List FixedSampling := []
  globalCode : List String := []
  patchCode : List String := []
  mainCode : List String := []
  deriving Repr, DecidableEq

/-- Changes the last element of a list; an empty list has none. -/
def changeLast? {α : Type} (change : α → α) : List α → Option (List α)
  | [] => none
  | [last] => some [change last]
  | x :: rest => (changeLast? change rest).map (x :: ·)

namespace Description

/-- Reads an identifier. -/
def readIdentifier (text : List Char) : Except LineFault String :=
  if Text.isIdentifier text then .ok (String.ofList text)
  else .error (.noIdentifier (String.ofList text))

/-- Reads a slot. -/
def readSlot (text : List Char) : Except LineFault UInt32 :=
  match Text.readUInt32? (Text.trim text) with
  | some slot => .ok slot
  | none => .error (.noSlot (String.ofList (Text.trim text)))

/-- Reads a name and a slot on the two sides of a colon. -/
def readNamedSlot (text : List Char) : Except LineFault (String × UInt32) :=
  match Text.cutAt? ':' text with
  | none => .error (.noBinding (String.ofList text))
  | some (name, slot) => return (← readIdentifier (Text.trim name), ← readSlot slot)

/-- Reads a type. -/
def readType (text : List Char) : Except LineFault ValueType :=
  (ValueType.read text).mapError .type

/-- Reads a type and a name. -/
def readField (line : List Char) : Except LineFault Field :=
  match Text.words line with
  | [type, name] => return ⟨← readType type, ← readIdentifier name⟩
  | _ => .error (.noField (String.ofList line))

/-- The word that marks a variable as unused is dropped from the front. -/
def dropUnused : List (List Char) → Bool × List (List Char)
  | [] => (true, [])
  | word :: rest => if word = "unused".toList then (false, rest) else (true, word :: rest)

/-- An interpolation mode is dropped from the front of three words or more. -/
def dropInterpolation (words : List (List Char)) : Interpolation × List (List Char) :=
  match words with
  | word :: a :: b :: rest =>
    match Interpolation.read (String.ofList word) with
    | .ok mode => (mode, a :: b :: rest)
    | .error _ => (.unspecified, words)
  | _ => (.unspecified, words)

/-- The tessellation factors that a semantic stands for. -/
def factorsOf? (semantic : List Char) : Option ArraySize :=
  if Text.sameLetters semantic "SV_TessFactor".toList then some .outerFactors
  else if Text.sameLetters semantic "SV_InsideTessFactor".toList then some .innerFactors
  else none

/-- A single float whose semantic stands for tessellation factors is an array of them. -/
def withFactors (type : ValueType) (semantic : List Char) : ValueType :=
  match factorsOf? semantic with
  | some size => if type = .scalar .float then .array type size else type
  | none => type

/-- Checks a semantic, which is an identifier. -/
def checkSemantic (line semantic : List Char) : Except LineFault Unit :=
  if semantic.isEmpty then .error (.emptySemantic (String.ofList line))
  else if Text.isIdentifier semantic then .ok ()
  else .error (.noSemantic (String.ofList semantic))

/-- Reads a variable: its marks, its type, its name and, after a colon, its semantic. -/
def readVariable (line : List Char) : Except LineFault Variable :=
  let declaration := ((Text.cutAt? ':' line).map (·.1)).getD line
  let semantic := (Text.cutAt? ':' line).map fun parts => Text.trim parts.2
  let (isUsed, words) := dropUnused (Text.words declaration)
  let (interpolation, words) := dropInterpolation words
  match words with
  | [type, name] => do
    let type ← readType type
    match semantic with
    | none => return ⟨type, ← readIdentifier name, none, interpolation, isUsed⟩
    | some semantic => do
      checkSemantic line semantic
      return ⟨withFactors type semantic, ← readIdentifier name, some (String.ofList semantic),
        interpolation, isUsed⟩
  | _ => .error (.noVariable (String.ofList line))

/-- Reads a sampler, which may be marked as one that compares. -/
def readSampler (line : List Char) : Except LineFault SamplerBinding :=
  let (comparison, rest) :=
    match Text.afterStart? "comparison ".toList line with
    | some rest => (true, Text.trimStart rest)
    | none => (false, line)
  match Text.afterStart? "sampler ".toList rest with
  | none => .error (.noSampler (String.ofList line))
  | some declaration => do
    let (name, slot) ← readNamedSlot declaration
    return ⟨name, slot, comparison⟩

/-- Reads what stands before the colon of a view: its kind, its elements and its name.  Elements
that are not given are four floats. -/
def readViewHead (line declaration : List Char) :
    Except LineFault (List Char × ValueType × List Char) :=
  match Text.cutAt? '<' declaration with
  | some (kind, rest) =>
    match Text.cutAt? '>' rest with
    | none => .error (.unterminatedElement (String.ofList line))
    | some (element, name) => return (kind, ← readType element, Text.trim name)
  | none =>
    match Text.cutWhere? Text.isBlank declaration with
    | none => .error (.viewWithoutName (String.ofList line))
    | some (kind, name) => .ok (kind, .float4, Text.trim name)

/-- Reads a view. -/
def readView (line : List Char) : Except LineFault ViewBinding :=
  match Text.cutAt? ':' line with
  | none => .error (.noView (String.ofList line))
  | some (declaration, slot) => do
    let (kind, element, name) ← readViewHead line (Text.trim declaration)
    let kind ← (ResourceKind.read (String.ofList (Text.trim kind))).mapError .keyword
    return ⟨← readIdentifier name, ← readSlot slot, kind, element⟩

/-- Reads a property, whose key is not set yet. -/
def addProperty (description : Description) (line : List Char) :
    Except LineFault Description :=
  match Text.cutAt? '=' line with
  | none => .error (.noProperty (String.ofList line))
  | some (key, value) =>
    let key := String.ofList (Text.trim key)
    if key.isEmpty then .error .emptyKey
    else if (description.properties.get? key).isSome then .error (.keyTwice key)
    else
      let value := String.ofList (Text.trim value)
      .ok { description with properties := description.properties.set key value }

/-- Adds a variable to a group; in streams it goes to the last one. -/
def addVariable (description : Description) (group : VariableGroup) (v : Variable) : Description :=
  match group with
  | .input => { description with input := description.input ++ [v] }
  | .output => { description with output := description.output ++ [v] }
  | .inputExtra => { description with inputExtra := description.inputExtra ++ [v] }
  | .inputPatch => { description with inputPatch := description.inputPatch ++ [v] }
  | .outputPatch => { description with outputPatch := description.outputPatch ++ [v] }
  | .stream =>
    let add (stream : OutputStream) : OutputStream :=
      { stream with outputs := stream.outputs ++ [v] }
    { description with streams := (changeLast? add description.streams).getD [] }

/-- Adds a uniform buffer, or a member to the last one. -/
def addUniformLine (description : Description) (line : List Char) :
    Except LineFault Description :=
  match Text.afterStart? "ubuffer ".toList line with
  | some header => do
    let (name, slot) ← readNamedSlot header
    return { description with uniformBuffers := description.uniformBuffers ++ [⟨name, slot, []⟩] }
  | none => do
    let field ← readField line
    let add (buffer : BufferDraft) : BufferDraft :=
      { buffer with members := buffer.members ++ [field] }
    match changeLast? add description.uniformBuffers with
    | some buffers => return { description with uniformBuffers := buffers }
    | none => .error (.fieldOutsideBuffer (String.ofList line))

/-- Adds a structure, or a member to the last one. -/
def addStructureLine (description : Description) (line : List Char) :
    Except LineFault Description :=
  match Text.afterStart? "struct ".toList line with
  | some name => do
    let name ← readIdentifier (Text.trim name)
    return { description with structures := description.structures ++ [⟨name, []⟩] }
  | none => do
    let field ← readField line
    let add (s : Structure) : Structure := { s with members := s.members ++ [field] }
    match changeLast? add description.structures with
    | some structures => return { description with structures := structures }
    | none => .error (.fieldOutsideStructure (String.ofList line))

/-- Adds fixed sampling of a view with a sampler. -/
def addFixedSampling (description : Description) (line : List Char) :
    Except LineFault Description :=
  match Text.cutAt? ':' line with
  | none => .error (.noFixedSampling (String.ofList line))
  | some (view, sampler) => do
    let pair := ⟨← readIdentifier (Text.trim view), ← readIdentifier (Text.trim sampler)⟩
    return { description with fixedSampling := description.fixedSampling ++ [pair] }

/-- Adds a line of code as it is. -/
def addCode (description : Description) (block : CodeBlock) (line : List Char) : Description :=
  let line := String.ofList line
  match block with
  | .global => { description with globalCode := description.globalCode ++ [line] }
  | .patch => { description with patchCode := description.patchCode ++ [line] }
  | .main => { description with mainCode := description.mainCode ++ [line] }

/-- Reads a line of a section: free of comments, trimmed and not empty. -/
def addLine (description : Description) (section_ : Section) (line : List Char) :
    Except LineFault Description :=
  match section_ with
  | .preamble => .error .beforeFirstSection
  | .properties => description.addProperty line
  | .interface group => return description.addVariable group (← readVariable line)
  | .uniformBuffers => description.addUniformLine line
  | .samplers => do
    let sampler ← readSampler line
    return { description with samplers := description.samplers ++ [sampler] }
  | .readViews => do
    let view ← readView line
    return { description with readViews := description.readViews ++ [view] }
  | .writeViews => do
    let view ← readView line
    return { description with writeViews := description.writeViews ++ [view] }
  | .structures => description.addStructureLine line
  | .fixedSampling => description.addFixedSampling line
  | .code block => .ok (description.addCode block line)

end Description

/-- The state between two lines: the section that is open and what has been read. -/
structure Reading where
  openSection : Section := .preamble
  description : Description := {}
  deriving Repr, DecidableEq

namespace Reading

/-- Opens a section, given what follows the percent sign.  Only a stream has an argument, its
name. -/
def openNext (reading : Reading) (header : List Char) : Except LineFault Reading :=
  let words := Text.words header
  let name := words.head?.getD []
  let argument := words[1]?
  match Section.ofName? name with
  | none => .error (.unknownSection (String.ofList name))
  | some (.interface .stream) =>
    match argument with
    | none => .error .streamWithoutName
    | some stream =>
      let streams := reading.description.streams ++ [⟨String.ofList stream, []⟩]
      .ok ⟨.interface .stream, { reading.description with streams := streams }⟩
  | some next =>
    if argument.isSome then .error (.sectionArgument (String.ofList name))
    else .ok { reading with openSection := next }

/-- Whether the text after a percent sign begins with the name of a section. -/
def namesSection (header : List Char) : Bool :=
  (Text.words header).head?.any fun name => (Section.ofName? name).isSome

/-- What follows the percent sign of a line that opens a section. -/
def header? (reading : Reading) (line : List Char) : Option (List Char) :=
  match line with
  | '%' :: header =>
    if !reading.openSection.isCode || namesSection header then some header else none
  | _ => none

/-- A line without its comment and without blanks at its ends. -/
def content (line : List Char) : List Char :=
  Text.trim (line.takeWhile (· ≠ '#'))

/-- Reads one line. -/
def step (reading : Reading) (line : List Char) : Except LineFault Reading :=
  match reading.header? line with
  | some header => reading.openNext header
  | none =>
    match reading.openSection with
    | .code block => .ok { reading with description := reading.description.addCode block line }
    | section_ =>
      if (content line).isEmpty then .ok reading
      else return { reading with
        description := ← reading.description.addLine section_ (content line) }

/-- Reads lines; a fault comes with the number of its line, and `number` is that of the first. -/
def steps (reading : Reading) : (number : Nat) → List (List Char) → Except ShaderError Reading
  | _, [] => .ok reading
  | number, line :: rest =>
    match reading.step line with
    | .ok next => next.steps (number + 1) rest
    | .error fault => .error (.description number fault)

end Reading

namespace Description

/-- The lines of a description; a line may end in one carriage return more than its ending has. -/
def linesOf (text : String) : List (List Char) :=
  (Text.lines text.toList).map Text.dropReturn

/-- The stage of a shader: the one that is given or else the one that the profile is for. -/
def stage (description : Description) : Except LineFault Stage :=
  match description.properties.get? "Stage" with
  | some text => (Stage.read text).mapError .keyword
  | none =>
    let profile := (description.properties.get? "Profile").getD ""
    match Stage.ofProfile? profile with
    | some stage => .ok stage
    | none => .error (.missingStage profile)

/-- Gives the members of uniform buffers their offsets. -/
def packBuffers (shader : String) (structures : List Structure) :
    List BufferDraft → Except ShaderError (List UniformBuffer)
  | [] => .ok []
  | draft :: rest => do
    let buffer ← (UniformBuffer.packed draft.name draft.slot draft.members structures).mapError
      fun fault => .malformed shader (.uniformBuffer draft.name fault)
    return buffer :: (← packBuffers shader structures rest)

/-- The properties that stay with the shader. -/
def ownProperties (description : Description) : Properties :=
  ((description.properties.erase "Name").erase "Profile").erase "Stage"

/-- The shader that is described; a fault in what the properties say is told of the last line. -/
def shader (description : Description) (lastLine : Nat) : Except ShaderError Shader := do
  let name ← match description.properties.get? "Name" with
    | some name => pure name
    | none => .error (.description lastLine .missingName)
  let stage ← description.stage.mapError (.description lastLine)
  let uniformBuffers ← packBuffers name description.structures description.uniformBuffers
  return {
    name, stage, uniformBuffers
    profile := (description.properties.get? "Profile").getD ""
    properties := description.ownProperties
    input := description.input
    output := description.output
    inputExtra := description.inputExtra
    inputPatch := description.inputPatch
    outputPatch := description.outputPatch
    streams := description.streams
    samplers := description.samplers
    readViews := description.readViews
    writeViews := description.writeViews
    structures := description.structures
    fixedSampling := description.fixedSampling
    globalCode := description.globalCode
    patchCode := description.patchCode
    mainCode := description.mainCode }

end Description

/-- Reads the description of a shader. -/
def Shader.read (text : String) : Except ShaderError Shader := do
  let lines := Description.linesOf text
  let reading ← Reading.steps {} 1 lines
  let shader ← reading.description.shader lines.length
  shader.accept

end CrossShade
