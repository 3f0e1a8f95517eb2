import CrossShade.Proofs.Source.Programs
import CrossShade.Proofs.Text.Plain

/-!
# Types of functions in source texts

Which interface structures a function names: in its return type, in its parameters and as the types
of its locals.  Code that it holds is left aside.

* `interfaceWords` are the identifiers of a text that have the form of such a name, and
  `Function.interfaceWords` those that stand for types in a function.
* The lemmas about single lines follow the way in which parameters and locals are written.
* `Wiring.mem_interfaceWords_iff` is the conclusion: the functions of a text name the structures
  that they are made with, and no other.
-/

namespace CrossShade

open Source Text

/-- The identifiers in a text, one after the other. -/
def Text.identifiers (text : List Char) : List (List Char) :=
  runs (!continuesIdentifier ·) text

/-- Whether a word has the form of a name of interface structures: it begins with the letters of a
stage and an underscore. -/
def namesInterface (word : List Char) : Bool :=
  Stage.all.any fun stage => (stage.structureLetters ++ "_").toList.isPrefixOf word

/-- The identifiers of this form in a text. -/
def interfaceWords (text : List Char) : List (List Char) :=
  (identifiers text).filter namesInterface

/-- The word with which a line begins.  Where a line declares a local, this is its type. -/
def leadingWord (line : List Char) : List Char :=
  (words line).headD []

/-- The words of this form with which lines begin. -/
def localWords (lines : List String) : List (List Char) :=
  (lines.map (leadingWord ·.toList)).filter namesInterface

/-- The words of this form that stand for types in a function: in what it returns, in its parameters
and at the beginning of lines other than those of its code. -/
def Source.Function.interfaceWords (f : Function) (code : List String) : List (List Char) :=
  CrossShade.interfaceWords f.returns.toList ++
    f.parameters.flatMap (CrossShade.interfaceWords ·.toList) ++
    localWords (f.body.diff code)

/-- The code that a function of a source text holds. -/
def Shader.codeOf (shader : Shader) (f : Function) : List String :=
  if f.name = Direct3D11.patchFunction then shader.patchCode else shader.mainCode

section Words

variable {text word : List Char} {c : Char}

/-! ## Words -/

/-- Names of interface structures begin with capital letters. -/
theorem namesInterface_eq_false (h : ∀ c ∈ word.head?, c.isUpper = false) :
    namesInterface word = false := by
  cases word with
  | nil => rfl
  | cons c rest =>
    have hc : c.isUpper = false := h c rfl
    refine List.any_eq_false.mpr fun stage _ hstage => ?_
    cases stage <;> simp [Stage.structureLetters] at hstage <;> simp [← hstage.1] at hc

theorem interfaceWords_append (hc : continuesIdentifier c = false) (before after : List Char) :
    interfaceWords (before ++ c :: after) = interfaceWords before ++ interfaceWords after := by
  rw [interfaceWords, identifiers, runs_append (by simp [hc]), List.filter_append]
  rfl

/-- An identifier with a small letter, or a number, is no such name. -/
theorem interfaceWords_eq_nil (h : ∀ c ∈ text, continuesIdentifier c = true)
    (hhead : ∀ c ∈ text.head?, c.isUpper = false) : interfaceWords text = [] := by
  by_cases hnone : text = []
  · rw [hnone]
    rfl
  · rw [interfaceWords, identifiers, runs_eq_singleton hnone (by simpa using h)]
    simp [namesInterface_eq_false hhead]

/-- Indentation does not count. -/
theorem words_indented (text : List Char) : words ("    ".toList ++ text) = words text := by
  have hblank : isBlank ' ' = true := rfl
  exact (((runs_cons hblank _).trans (runs_cons hblank _)).trans (runs_cons hblank _)).trans
    (runs_cons hblank _)

/-- A line does not declare a local of an interface structure if it begins with a small letter. -/
theorem namesInterface_leadingWord (hblank : isBlank c = false) (hupper : c.isUpper = false)
    (after : List Char) :
    namesInterface (leadingWord ("    ".toList ++ c :: after)) = false := by
  refine namesInterface_eq_false ?_
  obtain ⟨piece, more, hpieces⟩ := List.exists_cons_of_ne_nil (pieces_ne_nil isBlank after)
  have hwords : words (c :: after) = (c :: piece) :: more.filter (!·.isEmpty) := by
    simp [words, pieces, hblank, hpieces]
  rw [leadingWord, words_indented, hwords]
  simpa using hupper

/-- An identifier that is the name of an interface structure. -/
structure IsInterfaceName (word : List Char) : Prop where
  isIdentifier : ∀ c ∈ word, continuesIdentifier c = true
  names : namesInterface word = true

theorem toList_interfaceName (stage : Stage) (role : String) :
    (interfaceName stage role).toList =
      (stage.structureLetters ++ "_").toList ++ role.toList :=
  String.toList_append

theorem isInterfaceName_interfaceName (stage : Stage) {role : String}
    (h : ∀ c ∈ role.toList, continuesIdentifier c = true) :
    IsInterfaceName (interfaceName stage role).toList := by
  rw [toList_interfaceName]
  constructor
  · intro c hc
    rcases List.mem_append.mp hc with hletters | hrole
    · have hall : (stage.structureLetters ++ "_").toList.all continuesIdentifier = true := by
        cases stage <;> decide
      exact List.all_eq_true.mp hall c hletters
    · exact h c hrole
  · refine List.any_eq_true.mpr ⟨stage, ?_, ?_⟩
    · cases stage <;> decide
    · exact List.isPrefixOf_iff_prefix.mpr (List.prefix_append ..)

namespace IsInterfaceName

theorem ne_nil (h : IsInterfaceName word) : word ≠ [] := by
  rintro rfl
  cases h.names

theorem interfaceWords (h : IsInterfaceName word) : interfaceWords word = [word] := by
  rw [CrossShade.interfaceWords, identifiers, runs_eq_singleton h.ne_nil]
  · simp [h.names]
  · simpa using h.isIdentifier

theorem leadingWord (h : IsInterfaceName word) (after : List Char) :
    leadingWord ("    ".toList ++ (word ++ ' ' :: after)) = word := by
  have hplain : IsPlain word :=
    ⟨h.ne_nil, fun c hc => isPlain_of_continuesIdentifier (h.isIdentifier c hc)⟩
  rw [CrossShade.leadingWord, words_indented, words_append (by rfl),
    words_eq_singleton h.ne_nil fun c hc => hplain.not_isBlank hc]
  rfl

end IsInterfaceName

end Words

/-! ## Parameters -/

/-- The name of a structure, if there is one. -/
def structWords (s : Option InterfaceStruct) : List (List Char) :=
  s.toList.map (·.name.toList)

section Parameters

variable {s : Option InterfaceStruct}

theorem interfaceWords_digits {text : List Char} (h : ∀ c ∈ text, c.isDigit = true) :
    interfaceWords text = [] := by
  refine interfaceWords_eq_nil (fun c hc => ?_) fun c hc => ?_
  · simp [continuesIdentifier, Char.isAlphanum, h c hc]
  · have hdigit := range_of_isDigit (h c (List.mem_of_head? hc))
    by_contra hupper
    have hrange := range_of_isUpper (by simpa using hupper)
    omega

theorem interfaceWords_number (n : UInt32) : interfaceWords (toString n).toList = [] := by
  have hdigits : (toString n).toList = Nat.toDigits 10 n.toNat := Nat.toList_repr
  rw [hdigits]
  exact interfaceWords_digits fun c hc => Nat.isDigit_of_mem_toDigits (by decide) (by decide) hc

theorem interfaceWords_parameter (h : ∀ found ∈ s, IsInterfaceName found.name.toList)
    {name : String} (hname : interfaceWords name.toList = []) :
    (Hlsl.parameter s name).flatMap (interfaceWords ·.toList) = structWords s := by
  cases s with
  | none => rfl
  | some found =>
    have htext : (s!"{found.name} {name}").toList = found.name.toList ++ ' ' :: name.toList := by
      show (found.name ++ " " ++ name).toList = _
      simp
    rw [Hlsl.parameter, List.flatMap_singleton, htext, interfaceWords_append (by rfl),
      (h found rfl).interfaceWords, hname]
    rfl

theorem interfaceWords_patchParameter (h : ∀ found ∈ s, IsInterfaceName found.name.toList)
    (opening : String) (word : List Char) (hopening : opening.toList = word ++ ['<'])
    (hword : interfaceWords word = []) (points : UInt32) :
    (Direct3D11.patchParameter opening s points).flatMap (interfaceWords ·.toList) =
      structWords s := by
  cases s with
  | none => rfl
  | some found =>
    have htext : (s!"{opening}{found.name}, {points}> input").toList =
        word ++ '<' :: (found.name.toList ++ ',' :: ([] ++ ' ' ::
          ((toString points).toList ++ '>' :: ([] ++ ' ' :: "input".toList)))) := by
      show (opening ++ found.name ++ ", " ++ toString points ++ "> input").toList = _
      simp [hopening]
    rw [Direct3D11.patchParameter, List.flatMap_singleton, htext]
    simp (disch := decide) only [interfaceWords_append, (h found rfl).interfaceWords,
      interfaceWords_number, hword]
    rfl

theorem interfaceWords_primitiveParameters (h : ∀ found ∈ s, IsInterfaceName found.name.toList)
    (primitive : GeometryPrimitive) :
    (Direct3D11.primitiveParameters s primitive).flatMap (interfaceWords ·.toList) =
      structWords s := by
  cases s with
  | none => rfl
  | some found =>
    have htext : (s!"{primitive.hlsl} {found.name} input[{primitive.vertexCount}]").toList =
        primitive.hlsl.toList ++ ' ' :: (found.name.toList ++ ' ' :: ("input".toList ++ '[' ::
          ((toString primitive.vertexCount).toList ++ ']' :: []))) := by
      show (primitive.hlsl ++ " " ++ found.name ++ " input[" ++ toString primitive.vertexCount ++
        "]").toList = _
      simp
    have hprimitive : interfaceWords primitive.hlsl.toList = [] := by
      cases primitive <;> decide
    rw [Direct3D11.primitiveParameters, List.flatMap_singleton, htext]
    simp (disch := decide) only [interfaceWords_append, (h found rfl).interfaceWords,
      interfaceWords_number, hprimitive]
    rfl

/-- The parameter for a stream names its structure. -/
theorem interfaceWords_streamParameter {stream : Direct3D11.StreamOutput}
    (h : IsInterfaceName stream.vertex.name.toList)
    (hsuffix : ∀ c ∈ stream.suffix.toList, c.isDigit = true) (topology : StreamTopology) :
    interfaceWords
        (s!"inout {topology.hlsl}<{stream.vertex.name}> {stream.parameterName}").toList =
      [stream.vertex.name.toList] := by
  have htext : (s!"inout {topology.hlsl}<{stream.vertex.name}> {stream.parameterName}").toList =
      "inout".toList ++ ' ' :: (topology.hlsl.toList ++ '<' :: (stream.vertex.name.toList ++
        '>' :: ([] ++ ' ' :: ("outputStream".toList ++ stream.suffix.toList)))) := by
    show ("inout " ++ topology.hlsl ++ "<" ++ stream.vertex.name ++ "> " ++
      ("outputStream" ++ stream.suffix)).toList = _
    simp
  have htopology : interfaceWords topology.hlsl.toList = [] := by
    cases topology <;> decide
  have hname : interfaceWords ("outputStream".toList ++ stream.suffix.toList) = [] := by
    refine interfaceWords_eq_nil (fun c hc => ?_) (by simp)
    rcases List.mem_append.mp hc with hletter | hdigit
    · have hall : "outputStream".toList.all continuesIdentifier = true := by decide
      exact List.all_eq_true.mp hall c hletter
    · simp [continuesIdentifier, Char.isAlphanum, hsuffix c hdigit]
  rw [htext]
  simp (disch := decide) only [interfaceWords_append, h.interfaceWords, htopology, hname]
  rfl

end Parameters

/-! ## Functions -/

section Functions

variable {f : Function} {before code after : List String} {word : List Char}

theorem diff_append_self (code other : List String) : (code ++ other).diff code = other := by
  induction code with
  | nil => rfl
  | cons line rest ih => rw [List.cons_append, List.diff_cons, List.erase_cons_head, ih]

/-- What is left of a body without its code are the lines before and after it. -/
theorem perm_diff (before code after : List String) :
    ((before ++ code ++ after).diff code).Perm (before ++ after) := by
  have hswap : (before ++ code ++ after).Perm (code ++ (before ++ after)) := by
    rw [← List.append_assoc]
    exact List.perm_append_comm.append_right after
  have hleft := hswap.diff_right code
  rwa [diff_append_self] at hleft

theorem localWords_append (first second : List String) :
    localWords (first ++ second) = localWords first ++ localWords second := by
  rw [localWords, List.map_append, List.filter_append]
  rfl

theorem mem_interfaceWords (hbody : f.body = before ++ code ++ after) :
    word ∈ f.interfaceWords code ↔ word ∈ interfaceWords f.returns.toList ∨
      word ∈ f.parameters.flatMap (interfaceWords ·.toList) ∨
      word ∈ localWords (before ++ after) := by
  have hlocals : (localWords ((before ++ code ++ after).diff code)).Perm
      (localWords (before ++ after)) :=
    ((perm_diff before code after).map _).filter _
  rw [Function.interfaceWords, hbody, List.mem_append, List.mem_append, hlocals.mem_iff, or_assoc]

/-- A local that is set to zero is of its type. -/
theorem leadingWord_zeroed {type : String} (h : IsInterfaceName type.toList) (name : String) :
    leadingWord (Hlsl.zeroed type name).toList = type.toList := by
  have htext : (Hlsl.zeroed type name).toList = "    ".toList ++ (type.toList ++
      ' ' :: (name ++ " = (" ++ type ++ ")0;").toList) := by
    show ("    " ++ type ++ " " ++ name ++ " = (" ++ type ++ ")0;").toList = _
    simp
  rw [htext, h.leadingWord]

/-- A function that returns a structure names it, and what its parameters name. -/
theorem mem_interfaceWords_returning {output : Option InterfaceStruct}
    (houtput : ∀ s ∈ output, IsInterfaceName s.name.toList) (name result : String)
    (attributes parameters code : List String) :
    word ∈ (Hlsl.returning name result attributes output parameters code).interfaceWords code ↔
      word ∈ structWords output ∨ word ∈ parameters.flatMap (interfaceWords ·.toList) := by
  cases output with
  | none =>
    have hbody : (Hlsl.returning name result attributes none parameters code).body =
        [] ++ code ++ [] := (List.append_nil code).symm
    have hreturns : interfaceWords "void".toList = [] := by decide
    rw [mem_interfaceWords hbody]
    simp only [Hlsl.returning, structWords, Option.map_none, Option.getD_none, hreturns]
    simp [localWords]
  | some s =>
    have hname := houtput s rfl
    have hbody : (Hlsl.returning name result attributes (some s) parameters code).body =
        [Hlsl.zeroed s.name result] ++ code ++ [s!"    return {result};"] := rfl
    have hlast : namesInterface (leadingWord (s!"    return {result};").toList) = false := by
      have htext : (s!"    return {result};").toList =
          "    ".toList ++ 'r' :: ("eturn " ++ result ++ ";").toList := by
        show ("    return " ++ result ++ ";").toList = _
        simp
      rw [htext]
      exact namesInterface_leadingWord (by rfl) (by rfl) _
    have hlocals : localWords ([Hlsl.zeroed s.name result] ++ [s!"    return {result};"]) =
        [s.name.toList] := by
      rw [localWords, List.map_append, List.map_singleton, List.map_singleton,
        leadingWord_zeroed hname]
      simp only [List.filter_append, List.filter_singleton, hname.names, hlast]
      rfl
    rw [mem_interfaceWords hbody, hlocals]
    simp only [Hlsl.returning, structWords, Option.map_some, Option.getD_some, hname.interfaceWords,
      Option.toList_some, List.map_singleton]
    exact ⟨fun h => h.elim .inl Or.symm, fun h => h.imp_right .inl⟩

/-! ## Functions of OpenGL texts -/

namespace OpenGL

/-- A line that begins, after its indentation, with a small letter. -/
def StartsSmall (line : String) : Prop :=
  ∃ c after, line.toList = "    ".toList ++ c :: after ∧ isBlank c = false ∧ c.isUpper = false

theorem StartsSmall.append {first : String} (h : StartsSmall first) (rest : String) :
    StartsSmall (first ++ rest) := by
  obtain ⟨c, after, htext, hblank, hupper⟩ := h
  refine ⟨c, after ++ rest.toList, ?_, hblank, hupper⟩
  rw [String.toList_append, htext, List.append_assoc, List.cons_append]

theorem StartsSmall.namesInterface_leadingWord {line : String} (h : StartsSmall line) :
    namesInterface (leadingWord line.toList) = false := by
  obtain ⟨c, after, htext, hblank, hupper⟩ := h
  rw [htext]
  exact CrossShade.namesInterface_leadingWord hblank hupper after

theorem startsSmall_line {destination : String} (h : StartsSmall ("    " ++ destination))
    (value : String) : StartsSmall (Assignment.line ⟨destination, value⟩) :=
  ((h.append " = ").append value).append ";"

/-- Inputs are copied to the local for them. -/
theorem startsSmall_receive {shader : Shader} {v : Variable} {location : Option UInt32}
    {transfer : Transfer} (h : receive shader v location = .ok transfer) :
    StartsSmall transfer.copy := by
  have hmember : StartsSmall ("    " ++ s!"{inputLocal}.{v.name}") := by
    refine ⟨'s', "tage_input.".toList ++ v.name.toList, ?_, by rfl, by rfl⟩
    rw [String.toList_append, ← List.cons_append]
    exact congrArg _ (String.toList_append ..)
  obtain ⟨type, -, ⟨-, builtin, -, rfl⟩ | ⟨-, first, declared, -, -, rfl⟩⟩ := receive_cases h
  · exact startsSmall_line hmember _
  · exact startsSmall_line hmember _

/-- Outputs are copied to built-in variables or to globals for them. -/
theorem startsSmall_pass {shader : Shader} {v : Variable} {location : Option UInt32}
    {transfer : Transfer} (h : pass shader v location = .ok transfer) :
    StartsSmall transfer.copy := by
  obtain ⟨type, -, ⟨builtin, hbuiltin, rfl⟩ | ⟨-, first, declared, -, -, rfl⟩⟩ := pass_cases h
  · refine startsSmall_line ?_ _
    unfold builtinOutput? at hbuiltin
    split at hbuiltin <;> cases hbuiltin
    · exact ⟨'g', "l_Position".toList, by decide, by rfl, by rfl⟩
    · exact ⟨'g', "l_FragDepth".toList, by decide, by rfl, by rfl⟩
  · have hglobal : StartsSmall ("    " ++ ("out_" ++ v.name)) :=
      ⟨'o', ("ut_" ++ v.name).toList, by simp, by rfl, by rfl⟩
    exact startsSmall_line hglobal _

theorem startsSmall_copy {shader : Shader} {interface : StageInterface}
    (h : stageInterface shader = .ok interface) :
    ∀ transfer ∈ interface.received ++ interface.passed, StartsSmall transfer.copy := by
  simp only [stageInterface, transfers, bind_eq_ok, pure_eq_ok] at h
  obtain ⟨input, -, output, -, received, hreceived, passed, hpassed, rfl⟩ := h
  intro transfer htransfer
  rcases List.mem_append.mp htransfer with hmem | hmem
  · obtain ⟨_, -, hreceive⟩ := exists_eq_ok_of_mem_mapM hreceived hmem
    exact startsSmall_receive hreceive
  · obtain ⟨_, -, hpass⟩ := exists_eq_ok_of_mem_mapM hpassed hmem
    exact startsSmall_pass hpass

/-- The line that declares a local for a structure, if there is one. -/
def localLines (s : Option InterfaceStruct) (name : String) : List String :=
  (s.map fun found => s!"    {found.name} {name};").toList

theorem body_eq (interface : StageInterface) (code : List String) :
    interface.body code = localLines interface.input inputLocal ++
      interface.received.map (·.copy) ++ localLines interface.output outputLocal ++ code ++
        interface.passed.map (·.copy) := by
  unfold StageInterface.body localLines
  cases interface.input <;> cases interface.output <;> rfl

theorem localWords_localLines {s : Option InterfaceStruct}
    (h : ∀ found ∈ s, IsInterfaceName found.name.toList) (name : String) :
    localWords (localLines s name) = structWords s := by
  cases s with
  | none => rfl
  | some found =>
    have hname := h found rfl
    have htext : (s!"    {found.name} {name};").toList =
        "    ".toList ++ (found.name.toList ++ ' ' :: (name ++ ";").toList) := by
      show ("    " ++ found.name ++ " " ++ name ++ ";").toList = _
      simp
    simp only [localWords, localLines, Option.map_some, Option.toList_some, List.map_singleton,
      htext, hname.leadingWord, List.filter_singleton, hname.names]
    rfl

theorem localWords_eq_nil {lines : List String} (h : ∀ line ∈ lines, StartsSmall line) :
    localWords lines = [] := by
  refine List.filter_eq_nil_iff.mpr (List.forall_mem_map.mpr fun line hline => ?_)
  simp [(h line hline).namesInterface_leadingWord]

/-- Only locals for structures are declared, and inputs and outputs copied. -/
theorem localWords_body {shader : Shader} {interface : StageInterface}
    (h : stageInterface shader = .ok interface)
    (hinput : ∀ s ∈ interface.input, IsInterfaceName s.name.toList)
    (houtput : ∀ s ∈ interface.output, IsInterfaceName s.name.toList) :
    localWords (localLines interface.input inputLocal ++ interface.received.map (·.copy) ++
        localLines interface.output outputLocal ++ interface.passed.map (·.copy)) =
      structWords interface.input ++ structWords interface.output := by
  have hcopies := List.forall_mem_append.mp (startsSmall_copy h)
  have hreceived := localWords_eq_nil (List.forall_mem_map.mpr hcopies.1)
  have hpassed := localWords_eq_nil (List.forall_mem_map.mpr hcopies.2)
  simp only [localWords_append, hreceived, hpassed, localWords_localLines hinput,
    localWords_localLines houtput, List.append_nil]

end OpenGL

/-! ## Functions of geometry shaders -/

section Streams

variable {streams : List Direct3D11.StreamOutput}

theorem flatMap_structWords_streams (streams : List Direct3D11.StreamOutput) :
    (streams.map fun stream => some stream.vertex).flatMap structWords =
      streams.map (·.vertex.name.toList) := by
  rw [List.flatMap_map, List.map_eq_flatMap]
  rfl

theorem flatMap_streamParameters
    (h : ∀ stream ∈ streams, IsInterfaceName stream.vertex.name.toList)
    (hsuffixes : ∀ stream ∈ streams, ∀ c ∈ stream.suffix.toList, c.isDigit = true)
    (topology : StreamTopology) :
    (streams.map fun stream =>
        s!"inout {topology.hlsl}<{stream.vertex.name}> {stream.parameterName}").flatMap
      (interfaceWords ·.toList) = streams.map (·.vertex.name.toList) := by
  rw [List.flatMap_map, List.map_eq_flatMap]
  exact List.flatMap_congr fun stream hstream =>
    interfaceWords_streamParameter (h stream hstream) (hsuffixes stream hstream) topology

theorem localWords_zeroed (h : ∀ stream ∈ streams, IsInterfaceName stream.vertex.name.toList) :
    localWords (streams.map fun stream => Hlsl.zeroed stream.vertex.name stream.localName) =
      streams.map (·.vertex.name.toList) := by
  have hwords : (streams.map fun stream => Hlsl.zeroed stream.vertex.name stream.localName).map
      (leadingWord ·.toList) = streams.map (·.vertex.name.toList) := by
    rw [List.map_map]
    refine List.map_congr_left fun stream hstream => ?_
    rw [Function.comp_apply, leadingWord_zeroed (h stream hstream)]
  rw [localWords, hwords]
  exact List.filter_eq_self.mpr (List.forall_mem_map.mpr fun stream hstream =>
    (h stream hstream).names)

end Streams

end Functions

/-! ## All functions -/

section Wiring

variable {shader : Shader} {target : Target} {interfaces : List (Option InterfaceStruct)}
  {functions : List Function} {word : List Char}

theorem map_reduceOption (interfaces : List (Option InterfaceStruct)) :
    interfaces.reduceOption.map (·.name.toList) = interfaces.flatMap structWords := by
  induction interfaces with
  | nil => rfl
  | cons s rest ih =>
    cases s with
    | none => exact ih
    | some found => exact congrArg (found.name.toList :: ·) ih

theorem codeOf_main {f : Function} (h : f.name = "main") : shader.codeOf f = shader.mainCode := by
  rw [Shader.codeOf, h]
  rfl

theorem codeOf_patch {f : Function} (h : f.name = Direct3D11.patchFunction) :
    shader.codeOf f = shader.patchCode :=
  if_pos h

theorem exists_mem_singleton_iff {main : Function} (h : main.name = "main") :
    (∃ f ∈ [main], word ∈ f.interfaceWords (shader.codeOf f)) ↔
      word ∈ main.interfaceWords shader.mainCode := by
  rw [← codeOf_main h]
  simp

/-- Streams are numbered in digits. -/
theorem isDigit_streamSuffixes {suffix : String} (h : suffix ∈ shader.streamSuffixes) :
    ∀ c ∈ suffix.toList, c.isDigit = true := by
  unfold Shader.streamSuffixes at h
  split at h
  · rw [List.mem_singleton.mp h]
    simp
  · obtain ⟨⟨stream, number⟩, -, rfl⟩ := List.mem_map.mp h
    intro c hc
    have hdigits : c ∈ Nat.toDigits 10 number := by
      rw [← Nat.toList_repr]
      exact hc
    exact Nat.isDigit_of_mem_toDigits (by decide) (by decide) hdigits

/-- The functions of a text name the structures that they are made with, and no other. -/
theorem Wiring.mem_interfaceWords_iff (h : Wiring shader target interfaces functions)
    (hnames : ∀ s, some s ∈ interfaces → IsInterfaceName s.name.toList) :
    (∃ f ∈ functions, word ∈ f.interfaceWords (shader.codeOf f)) ↔
      word ∈ interfaces.reduceOption.map (·.name.toList) := by
  rw [map_reduceOption]
  have hoptions : ∀ s ∈ interfaces, ∀ found ∈ s, IsInterfaceName found.name.toList := by
    rintro _ hs found rfl
    exact hnames found hs
  cases h with
  | @plain _ input output _ _ =>
    simp only [List.forall_mem_cons] at hoptions
    obtain ⟨hinput, houtput, -⟩ := hoptions
    rw [exists_mem_singleton_iff rfl, mem_interfaceWords_returning houtput,
      interfaceWords_parameter hinput (by decide), or_comm]
    simp
  | @compute input attributes _ =>
    simp only [List.forall_mem_cons] at hoptions
    obtain ⟨hinput, -⟩ := hoptions
    rw [exists_mem_singleton_iff rfl, mem_interfaceWords_returning (by simp),
      interfaceWords_parameter hinput (by decide)]
    simp [structWords]
  | @hull input output patch points attributes _ =>
    simp only [List.forall_mem_cons] at hoptions
    obtain ⟨hinput, houtput, hpatch, -⟩ := hoptions
    have hpoints := interfaceWords_patchParameter hinput "InputPatch<" "InputPatch".toList (by rfl)
      (by decide) points
    have hids : ∀ p ∈ ["uint controlPointId : SV_OutputControlPointID",
        Direct3D11.primitiveParameter], interfaceWords p.toList = [] := by
      decide
    simp only [List.forall_mem_cons] at hids
    obtain ⟨hcontrolPoint, hprimitive, -⟩ := hids
    -- two functions, of which the first returns what it says of the patch and holds other code
    simp only [List.mem_cons, List.not_mem_nil, or_false, exists_eq_or_imp, exists_eq_left,
      codeOf_patch (f := Hlsl.returning Direct3D11.patchFunction _ _ _ _ _) rfl,
      codeOf_main (f := Hlsl.returning "main" _ _ _ _ _) rfl,
      mem_interfaceWords_returning houtput, mem_interfaceWords_returning hpatch,
      List.flatMap_append, List.flatMap_cons, List.flatMap_nil, hpoints, hcontrolPoint, hprimitive,
      List.append_nil, List.mem_append]
    rw [or_or_or_comm, or_self, or_comm, or_comm (a := word ∈ structWords (some patch))]
  | @domain input patch extra output points attributes _ =>
    simp only [List.forall_mem_cons] at hoptions
    obtain ⟨hinput, hpatch, hextra, houtput, -⟩ := hoptions
    have hpoints := interfaceWords_patchParameter hinput "OutputPatch<" "OutputPatch".toList
      (by rfl) (by decide) points
    rw [exists_mem_singleton_iff rfl, mem_interfaceWords_returning houtput, List.flatMap_append,
      List.flatMap_append, hpoints, interfaceWords_parameter hpatch (by decide),
      interfaceWords_parameter hextra (by decide), or_comm]
    simp [or_assoc]
  | @geometry input streams primitive topology attributes _ hsame =>
    obtain ⟨hinput, hrest⟩ := List.forall_mem_cons.mp hoptions
    have hsuffixes : ∀ stream ∈ streams, ∀ c ∈ stream.suffix.toList, c.isDigit = true :=
      fun stream hstream => isDigit_streamSuffixes (hsame ▸ List.mem_map_of_mem hstream)
    have hstreams : ∀ stream ∈ streams, IsInterfaceName stream.vertex.name.toList :=
      fun stream hstream => hrest (some stream.vertex) (List.mem_map_of_mem hstream) _ rfl
    have hreturns : interfaceWords "void".toList = [] := by decide
    rw [exists_mem_singleton_iff rfl, mem_interfaceWords (List.append_nil _).symm, List.append_nil,
      localWords_zeroed hstreams, List.flatMap_append, flatMap_streamParameters hstreams hsuffixes,
      interfaceWords_primitiveParameters hinput, hreturns, List.flatMap_cons,
      flatMap_structWords_streams, List.mem_append]
    simp only [List.not_mem_nil, false_or, or_assoc, or_self]
  | @openGL interface _ hinterface =>
    simp only [List.forall_mem_cons] at hoptions
    obtain ⟨hinput, houtput, -⟩ := hoptions
    have hreturns : interfaceWords "void".toList = [] := by decide
    rw [exists_mem_singleton_iff rfl, mem_interfaceWords (OpenGL.body_eq interface _), hreturns,
      OpenGL.localWords_body hinterface hinput houtput]
    simp

end Wiring

end CrossShade
