import CrossShade.Proofs.Shader.Lines
import CrossShade.Proofs.Shader.Properties
import Mathlib.Data.List.Induction

/-!
# Reading the sections of a description

The lines of a section add its part to what was read, whatever section was open before.

* `Reading.Leads` is a run of the reader over lines, and `Reading.Adds` one that may begin in any
  section.
* `rows_induction` is the induction over the rows of a section.
* One lemma for every kind of section follows, from `adds_properties` to `adds_code`.
-/

namespace CrossShade

open Text (IsLine IsContent)

namespace Reading

variable {reading next final : Reading} {openSection : Section} {description added : Description}
  {line : List Char} {lines more : List String} {name : String}

/-! ## Runs of the reader -/

/-- Lines that lead the reader from one state to another. -/
inductive Leads : Reading → List String → Reading → Prop where
  | stop (reading : Reading) : Leads reading [] reading
  | step {reading next final : Reading} {line : String} {rest : List String}
      (hline : IsLine line.toList) (hstep : reading.step line.toList = .ok next)
      (hrest : Leads next rest final) : Leads reading (line :: rest) final

theorem Leads.append (h : Leads reading lines next) (hmore : Leads next more final) :
    Leads reading (lines ++ more) final := by
  induction h with
  | stop => exact hmore
  | step hline hstep _ ih => exact .step hline hstep (ih hmore)

theorem Leads.steps (h : Leads reading lines final) (number : Nat) :
    reading.steps number (lines.map String.toList) = .ok final := by
  induction h generalizing number with
  | stop => rfl
  | step hline hstep _ ih =>
    rw [List.map_cons, Reading.steps, hstep]
    exact ih (number + 1)

theorem Leads.isLine (h : Leads reading lines final) : ∀ line ∈ lines, IsLine line.toList := by
  induction h with
  | stop => simp
  | step hline hstep _ ih =>
    intro other hother
    rcases List.mem_cons.mp hother with rfl | hother
    · exact hline
    · exact ih other hother

/-- Lines that add to what was read, whatever section is open before them. -/
def Adds (lines : List String) (before after : Description) : Prop :=
  ∀ openSection, ∃ last, Leads ⟨openSection, before⟩ lines ⟨last, after⟩

theorem Adds.nil (description : Description) : Adds [] description description :=
  fun openSection => ⟨openSection, .stop _⟩

theorem Adds.append {before between after : Description} (h : Adds lines before between)
    (hmore : Adds more between after) : Adds (lines ++ more) before after := by
  intro openSection
  obtain ⟨middle, hfirst⟩ := h openSection
  obtain ⟨last, hsecond⟩ := hmore middle
  exact ⟨last, hfirst.append hsecond⟩

/-- What every row adds after the rows before it, all rows add one after the other.  A run of the
reader inside a section is such a relation, and so is one that may begin in any section. -/
theorem rows_induction {α : Type} {R : List String → Description → Description → Prop}
    (hnil : ∀ description, R [] description description)
    (happend : ∀ {lines more before between after}, R lines before between →
      R more between after → R (lines ++ more) before after)
    {linesOf : α → List String} {rows : List α} (read : List α → Description)
    (hrow : ∀ earlier row later, rows = earlier ++ row :: later →
      R (linesOf row) (read earlier) (read (earlier ++ [row]))) :
    R (rows.flatMap linesOf) (read []) (read rows) := by
  induction rows using List.reverseRecOn with
  | nil => exact hnil (read [])
  | append_singleton rows last ih =>
    have hbefore : R (rows.flatMap linesOf) (read []) (read rows) := by
      refine ih ?_
      intro earlier row later hrows
      exact hrow earlier row (later ++ [last]) (by simp [hrows])
    have hlast := hrow rows last [] rfl
    simpa using happend hbefore hlast

/-! ## Single lines -/

theorem header?_eq_none (h : line.head? ≠ some '%') : reading.header? line = none := by
  unfold header?
  split
  · simp at h
  · rfl

/-- A line that is not empty adds what its content says. -/
theorem step_content (hcode : openSection.isCode = false) (hheader : line.head? ≠ some '%')
    (hsome : content line ≠ [])
    (hadd : description.addLine openSection (content line) = .ok added) :
    step ⟨openSection, description⟩ line = .ok ⟨openSection, added⟩ := by
  have hempty : (content line).isEmpty = false := by simpa using hsome
  cases openSection with
  | code block => simp [Section.isCode] at hcode
  | _ => simp [step, header?_eq_none hheader, hempty, hadd]

theorem leads_content {line : String} (hcode : openSection.isCode = false)
    (hline : IsContent line.toList)
    (hadd : description.addLine openSection line.toList = .ok added) :
    Leads ⟨openSection, description⟩ [line] ⟨openSection, added⟩ := by
  have hcontent : content line.toList = line.toList := by
    rw [content_of_noComment hline.noComment, hline.hasNoEdge.trim]
  refine .step hline.isLine ?_ (.stop _)
  refine step_content hcode hline.noHeader ?_ ?_
  · rw [hcontent]
    exact hline.ne_nil
  · rw [hcontent]
    exact hadd

/-- The rows of a section, each of some lines. -/
theorem leads_flatMap {α : Type} {linesOf : α → List String} {rows : List α}
    (read : List α → Description) (hrow : ∀ row ∈ rows, ∀ earlier,
      Leads ⟨openSection, read earlier⟩ (linesOf row) ⟨openSection, read (earlier ++ [row])⟩) :
    Leads ⟨openSection, read []⟩ (rows.flatMap linesOf) ⟨openSection, read rows⟩ := by
  refine rows_induction (R := fun lines before after =>
    Leads ⟨openSection, before⟩ lines ⟨openSection, after⟩) (fun _ => .stop _)
    (fun h hmore => h.append hmore) read ?_
  intro earlier row later hsplit
  exact hrow row (by simp [hsplit]) earlier

/-- The rows of a section with one line each. -/
theorem leads_rows {α : Type} {lineOf : α → String} {rows : List α}
    (read : List α → Description) (hcode : openSection.isCode = false)
    (hline : ∀ row ∈ rows, IsContent (lineOf row).toList)
    (hadd : ∀ row ∈ rows, ∀ earlier,
      (read earlier).addLine openSection (lineOf row).toList = .ok (read (earlier ++ [row]))) :
    Leads ⟨openSection, read []⟩ (rows.map lineOf) ⟨openSection, read rows⟩ := by
  rw [List.map_eq_flatMap]
  exact leads_flatMap read fun row hrow earlier =>
    leads_content hcode (hline row hrow) (hadd row hrow earlier)

/-! ## Headers -/

/-- A line that names a section opens it, even inside code. -/
theorem step_header (reading : Reading) {words : List String} (hname : IsName name)
    (hwords : ∀ word ∈ words, IsName word)
    (hsection : (Section.ofName? name.toList).isSome = true) :
    reading.step ("%" ++ spaced (name :: words)).toList =
      reading.openNext (spaced (name :: words)).toList := by
  have hcut := words_spaced fun word hword =>
    ((List.forall_mem_cons.mpr ⟨hname, hwords⟩) word hword).isPlain.isWord
  have hnames : namesSection (spaced (name :: words)).toList = true := by
    simpa [namesSection, hcut] using hsection
  have hheader : reading.header? ("%" ++ spaced (name :: words)).toList =
      some (spaced (name :: words)).toList := by
    rw [String.toList_append]
    show (if !reading.openSection.isCode || namesSection (spaced (name :: words)).toList
      then some (spaced (name :: words)).toList else none) = _
    simp [hnames]
  rw [step, hheader]

theorem isLine_header {words : List String} (hsome : words ≠ [])
    (h : ∀ word ∈ words, IsName word) : IsLine ("%" ++ spaced words).toList := by
  have hcontent := isContent_spaced hsome fun word hword => (h word hword).isPlain.isWord
  rw [String.toList_append]
  constructor
  · simpa using hcontent.noFeed
  · rw [List.getLast?_append, List.getLast?_eq_some_getLast hcontent.ne_nil]
    have hlast := hcontent.isLine.noReturn
    rwa [List.getLast?_eq_some_getLast hcontent.ne_nil] at hlast

/-- The header of a section without an argument. -/
theorem leads_header (hname : IsName name)
    (hsection : Section.ofName? name.toList = some openSection)
    (hstream : openSection ≠ .interface .stream) (reading : Reading) :
    Leads reading ["%" ++ name] ⟨openSection, reading.description⟩ := by
  have hone : spaced [name] = name := by simp [spaced]
  have hnames : ∀ word ∈ [name], IsName word := by simpa using hname
  have hstep := step_header reading hname (List.forall_mem_nil IsName) (by simp [hsection])
  have hwords := words_spaced fun word hword => (hnames word hword).isPlain.isWord
  have hline := isLine_header (List.cons_ne_nil name []) hnames
  rw [hone] at hstep hwords hline
  refine .step hline ?_ (.stop _)
  simp only [hstep, openNext, hwords, List.map_cons, List.map_nil, List.head?_cons,
    Option.getD_some, hsection]
  cases openSection with
  | interface group =>
    cases group with
    | stream => exact absurd rfl hstream
    | _ => rfl
  | _ => rfl

/-- A section adds what its rows add; without rows it is left out. -/
theorem adds_section (openSection : Section) {before after : Description} (hname : IsName name)
    (hsection : Section.ofName? name.toList = some openSection)
    (hstream : openSection ≠ .interface .stream)
    (hrows : Leads ⟨openSection, before⟩ lines ⟨openSection, after⟩) :
    Adds (Shader.describedSection name lines) before after := by
  intro first
  unfold Shader.describedSection
  split
  · rename_i hempty
    rw [List.isEmpty_iff] at hempty
    subst hempty
    cases hrows with
    | stop => exact ⟨first, .stop _⟩
  · exact ⟨openSection, (leads_header hname hsection hstream ⟨first, before⟩).append hrows⟩

/-- A section of rows with one line each. -/
theorem adds_rows {α : Type} {lineOf : α → String} {rows : List α} (openSection : Section)
    (hname : IsName name) (hsection : Section.ofName? name.toList = some openSection)
    (hstream : openSection ≠ .interface .stream) (hcode : openSection.isCode = false)
    (read : List α → Description) (hnil : read [] = description)
    (hline : ∀ row ∈ rows, IsContent (lineOf row).toList)
    (hadd : ∀ row ∈ rows, ∀ earlier,
      (read earlier).addLine openSection (lineOf row).toList = .ok (read (earlier ++ [row]))) :
    Adds (Shader.describedSection name (rows.map lineOf)) description (read rows) := by
  rw [← hnil]
  exact adds_section openSection hname hsection hstream (leads_rows read hcode hline hadd)

/-! ## Properties -/

theorem leads_property {key value : String} (hkey : IsKey key) (hvalue : IsValue value)
    (hfresh : description.properties.get? key = none) :
    Leads ⟨.properties, description⟩ [Shader.describedProperty (key, value)]
      ⟨.properties, { description with
        properties := description.properties.set key value }⟩ := by
  refine .step (isLine_describedProperty hkey hvalue) ?_ (.stop _)
  refine step_content rfl ?_ ?_ (addProperty_content hkey hvalue hfresh rfl)
  · simp [toList_describedProperty]
  · obtain ⟨rest, hcontent, -⟩ := content_describedProperty hkey hvalue
    simp [hcontent]

/-- Properties whose keys are distinct. -/
theorem adds_properties {rows : List (String × String)}
    (hrows : ∀ row ∈ rows, IsKey row.1 ∧ IsValue row.2) (hdistinct : (rows.map (·.1)).Nodup) :
    Adds (Shader.describedSection "meta" (rows.map Shader.describedProperty)) {}
      { properties := Properties.setAll [] rows } := by
  refine adds_section .properties (by decide) (by decide) (by decide) ?_
  rw [List.map_eq_flatMap]
  refine rows_induction (R := fun lines before after =>
      Leads ⟨.properties, before⟩ lines ⟨.properties, after⟩) (fun _ => .stop _)
    (fun h hmore => h.append hmore)
    (fun earlier => { properties := Properties.setAll [] earlier }) ?_
  intro earlier row later hsplit
  obtain ⟨hkey, hvalue⟩ := hrows row (by simp [hsplit])
  have hfresh : (Properties.setAll [] earlier).get? row.1 = none := by
    rw [hsplit, List.map_append, List.nodup_append] at hdistinct
    obtain ⟨hearlier, -, hapart⟩ := hdistinct
    rw [Properties.get?_setAll hearlier, Properties.get?_eq_none]
    · rfl
    · intro hmem
      exact hapart row.1 hmem row.1 (by simp) rfl
  have hset : Properties.setAll [] (earlier ++ [row]) =
      (Properties.setAll [] earlier).set row.1 row.2 := by
    simp [Properties.setAll]
  rw [hset]
  exact leads_property hkey hvalue hfresh

/-! ## Variables -/

/-- The description with variables behind those of a group; streams have groups of their own. -/
def putVariables (description : Description) (vs : List Variable) : VariableGroup → Description
  | .input => { description with input := description.input ++ vs }
  | .output => { description with output := description.output ++ vs }
  | .inputExtra => { description with inputExtra := description.inputExtra ++ vs }
  | .inputPatch => { description with inputPatch := description.inputPatch ++ vs }
  | .outputPatch => { description with outputPatch := description.outputPatch ++ vs }
  | .stream => description

theorem addLine_variable {v : Variable} (h : v.IsPrintable) (hunused : v.type ≠ .struct "unused")
    (group : VariableGroup) :
    description.addLine (.interface group) v.described.toList =
      .ok (description.addVariable group v) := by
  simp [Description.addLine, Variable.readVariable_described h hunused]

theorem adds_variables (name : String) (group : VariableGroup) (vs : List Variable)
    (hname : IsName name) (hsection : Section.ofName? name.toList = some (.interface group))
    (hgroup : group ≠ .stream) (h : ∀ v ∈ vs, v.IsPrintable ∧ v.type ≠ .struct "unused") :
    Adds (Shader.describedSection name (vs.map (·.described))) description
      (putVariables description vs group) := by
  refine adds_rows (.interface group) hname hsection (by simpa using hgroup) rfl
    (putVariables description · group) ?_ (fun v hv => Variable.isContent_described (h v hv).1) ?_
  · cases group <;> simp [putVariables]
  · intro v hv earlier
    rw [addLine_variable (h v hv).1 (h v hv).2]
    cases group <;> simp_all [putVariables, Description.addVariable]

/-- The last of some elements is the one that was added last. -/
theorem changeLast?_append {α : Type} (change : α → α) (earlier : List α) (last : α) :
    changeLast? change (earlier ++ [last]) = some (earlier ++ [change last]) := by
  induction earlier with
  | nil => rfl
  | cons first rest ih =>
    cases hrest : rest ++ [last] with
    | nil => simp at hrest
    | cons second more =>
      rw [List.cons_append, hrest, changeLast?, ← hrest, ih]
      · rfl
      · simp

/-- A stream opens its own section. -/
theorem adds_stream {stream : OutputStream} (hstream : IsName stream.name)
    (h : ∀ v ∈ stream.outputs, v.IsPrintable ∧ v.type ≠ .struct "unused") :
    Adds stream.described description
      { description with streams := description.streams ++ [stream] } := by
  intro first
  refine ⟨.interface .stream, ?_⟩
  have hname : IsName "output_stream" := by decide
  have hheader : Leads ⟨first, description⟩ ["%" ++ spaced ["output_stream", stream.name]]
      ⟨.interface .stream,
        { description with streams := description.streams ++ [⟨stream.name, []⟩] }⟩ := by
    have hnames : ∀ word ∈ ["output_stream", stream.name], IsName word := by
      simpa using ⟨hname, hstream⟩
    have hstep := step_header ⟨first, description⟩ hname
      (List.forall_mem_cons.mp hnames).2 (by decide)
    have hwords := words_spaced fun word hword => (hnames word hword).isPlain.isWord
    refine .step (isLine_header (by simp) hnames) ?_ (.stop _)
    have hsection : Section.ofName? "output_stream".toList = some (.interface .stream) := by
      decide
    simp only [hstep, openNext, hwords, List.map_cons, List.map_nil, List.head?_cons,
      Option.getD_some, hsection]
    simp
  have hrows : Leads
      ⟨.interface .stream,
        { description with streams := description.streams ++ [⟨stream.name, []⟩] }⟩
      (stream.outputs.map (·.described))
      ⟨.interface .stream,
        { description with streams := description.streams ++ [stream] }⟩ := by
    refine leads_rows (fun earlier => { description with
        streams := description.streams ++ [⟨stream.name, earlier⟩] }) rfl
      (fun v hv => Variable.isContent_described (h v hv).1) ?_
    intro v hv earlier
    rw [addLine_variable (h v hv).1 (h v hv).2]
    simp [Description.addVariable, changeLast?_append]
  exact hheader.append hrows

theorem adds_streams {streams : List OutputStream} (hnames : ∀ s ∈ streams, IsName s.name)
    (h : ∀ s ∈ streams, ∀ v ∈ s.outputs, v.IsPrintable ∧ v.type ≠ .struct "unused") :
    Adds (streams.flatMap (·.described)) description
      { description with streams := description.streams ++ streams } := by
  have hrows : Adds (streams.flatMap (·.described))
      { description with streams := description.streams ++ [] }
      { description with streams := description.streams ++ streams } := by
    refine rows_induction (R := Adds) Adds.nil (fun h hmore => h.append hmore)
      (fun earlier => { description with streams := description.streams ++ earlier }) ?_
    intro earlier stream later hsplit
    have hmem : stream ∈ streams := by simp [hsplit]
    rw [← List.append_assoc]
    exact adds_stream (hnames stream hmem) (h stream hmem)
  rwa [List.append_nil] at hrows

/-! ## Bindings -/

theorem adds_samplers {samplers : List SamplerBinding} (h : ∀ s ∈ samplers, IsName s.name) :
    Adds (Shader.describedSection "samplers" (samplers.map (·.described))) description
      { description with samplers := description.samplers ++ samplers } := by
  refine adds_rows .samplers (by decide) (by decide) (by decide) rfl
    (fun earlier => { description with samplers := description.samplers ++ earlier }) (by simp)
    (fun s hs => SamplerBinding.isContent_described (h s hs)) ?_
  intro s hs earlier
  simp [Description.addLine, SamplerBinding.readSampler_described (h s hs)]

theorem adds_readViews (views : List ViewBinding) (h : ∀ view ∈ views, view.IsPrintable) :
    Adds (Shader.describedSection "srvs" (views.map (·.described))) description
      { description with readViews := description.readViews ++ views } := by
  refine adds_rows .readViews (by decide) (by decide) (by decide) rfl
    (fun earlier => { description with readViews := description.readViews ++ earlier }) (by simp)
    (fun view hview => ViewBinding.isContent_described (h view hview)) ?_
  intro view hview earlier
  simp [Description.addLine, ViewBinding.readView_described (h view hview)]

theorem adds_writeViews (views : List ViewBinding) (h : ∀ view ∈ views, view.IsPrintable) :
    Adds (Shader.describedSection "uavs" (views.map (·.described))) description
      { description with writeViews := description.writeViews ++ views } := by
  refine adds_rows .writeViews (by decide) (by decide) (by decide) rfl
    (fun earlier => { description with writeViews := description.writeViews ++ earlier }) (by simp)
    (fun view hview => ViewBinding.isContent_described (h view hview)) ?_
  intro view hview earlier
  simp [Description.addLine, ViewBinding.readView_described (h view hview)]

theorem adds_fixedSampling {pairs : List FixedSampling}
    (h : ∀ pair ∈ pairs, IsName pair.view ∧ IsName pair.sampler) :
    Adds (Shader.describedSection "fixed_sampling" (pairs.map (·.described))) description
      { description with fixedSampling := description.fixedSampling ++ pairs } := by
  refine adds_rows .fixedSampling (by decide) (by decide) (by decide) rfl
    (fun earlier => { description with fixedSampling := description.fixedSampling ++ earlier })
    (by simp) (fun pair hpair =>
      FixedSampling.isContent_described (h pair hpair).1 (h pair hpair).2) ?_
  intro pair hpair earlier
  rw [Description.addLine, addFixedSampling_described (h pair hpair).1 (h pair hpair).2,
    List.append_assoc]

/-! ## Structures and uniform buffers -/

/-- The section of structures with one structure more. -/
theorem leads_structure {structure_ : Structure} (h : structure_.IsPrintable)
    (hopening : ∀ field ∈ structure_.members, field.type ≠ .struct "struct") :
    Leads ⟨.structures, description⟩ structure_.described
      ⟨.structures,
        { description with structures := description.structures ++ [structure_] }⟩ := by
  have hheader : Leads ⟨.structures, description⟩ [spaced ["struct", structure_.name]]
      ⟨.structures,
        { description with structures := description.structures ++ [⟨structure_.name, []⟩] }⟩ := by
    have hline : IsContent (spaced ["struct", structure_.name]).toList := by
      refine isContent_spaced (by simp) ?_
      intro word hword
      simp only [List.mem_cons, List.not_mem_nil, or_false] at hword
      rcases hword with rfl | rfl
      · exact isWord_of_isIdentifier (by decide)
      · exact h.name.isPlain.isWord
    have hstart : Text.afterStart? "struct ".toList (spaced ["struct", structure_.name]).toList =
        some (spaced [structure_.name]).toList :=
      afterStart?_spaced "struct" (by decide) (by simp)
    refine leads_content rfl hline ?_
    simp only [Description.addLine, Description.addStructureLine, hstart, toList_spaced_singleton,
      h.name.isPlain.trim, h.name.readIdentifier, ok_bind, pure_eq_ok]
  have hmembers : Leads
      ⟨.structures,
        { description with structures := description.structures ++ [⟨structure_.name, []⟩] }⟩
      (structure_.members.map fun field => describedMember field.type field.name)
      ⟨.structures,
        { description with structures := description.structures ++ [structure_] }⟩ := by
    refine leads_rows (fun earlier => { description with
        structures := description.structures ++ [⟨structure_.name, earlier⟩] }) rfl
      (fun field hfield => isContent_describedMember (h.members field hfield)) ?_
    intro field hfield earlier
    have hnone : Text.afterStart? "struct ".toList
        (describedMember field.type field.name).toList = none :=
      afterStart?_describedMember (h.members field hfield) "struct" (by decide) rfl (by decide)
        (hopening field hfield)
    simp only [Description.addLine, Description.addStructureLine, hnone,
      readField_describedMember (h.members field hfield), ok_bind, changeLast?_append,
      pure_eq_ok]
  exact hheader.append hmembers

theorem adds_structures {structures : List Structure} (h : ∀ s ∈ structures, s.IsPrintable)
    (hopening : ∀ s ∈ structures, ∀ field ∈ s.members, field.type ≠ .struct "struct") :
    Adds (Shader.describedSection "structures" (structures.flatMap (·.described))) description
      { description with structures := description.structures ++ structures } := by
  refine adds_section .structures (by decide) (by decide) (by decide) ?_
  have hrows : Leads ⟨.structures, { description with structures := description.structures ++ [] }⟩
      (structures.flatMap (·.described))
      ⟨.structures, { description with structures := description.structures ++ structures }⟩ := by
    refine leads_flatMap
      (fun earlier => { description with structures := description.structures ++ earlier }) ?_
    intro structure_ hmem earlier
    rw [← List.append_assoc]
    exact leads_structure (h structure_ hmem) (hopening structure_ hmem)
  rwa [List.append_nil] at hrows

/-- A uniform buffer without the offsets of its members. -/
def draft (buffer : UniformBuffer) : BufferDraft :=
  ⟨buffer.name, buffer.slot, buffer.members.map fun member => ⟨member.type, member.name⟩⟩

/-- The section of uniform buffers with one uniform buffer more. -/
theorem leads_uniformBuffer {buffer : UniformBuffer} (h : buffer.IsPrintable)
    (hopening : ∀ member ∈ buffer.members, member.type ≠ .struct "ubuffer") :
    Leads ⟨.uniformBuffers, description⟩ buffer.described
      ⟨.uniformBuffers,
        { description with uniformBuffers := description.uniformBuffers ++ [draft buffer] }⟩ := by
  have hheader : Leads ⟨.uniformBuffers, description⟩
      [spaced ["ubuffer", buffer.name, ":", toString buffer.slot]]
      ⟨.uniformBuffers, { description with
        uniformBuffers := description.uniformBuffers ++ [⟨buffer.name, buffer.slot, []⟩] }⟩ := by
    have hline : IsContent (spaced ["ubuffer", buffer.name, ":", toString buffer.slot]).toList := by
      refine isContent_spaced (by simp) ?_
      intro word hword
      rcases List.mem_cons.mp hword with rfl | hword
      · exact isWord_of_isIdentifier (by decide)
      · exact isWord_of_mem_namedSlot h.name hword
    have hstart : Text.afterStart? "ubuffer ".toList
        (spaced ["ubuffer", buffer.name, ":", toString buffer.slot]).toList =
          some (spaced [buffer.name, ":", toString buffer.slot]).toList :=
      afterStart?_spaced "ubuffer" (by decide) (by simp)
    refine leads_content rfl hline ?_
    simp only [Description.addLine, Description.addUniformLine, hstart,
      readNamedSlot_spaced h.name, ok_bind, pure_eq_ok]
  have hmembers : Leads
      ⟨.uniformBuffers, { description with
        uniformBuffers := description.uniformBuffers ++ [⟨buffer.name, buffer.slot, []⟩] }⟩
      (buffer.members.map fun member => describedMember member.type member.name)
      ⟨.uniformBuffers,
        { description with uniformBuffers := description.uniformBuffers ++ [draft buffer] }⟩ := by
    refine leads_rows (fun earlier => { description with uniformBuffers :=
        description.uniformBuffers ++ [draft { buffer with members := earlier }] }) rfl
      (fun member hmember => isContent_describedMember (h.members member hmember)) ?_
    intro member hmember earlier
    have hnone : Text.afterStart? "ubuffer ".toList
        (describedMember member.type member.name).toList = none :=
      afterStart?_describedMember (h.members member hmember) "ubuffer" (by decide) rfl (by decide)
        (hopening member hmember)
    simp only [Description.addLine, Description.addUniformLine, hnone,
      readField_describedMember (h.members member hmember), ok_bind, changeLast?_append, draft,
      List.map_append, List.map_cons, List.map_nil, pure_eq_ok]
  exact hheader.append hmembers

theorem adds_uniformBuffers {buffers : List UniformBuffer} (h : ∀ b ∈ buffers, b.IsPrintable)
    (hopening : ∀ b ∈ buffers, ∀ member ∈ b.members, member.type ≠ .struct "ubuffer") :
    Adds (Shader.describedSection "ubuffers" (buffers.flatMap (·.described))) description
      { description with uniformBuffers := description.uniformBuffers ++ buffers.map draft } := by
  refine adds_section .uniformBuffers (by decide) (by decide) (by decide) ?_
  have hrows : Leads
      ⟨.uniformBuffers,
        { description with uniformBuffers := description.uniformBuffers ++ [].map draft }⟩
      (buffers.flatMap (·.described))
      ⟨.uniformBuffers,
        { description with
          uniformBuffers := description.uniformBuffers ++ buffers.map draft }⟩ := by
    refine leads_flatMap (fun earlier => { description with
      uniformBuffers := description.uniformBuffers ++ earlier.map draft }) ?_
    intro buffer hmem earlier
    rw [List.map_append, ← List.append_assoc]
    exact leads_uniformBuffer (h buffer hmem) (hopening buffer hmem)
  rwa [List.map_nil, List.append_nil] at hrows

/-! ## Code -/

/-- A line of code that does not look like the header of a section. -/
structure IsCodeLine (line : String) : Prop where
  isLine : IsLine line.toList
  noHeader : line.toList.head? = some '%' → namesSection line.toList.tail = false

instance (line : String) : Decidable (IsCodeLine line) :=
  decidable_of_iff (IsLine line.toList ∧
      (line.toList.head? = some '%' → namesSection line.toList.tail = false))
    ⟨fun h => ⟨h.1, h.2⟩, fun h => ⟨h.isLine, h.noHeader⟩⟩

/-- The description with lines behind those of a block of code. -/
def putCode (description : Description) (lines : List String) : CodeBlock → Description
  | .global => { description with globalCode := description.globalCode ++ lines }
  | .patch => { description with patchCode := description.patchCode ++ lines }
  | .main => { description with mainCode := description.mainCode ++ lines }

theorem step_code {line : String} (h : IsCodeLine line) (block : CodeBlock) :
    step ⟨.code block, description⟩ line.toList =
      .ok ⟨.code block, description.addCode block line.toList⟩ := by
  have hheader : header? ⟨.code block, description⟩ line.toList = none := by
    unfold header?
    split
    · rename_i header hline
      have hnames := h.noHeader (by rw [hline]; rfl)
      rw [hline, List.tail_cons] at hnames
      simp [Section.isCode, hnames]
    · rfl
  rw [step, hheader]

/-- Code is kept as it is. -/
theorem adds_code (name : String) (block : CodeBlock) (lines : List String)
    (hname : IsName name) (hsection : Section.ofName? name.toList = some (.code block))
    (h : ∀ line ∈ lines, IsCodeLine line) :
    Adds (Shader.describedSection name lines) description (putCode description lines block) := by
  refine adds_section (.code block) hname hsection (by simp) ?_
  have hrows : Leads ⟨.code block, putCode description [] block⟩ (lines.flatMap fun line => [line])
      ⟨.code block, putCode description lines block⟩ := by
    refine leads_flatMap (putCode description · block) ?_
    intro line hline earlier
    refine .step (h line hline).isLine (step_code (h line hline) block) ?_
    cases block <;> simp [putCode, Description.addCode, Leads.stop]
  have hnil : putCode description [] block = description := by
    cases block <;> simp [putCode]
  rwa [hnil, List.flatMap_singleton'] at hrows

end Reading

end CrossShade
