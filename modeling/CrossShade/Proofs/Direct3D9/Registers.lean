import CrossShade.Direct3D9.Semantic
import CrossShade.Proofs.Hlsl.Semantics
import CrossShade.Proofs.Outcome
import CrossShade.Proofs.Runs
import CrossShade.Proofs.Shader.Building

/-!
# Registers of shader model three

Which registers the variables of an interface claim by their annotations, and when two of them claim
the same.

* `lookup_semanticsFrom` says which number is the next when a variable gets its annotation: a
  variable without a semantic takes `TEXCOORD` registers from `runStart` on.
* `annotated_of_unnamed` reads such an annotation back, and `claim_of_unnamed` says what it claims.
* `apart_iff` is the conclusion: numbers that are handed out never meet each other, only
  `TEXCOORD` registers that a shader names.
-/

namespace CrossShade.Direct3D9

open Hlsl

/-! ## What is claimed -/

/-- What a pixel shader puts behind the semantic of a value that is taken at the centroid, in upper
case. -/
def centroidEnding : List Char :=
  "_CENTROID".toList

/-- An annotation without that ending. -/
def withoutCentroid (text : List Char) : List Char :=
  if centroidEnding <:+ text.map Char.toUpper then text.take (text.length - centroidEnding.length)
  else text

/-- The register that an annotation names. -/
def annotated (text : String) : Semantic :=
  Semantic.read (String.ofList (withoutCentroid text.toList))

/-- The registers that a variable claims: from the one that it is annotated with on, one for each
element of its type. -/
def claim (semantics : List (String × String)) (v : Variable) : List (String × Nat) :=
  match semantics.lookup v.name with
  | none => []
  | some text =>
    let first := annotated text
    (List.range (registers v).toNat).map fun e => (first.name, first.number + e)

/-- No two of some variables claim the same register. -/
def Apart (semantics : List (String × String)) (vars : List Variable) : Prop :=
  vars.Pairwise fun v w => (claim semantics v).Disjoint (claim semantics w)

/-- The variables whose semantic the description names. -/
def named (vars : List Variable) : List Variable :=
  vars.filter (·.semantic.isSome)

/-! ## Numbering -/

namespace Interface

variable {interface : Interface} {next : UInt32} {vars : List Variable} {v : Variable}
  {semantics : List (String × String)} {text : String} {i : Nat}

/-- How many registers the numbering of an interface counts for a variable. -/
def counted (interface : Interface) (v : Variable) : Nat :=
  if (if interface = .vertexInput then v.isUsed else v.semantic.isNone) then (registers v).toNat
  else 0

/-- A variable that is used and unnamed is counted everywhere. -/
theorem counted_of_unnamed (hused : v.isUsed = true) (hnone : v.semantic = none) :
    interface.counted v = (registers v).toNat := by
  simp [counted, hused, hnone]

theorem counted_of_skipped (h : (interface = .vertexInput && !v.isUsed) = true) :
    interface.counted v = 0 := by
  simp only [Bool.and_eq_true, decide_eq_true_eq, Bool.not_eq_true'] at h
  simp [counted, h.1, h.2]

theorem after_eq (h : ¬(interface = .vertexInput && !v.isUsed) = true) :
    interface.after next v = next + UInt32.ofNat (interface.counted v) := by
  unfold after counted
  by_cases hinput : interface = .vertexInput
  · have hused : v.isUsed = true := by simpa [hinput] using h
    simp [hinput, hused]
  · cases hnone : v.semantic <;> simp [hinput]

/-- The annotation of a used variable is the one for the number that the variables before it have
left. -/
theorem lookup_semanticsFrom (h : interface.semanticsFrom next vars = .ok semantics)
    (hnames : (vars.map (·.name)).Nodup) (hv : vars[i]? = some v) (hused : v.isUsed = true) :
    ∃ text, interface.semantic (next + UInt32.ofNat (runStart interface.counted vars i)) v =
      .ok text ∧ semantics.lookup v.name = some text := by
  induction vars generalizing next semantics i with
  | nil => simp at hv
  | cons first rest ih =>
    obtain ⟨hfresh, hrest⟩ := List.nodup_cons.mp hnames
    cases i with
    | zero =>
      simp only [List.getElem?_cons_zero, Option.some.injEq] at hv
      subst hv
      simp only [semanticsFrom, hused, Bool.not_true, Bool.and_false, Bool.false_eq_true, if_false,
        if_true] at h
      split at h
      · rename_i text hgiven
        simp only [bind_eq_ok, pure_eq_ok] at h
        obtain ⟨following, -, rfl⟩ := h
        exact ⟨text, by simpa using hgiven, by simp⟩
      · cases h
    | succ i =>
      have hv : rest[i]? = some v := by simpa using hv
      have hother : v.name ≠ first.name := by
        intro hsame
        exact hfresh (List.mem_map.mpr ⟨v, List.mem_of_getElem? hv, hsame⟩)
      rw [semanticsFrom] at h
      rw [runStart_cons_succ, UInt32.ofNat_add, ← UInt32.add_assoc]
      split at h
      · rename_i hskipped
        have hsame : next + UInt32.ofNat 0 = next := UInt32.add_zero next
        rw [counted_of_skipped hskipped, hsame]
        exact ih h hrest hv
      · -- annotated or not, the variable is counted before the rest gets its numbers
        rename_i hkept
        rw [← after_eq hkept]
        split at h
        · simp only [bind_eq_ok, pure_eq_ok] at h
          obtain ⟨following, hfollowing, rfl⟩ := h
          obtain ⟨text, hgiven, hlookup⟩ := ih hfollowing hrest hv
          refine ⟨text, hgiven, ?_⟩
          rw [List.lookup_cons, beq_eq_false_iff_ne.mpr hother]
          exact hlookup
        · split at h
          · cases h
          · exact ih h hrest hv

/-- What stands behind the register in the annotation of a variable: the pixel shader says so if it
takes a value at the centroid. -/
def ending (interface : Interface) (v : Variable) : String :=
  if interface = .pixelInput ∧ v.isSystemValue = false ∧ v.interpolation = .centroid then
    "_centroid"
  else ""

theorem interpolated_eq_ok {register : String}
    (h : interface.interpolated v register = .ok text) : text = register ++ interface.ending v := by
  unfold interpolated at h
  split at h
  · rename_i hplain
    have hending : interface.ending v = "" := by
      refine if_neg fun hcentroid => ?_
      rw [hcentroid.1, hcentroid.2.1] at hplain
      exact absurd hplain (by decide)
    rw [hending, String.append_empty]
    exact (Except.ok.inj h).symm
  · rename_i hvarying
    have hsystem : v.isSystemValue = false :=
      (Bool.or_eq_false_iff.mp (Bool.eq_false_iff.mpr hvarying)).2
    split at h
    · cases h
    · split at h <;> rename_i hmode
      · simpa [ending, hmode] using (Except.ok.inj h).symm
      · simpa [ending, hmode] using (Except.ok.inj h).symm
      · have htext := (Except.ok.inj h).symm
        by_cases hpixel : interface = .pixelInput <;>
          simpa [ending, hmode, hsystem, hpixel] using htext
      · cases h

theorem register_of_unnamed {register : String} (hnone : v.semantic = none)
    (h : interface.register next v = .ok register) : register = s!"TEXCOORD{next}" := by
  rw [Interface.register, hnone] at h
  dsimp only at h
  split at h
  · cases h
  · exact (Except.ok.inj h).symm

/-- A variable without a semantic is annotated with the next register. -/
theorem semantic_of_unnamed (hnone : v.semantic = none)
    (h : interface.semantic next v = .ok text) :
    text = s!"TEXCOORD{next}" ++ interface.ending v := by
  obtain ⟨register, hregister, h⟩ := bind_eq_ok.mp h
  rw [← register_of_unnamed hnone hregister]
  exact interpolated_eq_ok h

end Interface

/-! ## Reading annotations -/

theorem withoutCentroid_append (text : List Char) :
    withoutCentroid (text ++ "_centroid".toList) = text := by
  have hending : "_centroid".toList.map Char.toUpper = centroidEnding := by decide
  have hlength : (text ++ "_centroid".toList).length - centroidEnding.length = text.length := by
    rw [List.length_append, ← hending, List.length_map, Nat.add_sub_cancel]
  rw [withoutCentroid, if_pos, hlength, List.take_left]
  rw [List.map_append, hending]
  exact List.suffix_append _ _

/-- What ends in a digit does not say where a value is taken. -/
theorem withoutCentroid_of_digit {text : List Char} {c : Char} (hlast : text.getLast? = some c)
    (hdigit : c.isDigit = true) : withoutCentroid text = text := by
  rw [withoutCentroid, if_neg]
  rintro ⟨before, hbefore⟩
  have hends := congrArg List.getLast? hbefore
  rw [List.getLast?_append, List.getLast?_map, hlast, Option.map_some,
    Text.toUpper_of_isDigit hdigit] at hends
  have hletter : 'D' = c := Option.some.inj hends
  rw [← hletter] at hdigit
  exact absurd hdigit (by decide)

theorem annotated_numbered (n : UInt32) :
    annotated s!"TEXCOORD{n}" = ⟨"TEXCOORD", n.toNat⟩ ∧
      annotated (s!"TEXCOORD{n}" ++ "_centroid") = ⟨"TEXCOORD", n.toNat⟩ := by
  have htext : (s!"TEXCOORD{n}").toList = "TEXCOORD".toList ++ Nat.toDigits 10 n.toNat := by
    rw [← Text.toList_toString_uint32, ← String.toList_append]
    rfl
  have hlast : (s!"TEXCOORD{n}").toList.getLast? =
      some ((Nat.toDigits 10 n.toNat).getLast Nat.toDigits_ne_nil) := by
    rw [htext, List.getLast?_append_of_ne_nil _ Nat.toDigits_ne_nil,
      List.getLast?_eq_some_getLast Nat.toDigits_ne_nil]
  have hdigit := Nat.isDigit_of_mem_toDigits (by decide) (by decide)
    (List.getLast_mem (Nat.toDigits_ne_nil (b := 10) (n := n.toNat)))
  have hread : Semantic.read s!"TEXCOORD{n}" = ⟨"TEXCOORD", n.toNat⟩ :=
    Semantic.read_numbered "TEXCOORD" (by decide) n
  constructor
  · rw [annotated, withoutCentroid_of_digit hlast hdigit, String.ofList_toList, hread]
  · rw [annotated, String.toList_append, withoutCentroid_append, String.ofList_toList, hread]

theorem annotated_of_unnamed {interface : Interface} {next : UInt32} {v : Variable}
    {text : String} (hnone : v.semantic = none)
    (h : interface.semantic next v = .ok text) :
    annotated text = ⟨"TEXCOORD", next.toNat⟩ := by
  rw [Interface.semantic_of_unnamed hnone h]
  unfold Interface.ending
  split
  · exact (annotated_numbered next).2
  · rw [String.append_empty]
    exact (annotated_numbered next).1

/-! ## Claims -/

section Claims

variable {interface : Interface} {vars : List Variable} {v : Variable}
  {semantics : List (String × String)} {i : Nat}

theorem mem_claim {text : String} (hlookup : semantics.lookup v.name = some text)
    {e : Nat} (he : e < (registers v).toNat) :
    ((annotated text).name, (annotated text).number + e) ∈ claim semantics v := by
  rw [claim, hlookup]
  exact List.mem_map.mpr ⟨e, List.mem_range.mpr he, rfl⟩

theorem semanticsFrom_of_semantics (h : interface.semantics vars = .ok semantics) :
    interface.semanticsFrom 0 vars = .ok semantics := by
  unfold Interface.semantics at h
  cases hresult : interface.semanticsFrom 0 vars with
  | error what =>
    rw [hresult] at h
    cases h
  | ok found =>
    rw [hresult] at h
    cases h
    rfl

/-- What a used variable without a semantic claims: `TEXCOORD` registers, after those that are
counted for the variables before it. -/
theorem claim_of_unnamed (h : interface.semantics vars = .ok semantics)
    (hnames : (vars.map (·.name)).Nodup) (hfits : runTotal interface.counted vars < UInt32.size)
    (hv : vars[i]? = some v) (hused : v.isUsed = true) (hnone : v.semantic = none) :
    claim semantics v = (List.range (registers v).toNat).map fun e =>
      ("TEXCOORD", runStart interface.counted vars i + e) := by
  obtain ⟨text, hgiven, hlookup⟩ :=
    Interface.lookup_semanticsFrom (semanticsFrom_of_semantics h) hnames hv hused
  have hstart : runStart interface.counted vars i < UInt32.size :=
    Nat.lt_of_le_of_lt (Nat.le_of_add_right_le (add_width_le_runTotal hv)) hfits
  have hread := annotated_of_unnamed hnone hgiven
  rw [UInt32.zero_add, UInt32.toNat_ofNat_of_lt' hstart] at hread
  rw [claim, hlookup]
  simp only [hread]

/-- Registers that are handed out to different variables are different. -/
theorem disjoint_of_unnamed (h : interface.semantics vars = .ok semantics)
    (hnames : (vars.map (·.name)).Nodup) (hfits : runTotal interface.counted vars < UInt32.size) :
    (usedVariables vars).Pairwise fun v w => v.semantic = none → w.semantic = none →
      (claim semantics v).Disjoint (claim semantics w) := by
  rw [usedVariables, List.pairwise_filter, List.pairwise_iff_getElem]
  intro i j hi hj hlt hused hused' hnone hnone'
  have hv := List.getElem?_eq_getElem hi
  have hw := List.getElem?_eq_getElem hj
  have hle : runStart interface.counted vars i + interface.counted vars[i] ≤
      runStart interface.counted vars j := runStart_add_width_le hv hlt
  rw [Interface.counted_of_unnamed hused hnone] at hle
  rw [claim_of_unnamed h hnames hfits hv hused hnone,
    claim_of_unnamed h hnames hfits hw hused' hnone']
  rintro register hfirst hsecond
  obtain ⟨e, he, rfl⟩ := List.mem_map.mp hfirst
  obtain ⟨e', he', hsame⟩ := List.mem_map.mp hsecond
  have hregister := congrArg Prod.snd hsame
  rw [List.mem_range] at he he'
  dsimp only at hregister
  omega

/-- What a variable without a semantic claims is a `TEXCOORD` register of the numbering. -/
theorem of_mem_claim_of_unnamed (h : interface.semantics vars = .ok semantics)
    (hnames : (vars.map (·.name)).Nodup) (hfits : runTotal interface.counted vars < UInt32.size)
    (hv : v ∈ usedVariables vars) (hnone : v.semantic = none) {register : String × Nat}
    (hregister : register ∈ claim semantics v) :
    register.1 = "TEXCOORD" ∧ register.2 < runTotal interface.counted vars := by
  obtain ⟨hmem, hused⟩ := List.mem_filter.mp hv
  obtain ⟨i, hi⟩ := List.getElem?_of_mem hmem
  rw [claim_of_unnamed h hnames hfits hi hused hnone] at hregister
  obtain ⟨e, he, rfl⟩ := List.mem_map.mp hregister
  have hle : runStart interface.counted vars i + interface.counted v ≤
      runTotal interface.counted vars := add_width_le_runTotal hi
  rw [Interface.counted_of_unnamed hused hnone] at hle
  exact ⟨rfl, Nat.lt_of_lt_of_le (Nat.add_lt_add_left (List.mem_range.mp he) _) hle⟩

/-- Variables without a semantic are apart, so it is enough to look at the others. -/
theorem apart_of_apart_named (h : interface.semantics vars = .ok semantics)
    (hnames : (vars.map (·.name)).Nodup) (hfits : runTotal interface.counted vars < UInt32.size)
    (hnamed : Apart semantics (named (usedVariables vars)))
    (hmixed : ∀ v ∈ usedVariables vars, v.semantic = none → ∀ w ∈ named (usedVariables vars),
      ∀ n, ("TEXCOORD", n) ∈ claim semantics v → ("TEXCOORD", n) ∉ claim semantics w) :
    Apart semantics (usedVariables vars) := by
  have hdisjoint : ∀ v ∈ usedVariables vars, v.semantic = none →
      ∀ w ∈ usedVariables vars, w.semantic ≠ none →
      (claim semantics v).Disjoint (claim semantics w) := by
    rintro v hv hnone w hw hsome ⟨name, n⟩ hfirst hsecond
    obtain ⟨rfl, -⟩ := of_mem_claim_of_unnamed h hnames hfits hv hnone hfirst
    have hmem : w ∈ named (usedVariables vars) :=
      List.mem_filter.mpr ⟨hw, Option.isSome_iff_ne_none.mpr hsome⟩
    exact hmixed v hv hnone w hmem n hfirst hsecond
  have hboth := (disjoint_of_unnamed h hnames hfits).and (List.pairwise_filter.mp hnamed)
  refine hboth.imp_of_mem fun {v w} hv hw hcases => ?_
  by_cases hnone : v.semantic = none
  · by_cases hnone' : w.semantic = none
    · exact hcases.1 hnone hnone'
    · exact hdisjoint v hv hnone w hw hnone'
  · by_cases hnone' : w.semantic = none
    · exact (hdisjoint w hw hnone' v hv hnone).symm
    · exact hcases.2 (Option.isSome_iff_ne_none.mpr hnone) (Option.isSome_iff_ne_none.mpr hnone')

/-- The registers that the variables of an interface claim are all different if and only if those
are that a description names, and none of them is a `TEXCOORD` register that is handed out to a
variable without a semantic.  Such a variable takes the registers after those that are counted for
the variables before it, so they never meet each other, nor registers beyond the numbering. -/
theorem apart_iff {name : String} {stage : Stage} {additions : List Addition}
    {shader : Shader} (hbuild : Shader.build name stage additions = .ok shader)
    (hvars : vars ∈ shader.variableLists) (h : interface.semantics vars = .ok semantics)
    (hfits : runTotal interface.counted vars < UInt32.size) :
    (∀ i v, vars[i]? = some v → v.isUsed = true → v.semantic = none →
      claim semantics v = (List.range (registers v).toNat).map fun e =>
        ("TEXCOORD", runStart interface.counted vars i + e)) ∧
    (Apart semantics (usedVariables vars) ↔
      Apart semantics (named (usedVariables vars)) ∧
      ∀ v ∈ usedVariables vars, v.semantic = none → ∀ w ∈ named (usedVariables vars),
        ∀ n, ("TEXCOORD", n) ∈ claim semantics v → ("TEXCOORD", n) ∉ claim semantics w) ∧
    ((∀ w ∈ named (usedVariables vars), ∀ n, ("TEXCOORD", n) ∈ claim semantics w →
        runTotal interface.counted vars ≤ n) →
      Apart semantics (named (usedVariables vars)) → Apart semantics (usedVariables vars)) := by
  have hnames := Shader.nodup_names_of_build hbuild hvars
  refine ⟨fun i v hv hused hnone => claim_of_unnamed h hnames hfits hv hused hnone, ?_, ?_⟩
  · constructor
    · intro hapart
      refine ⟨hapart.filter _, fun v hv hnone w hw n hfirst hsecond => ?_⟩
      obtain ⟨hmem, hsome⟩ := List.mem_filter.mp hw
      have hne : v ≠ w := by
        rintro rfl
        rw [hnone] at hsome
        cases hsome
      have hsymm : Std.Symm fun v w => (claim semantics v).Disjoint (claim semantics w) :=
        ⟨fun v w hdisjoint => hdisjoint.symm⟩
      exact hapart.forall hv hmem hne hfirst hsecond
    · rintro ⟨hnamed, hmixed⟩
      exact apart_of_apart_named h hnames hfits hnamed hmixed
  · intro hbeyond hnamed
    refine apart_of_apart_named h hnames hfits hnamed fun v hv hnone w hw n hfirst hsecond => ?_
    have hless := (of_mem_claim_of_unnamed h hnames hfits hv hnone hfirst).2
    exact Nat.not_lt_of_le (hbeyond w hw n hsecond) hless

end Claims

/-- A vertex shader with some inputs. -/
def lit (inputs : List Variable) : Shader :=
  { name := "Lit", stage := .vertex, input := inputs }

/-- Inputs of which one names a register beyond the six that are counted. -/
def spreadInputs : List Variable :=
  [{ type := .matrix .float 4 3, name := "World" },
    { type := .vector .float 2, name := "Detail", semantic := "texcoord6" },
    { type := .float4, name := "Tint", semantic := "COLOR" },
    { type := .vector .float 2, name := "Uv" }]

/-- Their annotations. -/
def spreadSemantics : List (String × String) :=
  [("World", "TEXCOORD0"), ("Detail", "texcoord6"), ("Tint", "COLOR"), ("Uv", "TEXCOORD5")]

theorem apart_iff_spreadInputs :
    Shader.build "Lit" .vertex (lit spreadInputs).additions = .ok (lit spreadInputs) ∧
      spreadInputs ∈ (lit spreadInputs).variableLists ∧
      Interface.vertexInput.semantics spreadInputs = .ok spreadSemantics ∧
      runTotal Interface.vertexInput.counted spreadInputs < UInt32.size ∧
      Apart spreadSemantics (usedVariables spreadInputs) := by
  have hbuild : Shader.build "Lit" .vertex (lit spreadInputs).additions =
      .ok (lit spreadInputs) := by
    decide +kernel
  have hvars : spreadInputs ∈ (lit spreadInputs).variableLists := by decide +kernel
  have hsemantics : Interface.vertexInput.semantics spreadInputs = .ok spreadSemantics := by
    decide +kernel
  have hfits : runTotal Interface.vertexInput.counted spreadInputs < UInt32.size := by
    decide +kernel
  refine ⟨hbuild, hvars, hsemantics, hfits,
    (apart_iff hbuild hvars hsemantics hfits).2.2 (fun w hw n hn => ?_) ?_⟩
  · have hbeyond : ∀ w ∈ named (usedVariables spreadInputs),
        ∀ register ∈ claim spreadSemantics w, register.1 = "TEXCOORD" →
          runTotal Interface.vertexInput.counted spreadInputs ≤ register.2 := by
      decide +kernel
    exact hbeyond w hw _ hn rfl
  · have hclaims : (named (usedVariables spreadInputs)).map (claim spreadSemantics) =
        [[("TEXCOORD", 6)], [("COLOR", 0)]] := by
      decide +kernel
    have hpairs : ((named (usedVariables spreadInputs)).map (claim spreadSemantics)).Pairwise
        List.Disjoint := by
      rw [hclaims]
      simp
    exact List.pairwise_map.mp hpairs

/-- Inputs of which one names the register that is handed out to the other. -/
def doubledInputs : List Variable :=
  [{ type := .vector .float 2, name := "Uv" },
    { type := .vector .float 2, name := "Detail", semantic := "TEXCOORD0" }]

/-- Their annotations. -/
def doubledSemantics : List (String × String) :=
  [("Uv", "TEXCOORD0"), ("Detail", "TEXCOORD0")]

/-- An input that takes all but one of the numbers of thirty-two bits. -/
def countlessRows : Variable :=
  { type := .array .float4 (.fixed 4294967295), name := "Rows" }

/-- Inputs that take more registers than there are such numbers. -/
def countlessInputs : List Variable :=
  [countlessRows, { type := .array .float4 (.fixed 2), name := "Pair" },
    { type := .float4, name := "Last" }]

/-- Their annotations. -/
def countlessSemantics : List (String × String) :=
  [("Rows", "TEXCOORD0"), ("Pair", "TEXCOORD4294967295"), ("Last", "TEXCOORD1")]

/-- A register that is named may be handed out as well, although the named ones are apart; and when
the numbers start again at zero, registers are handed out twice. -/
theorem not_apart_of_apart_named :
    (Shader.build "Lit" .vertex (lit doubledInputs).additions = .ok (lit doubledInputs) ∧
      Interface.vertexInput.semantics doubledInputs = .ok doubledSemantics ∧
      Apart doubledSemantics (named (usedVariables doubledInputs)) ∧
      ¬Apart doubledSemantics (usedVariables doubledInputs)) ∧
    Shader.build "Lit" .vertex (lit countlessInputs).additions = .ok (lit countlessInputs) ∧
      Interface.vertexInput.semantics countlessInputs = .ok countlessSemantics ∧
      Apart countlessSemantics (named (usedVariables countlessInputs)) ∧
      ¬Apart countlessSemantics (usedVariables countlessInputs) := by
  refine ⟨⟨by decide +kernel, by decide +kernel, List.pairwise_singleton .., fun hapart => ?_⟩,
    by decide +kernel, by decide +kernel, List.Pairwise.nil, fun hapart => ?_⟩
  · have hclaims : (usedVariables doubledInputs).map (claim doubledSemantics) =
        [[("TEXCOORD", 0)], [("TEXCOORD", 0)]] := by
      decide +kernel
    have hpairs := List.pairwise_map.mpr hapart
    rw [hclaims] at hpairs
    exact List.rel_of_pairwise_cons hpairs List.mem_cons_self List.mem_cons_self List.mem_cons_self
  · -- the range of the first claim is too long to be written out
    have hrows : ("TEXCOORD", 1) ∈ claim countlessSemantics countlessRows := by
      have hread : annotated "TEXCOORD0" = ⟨"TEXCOORD", 0⟩ := by decide +kernel
      have hlookup : countlessSemantics.lookup countlessRows.name = some "TEXCOORD0" := rfl
      have hmem := mem_claim hlookup (e := 1) (by decide +kernel)
      rwa [hread] at hmem
    have hlast : ("TEXCOORD", 1) ∈ claim countlessSemantics
        { type := .float4, name := "Last" } := by
      decide +kernel
    have hused : usedVariables countlessInputs =
        [countlessRows, { type := .array .float4 (.fixed 2), name := "Pair" },
          { type := .float4, name := "Last" }] := by
      decide +kernel
    rw [hused] at hapart
    exact List.rel_of_pairwise_cons hapart (List.mem_cons_of_mem _ List.mem_cons_self) hrows hlast

end CrossShade.Direct3D9
