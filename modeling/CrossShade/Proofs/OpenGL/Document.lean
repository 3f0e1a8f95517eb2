import CrossShade.OpenGL.Source
import CrossShade.Proofs.Outcome

/-!
# Parts of a GLSL text

What a finished source text was put together from, and that nothing of it is lost.

* `parts_of_source` and `resources_eq_ok_iff` take a text apart.
* `receive_cases` and `pass_cases` say all that a transfer can be.
-/

namespace CrossShade.OpenGL

variable {shader : Shader} {version : Version} {text : Source} {items : List Source.Item}

/-- Resources are there when every part of them could be declared. -/
theorem resources_eq_ok_iff : resources shader = .ok items ↔
    ∃ structures blocks readViews writeViews sampling,
      shader.structures.mapM declareStructure = .ok structures ∧
      shader.uniformBuffers.mapM declareBlock = .ok blocks ∧
      shader.readViews.mapM declareReadView = .ok readViews ∧
      shader.writeViews.mapM declareWriteView = .ok writeViews ∧
      shader.fixedSampling.mapM (samplePair shader) = .ok sampling ∧
      items = globalItems shader ++ structures.flatten ++ blocks.flatten ++
        shader.samplers.map declareSampler ++ readViews ++ writeViews ++ [.blank] ++
        sampling.flatten ++ [.blank] := by
  simp only [resources, bind_eq_ok, pure_eq_ok]
  constructor
  · rintro ⟨structures, hs, blocks, hb, readViews, hr, writeViews, hw, sampling, hf, rfl⟩
    exact ⟨structures, blocks, readViews, writeViews, sampling, hs, hb, hr, hw, hf, rfl⟩
  · rintro ⟨structures, blocks, readViews, writeViews, sampling, hs, hb, hr, hw, hf, rfl⟩
    exact ⟨structures, hs, blocks, hb, readViews, hr, writeViews, hw, sampling, hf, rfl⟩

/-- A source text was made of its opening, the resources, the interface and the entry point. -/
theorem parts_of_source (h : source version shader = .ok text) :
    ∃ resourceItems interface group, resources shader = .ok resourceItems ∧
      stageInterface shader = .ok interface ∧ threadGroup shader = .ok group ∧
      text = Source.ofItems
        ([.verbatim s!"#version {versionFor version shader}",
          .comment s!"{shader.name} ({shader.stage} shader, OpenGL)", .blank] ++ prelude_ ++
        resourceItems ++ interface.items ++
        [Source.macroOf "INPUT" ["x"] s!"{inputLocal}.x",
          Source.macroOf "OUTPUT" ["x"] s!"{outputLocal}.x", .blank] ++ group ++
        [.function { returns := "void", name := "main",
                     body := interface.body shader.mainCode }]) := by
  simp only [source] at h
  split at h
  · cases h
  · simp only [bind_eq_ok, pure_eq_ok] at h
    obtain ⟨resourceItems, hresources, interface, hinterface, group, hgroup, rfl⟩ := h
    exact ⟨resourceItems, interface, group, hresources, hinterface, hgroup, rfl⟩

/-- Every uniform buffer of a shader has its block in the source text. -/
theorem block_mem_source (h : source version shader = .ok text) {buffer : UniformBuffer}
    (hbuffer : buffer ∈ shader.uniformBuffers) :
    ∃ block, declareBlock buffer = .ok block ∧
      ∀ item ∈ block, item ≠ .blank → item ∈ text.items := by
  obtain ⟨resourceItems, interface, group, hresources, -, -, rfl⟩ := parts_of_source h
  obtain ⟨structures, blocks, readViews, writeViews, sampling, -, hblocks, -, -, -, rfl⟩ :=
    resources_eq_ok_iff.mp hresources
  obtain ⟨block, hmem, hblock⟩ := exists_mem_of_mapM_eq_ok hblocks hbuffer
  refine ⟨block, hblock, fun item hitem hne => ?_⟩
  rw [Source.mem_items_ofItems _ hne]
  have hflat : item ∈ blocks.flatten := List.mem_flatten_of_mem hmem hitem
  simp only [List.mem_append, hflat, true_or, or_true]

/-! ## Transfers -/

/-- A statement of the entry point that copies a value. -/
structure Assignment where
  destination : String
  value : String

/-- The line of the statement. -/
def Assignment.line (a : Assignment) : String :=
  s!"    {a.destination} = {a.value};"

theorem Assignment.line_mk (destination value : String) :
    (Assignment.mk destination value).line = "    " ++ destination ++ " = " ++ value ++ ";" := rfl

section Transfers

variable {v : Variable} {location : Option UInt32} {transfer : Transfer}

/-- An input is converted from a built-in variable, or it comes from a global at its location. -/
theorem receive_cases (h : receive shader v location = .ok transfer) :
    ∃ type, typeName v.type = .ok type ∧
      ((v.isSystemValue = true ∧ ∃ builtin,
          builtinInput? shader.stage (v.semanticBase?.getD "") = some builtin ∧
          transfer = ⟨none, Assignment.line ⟨s!"{inputLocal}.{v.name}", s!"{type}({builtin})"⟩⟩) ∨
        (v.isSystemValue = false ∧ ∃ first declared, location = some first ∧
          declareGlobal shader v type s!"in_{v.name}" first (shader.stage = .pixel) "in" =
            .ok declared ∧
          transfer =
            ⟨declared, Assignment.line ⟨s!"{inputLocal}.{v.name}", s!"in_{v.name}"⟩⟩)) := by
  unfold receive at h
  obtain ⟨type, htype, h⟩ := bind_eq_ok.mp h
  refine ⟨type, htype, ?_⟩
  dsimp only at h
  split at h
  · rename_i hsystem
    split at h
    · cases h
    · rename_i builtin hbuiltin
      cases h
      refine .inl ⟨hsystem, builtin, hbuiltin, ?_⟩
      simp only [Assignment.line_mk, String.append_assoc]
      rfl
  · rename_i hsystem
    split at h
    · cases h
    · rename_i first hlocation
      obtain ⟨declared, hdeclared, hpure⟩ := bind_eq_ok.mp h
      cases hpure
      refine .inr ⟨by simpa using hsystem, first, declared,
        (Option.filter_eq_some_iff.mp hlocation).1, hdeclared, ?_⟩
      simp only [Assignment.line_mk, String.append_assoc]
      rfl

/-- An output goes to a built-in variable, or to a global at its location. -/
theorem pass_cases (h : pass shader v location = .ok transfer) :
    ∃ type, typeName v.type = .ok type ∧
      ((∃ builtin, builtinOutput? shader.stage (v.semanticBase?.getD "") = some builtin ∧
          transfer = ⟨none, Assignment.line ⟨builtin, s!"{outputLocal}.{v.name}"⟩⟩) ∨
        (builtinOutput? shader.stage (v.semanticBase?.getD "") = none ∧
          ∃ first declared, location = some first ∧
          declareGlobal shader v type s!"out_{v.name}" first (shader.stage = .vertex) "out" =
            .ok declared ∧
          transfer =
            ⟨declared, Assignment.line ⟨s!"out_{v.name}", s!"{outputLocal}.{v.name}"⟩⟩)) := by
  unfold pass at h
  obtain ⟨type, htype, h⟩ := bind_eq_ok.mp h
  refine ⟨type, htype, ?_⟩
  dsimp only at h
  split at h
  · rename_i builtin hbuiltin
    cases h
    refine .inl ⟨builtin, hbuiltin, ?_⟩
    simp only [Assignment.line_mk, String.append_assoc]
    rfl
  · rename_i hbuiltin
    split at h
    · cases h
    · rename_i first hlocation
      obtain ⟨declared, hdeclared, hpure⟩ := bind_eq_ok.mp h
      cases hpure
      refine .inr ⟨hbuiltin, first, declared, (Option.filter_eq_some_iff.mp hlocation).1,
        hdeclared, ?_⟩
      simp only [Assignment.line_mk, String.append_assoc]
      rfl

end Transfers

end CrossShade.OpenGL
