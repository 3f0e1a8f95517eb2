import CrossShade.Proofs.Source.Faults

/-!
# Kinds of views that are sampled

A pair of fixed sampling names a view, and validation asks for no more than that the view is
declared.  Which kinds of views get macros is up to the target, and it is not always those that a
sampler can read.

* `Target.sampledKinds` are the kinds that get macros; `of_mem_sampledKinds` compares them with
  those that a sampler can read.
* `kind_of_source` finds the kind of a sampled view among them, for each target.
* `sampling_macros_of_build` says that a finished text has the macros of every pair, and that there
  is no text where a view is of another kind.
-/

namespace CrossShade

open Source

/-- The kinds of views that a target gives macros to. -/
def Target.sampledKinds : Target → List ResourceKind
  | .direct3D9 => [.texture1D, .texture2D, .texture3D, .textureCube]
  | .direct3D11 => ResourceKind.all.filter (· ≠ .renderbuffer)
  | .openGL => ResourceKind.all.filter fun kind => kind ≠ .renderbuffer ∧ kind ≠ .structuredBuffer

/-- Only Direct3D 9 keeps to kinds that a sampler can read.  The other targets give macros to
buffers and multisampled textures too, and Direct3D 11 even to structured buffers. -/
theorem of_mem_sampledKinds (target : Target) :
    ∀ kind ∈ target.sampledKinds, kind.isSampleable = true ∨
      (target ≠ .direct3D9 ∧ kind ∈ [.buffer, .texture2DMultisample]) ∨
      (target = .direct3D11 ∧ kind = .structuredBuffer) := by
  cases target <;> decide

/-- A pixel shader that always samples a view of some kind with one sampler. -/
def sampling (kind : ResourceKind) : Shader where
  name := "Sampling"
  stage := .pixel
  samplers := [⟨"clamped", 0, false⟩]
  readViews := [⟨"image", 0, kind, .float4⟩]
  fixedSampling := [⟨"image", "clamped"⟩]

/-- No kind is listed in vain. -/
theorem sampledKinds_sampled (target : Target) :
    ∀ kind ∈ target.sampledKinds,
      Shader.build "Sampling" .pixel (sampling kind).additions = .ok (sampling kind) ∧
        (target.source .v450 (sampling kind)).isOk = true := by
  cases target <;> decide +kernel

variable {shader : Shader} {text : Source} {view : ViewBinding} {pair : FixedSampling}

/-- The view of a pair is found. -/
theorem exists_readView? (hformed : shader.WellFormed) (hpair : pair ∈ shader.fixedSampling) :
    ∃ view ∈ shader.readViews, shader.readView? pair.view = some view := by
  obtain ⟨⟨view, hview, hname⟩, -⟩ := hformed.fixedDeclared pair hpair
  cases hfound : shader.readView? pair.view with
  | none => simpa [hname] using List.find?_eq_none.mp hfound view hview
  | some found => exact ⟨found, List.mem_of_find?_eq_some hfound, rfl⟩

/-! ## Kinds -/

/-- Direct3D sees to the kind of a view where that is declared, OpenGL where it is sampled. -/
theorem Direct3D9.kind_of_source (h : source shader = .ok text) (hview : view ∈ shader.readViews) :
    view.kind ∈ Target.direct3D9.sampledKinds := by
  simp only [source] at h
  split at h
  · cases h
  · obtain ⟨items, hitems, -⟩ := bind_eq_ok.mp h
    obtain ⟨_, _, -, hviews, -⟩ := resources_eq_ok hitems
    obtain ⟨item, -, hitem⟩ := exists_mem_of_mapM_eq_ok hviews hview
    unfold declareView at hitem
    cases hkind : view.kind <;> first | decide | (rw [hkind] at hitem; cases hitem)

theorem Direct3D11.kind_of_source (h : source shader = .ok text) (hview : view ∈ shader.readViews) :
    view.kind ∈ Target.direct3D11.sampledKinds := by
  obtain ⟨items, hitems, -⟩ := bind_eq_ok.mp h
  obtain ⟨views, hviews, -⟩ := bind_eq_ok.mp hitems
  obtain ⟨item, -, hitem⟩ := exists_mem_of_mapM_eq_ok hviews hview
  unfold declareReadView at hitem
  cases hkind : view.kind <;> first | decide | (rw [hkind] at hitem; cases hitem)

theorem OpenGL.kind_of_source {version : Version} (h : source version shader = .ok text)
    (hpair : pair ∈ shader.fixedSampling) (hview : shader.readView? pair.view = some view) :
    view.kind ∈ Target.openGL.sampledKinds := by
  obtain ⟨items, _, _, hitems, -⟩ := parts_of_source h
  obtain ⟨_, _, _, _, sampling, -, -, -, -, hsampling, -⟩ := resources_eq_ok_iff.mp hitems
  obtain ⟨macros, -, hmacros⟩ := exists_mem_of_mapM_eq_ok hsampling hpair
  rw [samplePair, hview] at hmacros
  cases hkind : view.kind <;>
    first | decide | (simp only [hkind, textureDimension?] at hmacros; cases hmacros)

/-! ## Macros -/

/-- The macros of every pair are defined. -/
theorem sampling_mem_defines {target : Target} {version : OpenGL.Version}
    (hformed : shader.WellFormed) (h : target.source version shader = .ok text)
    (hpair : pair ∈ shader.fixedSampling) :
    s!"SAMPLE_{pair.view}" ∈ text.defines ∧ s!"SAMPLE_LEVEL_{pair.view}" ∈ text.defines := by
  obtain ⟨parts, hcontent, hparts⟩ := Target.exists_sourceParts hformed h
  obtain ⟨macros, hmacros, sample, sampleLevel, rfl⟩ :=
    exists_mem_of_forall₂ hparts.resources.sampling.flip hpair
  have hitems : ∀ item ∈ samplingMacros pair.view sample sampleLevel, item ∈ text.items := by
    intro item hitem
    have hsampling : item ∈ parts.resources.sampling.flatten :=
      List.mem_flatten_of_mem hmacros hitem
    have hcontained : item ∈ text.content := by
      rw [hcontent]
      simp [SourceParts.items, ResourceParts.items, hsampling]
    exact (List.mem_filter.mp hcontained).1
  constructor
  · exact List.mem_filterMap.mpr ⟨_, hitems _ List.mem_cons_self, rfl⟩
  · exact List.mem_filterMap.mpr ⟨_, hitems _ (List.mem_cons_of_mem _ List.mem_cons_self), rfl⟩

theorem Target.kind_of_source {target : Target} {version : OpenGL.Version}
    (h : target.source version shader = .ok text) (hpair : pair ∈ shader.fixedSampling)
    (hview : shader.readView? pair.view = some view) : view.kind ∈ target.sampledKinds :=
  match target with
  | .direct3D9 => Direct3D9.kind_of_source h (List.mem_of_find?_eq_some hview)
  | .direct3D11 => Direct3D11.kind_of_source h (List.mem_of_find?_eq_some hview)
  | .openGL => OpenGL.kind_of_source h hpair hview

/-- A finished text has the macros of every pair of fixed sampling, and the view of the pair is of a
kind that the target samples: one that a sampler can read or, except in Direct3D 9, a buffer or a
multisampled texture.  With a pair whose view is of another kind there is no text. -/
theorem sampling_macros_of_build {name : String} {stage : Stage} {additions : List Addition}
    (hbuild : Shader.build name stage additions = .ok shader) (target : Target)
    (version : OpenGL.Version) :
    (∀ text, target.source version shader = .ok text → ∀ pair ∈ shader.fixedSampling,
      s!"SAMPLE_{pair.view}" ∈ text.defines ∧ s!"SAMPLE_LEVEL_{pair.view}" ∈ text.defines ∧
        ∃ view, shader.readView? pair.view = some view ∧ view.kind ∈ target.sampledKinds) ∧
    (∀ kind ∈ target.sampledKinds, kind.isSampleable = true ∨
      (target ≠ .direct3D9 ∧ kind ∈ [.buffer, .texture2DMultisample]) ∨
      (target = .direct3D11 ∧ kind = .structuredBuffer)) ∧
    ∀ pair ∈ shader.fixedSampling, ∀ view, shader.readView? pair.view = some view →
      view.kind ∉ target.sampledKinds → ∃ error, target.source version shader = .error error := by
  have hformed := Shader.wellFormed_of_build hbuild
  refine ⟨?_, of_mem_sampledKinds target, ?_⟩
  · intro text htext pair hpair
    obtain ⟨view, -, hview⟩ := exists_readView? hformed hpair
    obtain ⟨hsample, hsampleLevel⟩ := sampling_mem_defines hformed htext hpair
    exact ⟨hsample, hsampleLevel, view, hview, Target.kind_of_source htext hpair hview⟩
  · intro pair hpair view hview hother
    cases htext : target.source version shader with
    | error error => exact ⟨error, rfl⟩
    | ok text => exact absurd (Target.kind_of_source htext hpair hview) hother

theorem sampling_macros_of_build_structuredBuffer :
    Shader.build "Sampling" .pixel (sampling .structuredBuffer).additions =
        .ok (sampling .structuredBuffer) ∧
      (∃ text, Direct3D11.source (sampling .structuredBuffer) = .ok text ∧
        "SAMPLE_image" ∈ text.defines ∧ "SAMPLE_LEVEL_image" ∈ text.defines) ∧
      ∃ error, OpenGL.source .v450 (sampling .structuredBuffer) = .error error := by
  have hbuild : Shader.build "Sampling" .pixel (sampling .structuredBuffer).additions =
      .ok (sampling .structuredBuffer) := by
    decide +kernel
  obtain ⟨text, htext⟩ : ∃ text, Direct3D11.source (sampling .structuredBuffer) = .ok text :=
    exists_of_isOk (by decide +kernel)
  obtain ⟨hsample, hsampleLevel, -⟩ := (sampling_macros_of_build hbuild .direct3D11 .v450).1 text
    htext ⟨"image", "clamped"⟩ (by decide)
  exact ⟨hbuild, ⟨text, htext, hsample, hsampleLevel⟩,
    (sampling_macros_of_build hbuild .openGL .v450).2.2 ⟨"image", "clamped"⟩ (by decide)
      ⟨"image", 0, .structuredBuffer, .float4⟩ rfl (by decide)⟩

/-- Two targets give macros to a buffer, which no sampler can read. -/
theorem exists_sampled_buffer :
    Shader.build "Sampling" .pixel (sampling .buffer).additions = .ok (sampling .buffer) ∧
      ResourceKind.buffer.isSampleable = false ∧
      (sampling .buffer).readView? "image" = some ⟨"image", 0, .buffer, .float4⟩ ∧
      (∃ text, Direct3D11.source (sampling .buffer) = .ok text ∧ "SAMPLE_image" ∈ text.defines) ∧
      ∃ text, OpenGL.source .v450 (sampling .buffer) = .ok text ∧
        "SAMPLE_image" ∈ text.defines := by
  have hbuild : Shader.build "Sampling" .pixel (sampling .buffer).additions =
      .ok (sampling .buffer) := by
    decide +kernel
  have hdefined : ∀ target : Target, (target.source .v450 (sampling .buffer)).isOk = true →
      ∃ text, target.source .v450 (sampling .buffer) = .ok text ∧
        "SAMPLE_image" ∈ text.defines := by
    intro target hok
    obtain ⟨text, htext⟩ := exists_of_isOk hok
    have hpair : ⟨"image", "clamped"⟩ ∈ (sampling .buffer).fixedSampling := List.mem_cons_self
    exact ⟨text, htext, (sampling_mem_defines (Shader.wellFormed_of_build hbuild) htext hpair).1⟩
  exact ⟨hbuild, rfl, rfl, hdefined .direct3D11 (by decide +kernel),
    hdefined .openGL (by decide +kernel)⟩

end CrossShade
