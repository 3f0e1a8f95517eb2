import CrossShade.Proofs.Pipeline.BoundShaders

/-!
# Pipelines that can draw

What the check before a draw asks of a pipeline, said without the order in which it asks.

* `Drawable` is the condition: shaders that are there, patches of the size that the hull shader
  takes, and primitives that the geometry shader takes.  It speaks of what the shaders were written
  to do, not of the facts that were kept of them.
* `Tessellates` and `Assembles` are the tables of primitives: those that the tessellator puts out
  and those that a topology is made of.
* `FactsHold` ties the facts to the shaders, and `exists_hull` and `exists_geometry` say what they
  are.
* `validateDraw_eq_ok_iff` says that a pipeline passes exactly if it is drawable, and
  `validateDraw_ne_noTessellation` that facts about tessellation are never missing.
-/

namespace CrossShade

namespace Pipeline

variable {live : LiveShaders} {pipeline : Pipeline} {stage : Stage} {shader : CompiledShader}

/-- A stage binds a shader that exists. -/
def Binds (pipeline : Pipeline) (live : LiveShaders) (stage : Stage) (shader : CompiledShader) :
    Prop :=
  ∃ id, pipeline.boundId stage = some id ∧ live id = some shader

theorem boundShader_eq_some_iff :
    pipeline.boundShader live stage = .ok (some shader) ↔ pipeline.Binds live stage shader := by
  unfold boundShader Binds boundId
  cases (pipeline.stage stage).shader.value with
  | none => simp
  | some id => cases hfound : live id <;> simp [hfound]

theorem boundShader_eq_none_iff :
    pipeline.boundShader live stage = .ok none ↔ pipeline.boundId stage = none := by
  unfold boundShader boundId
  cases (pipeline.stage stage).shader.value with
  | none => simp
  | some id => cases hfound : live id <;> simp [hfound]

/-- The primitives that the tessellator puts out for an output topology; the winding of triangles
makes no difference. -/
inductive Tessellates : OutputTopology → GeometryPrimitive → Prop where
  | points : Tessellates .point .point
  | lines : Tessellates .line .line
  | clockwise : Tessellates .triangleCw .triangle
  | counterclockwise : Tessellates .triangleCcw .triangle

/-- The primitives that a topology is made of.  Patches are of no class. -/
inductive Assembles : PrimitiveTopology → GeometryPrimitive → Prop where
  | points : Assembles .pointList .point
  | lines : Assembles .lineList .line
  | lineStrip : Assembles .lineStrip .line
  | triangles : Assembles .triangleList .triangle
  | triangleStrip : Assembles .triangleStrip .triangle
  | adjacentLines : Assembles .lineListAdj .lineAdj
  | adjacentLineStrip : Assembles .lineStripAdj .lineAdj
  | adjacentTriangles : Assembles .triangleListAdj .triangleAdj
  | adjacentTriangleStrip : Assembles .triangleStripAdj .triangleAdj

theorem tessellates_iff {output : OutputTopology} {primitive : GeometryPrimitive} :
    Tessellates output primitive ↔ primitive = output.primitive := by
  constructor
  · intro h
    cases h <;> rfl
  · rintro rfl
    cases output with
    | point => exact .points
    | line => exact .lines
    | triangleCw => exact .clockwise
    | triangleCcw => exact .counterclockwise

theorem assembles_iff {topology : PrimitiveTopology} {primitive : GeometryPrimitive} :
    Assembles topology primitive ↔ topology.primitive? = some primitive := by
  constructor
  · intro h
    cases h <;> rfl
  · intro h
    cases topology with
    | patchList points => cases h
    | _ =>
      cases h
      constructor

/-- The primitives that reach the geometry stage: those that the tessellator puts out for the hull
shader or, without one, those of the topology. -/
def Reaches (pipeline : Pipeline) (live : LiveShaders) (primitive : GeometryPrimitive) : Prop :=
  (∃ hull output, pipeline.Binds live .hull hull ∧ hull.shader.outputTopology = .ok output ∧
    Tessellates output primitive) ∨
  (pipeline.boundId .hull = none ∧ Assembles pipeline.topology.value primitive)

/-- A pipeline can draw. -/
structure Drawable (pipeline : Pipeline) (live : LiveShaders) : Prop where
  alive : ∀ stage ∈ Stage.graphics, ∀ id, pipeline.boundId stage = some id → (live id).isSome
  vertex : (pipeline.boundId .vertex).isSome
  both : (pipeline.boundId .hull).isSome ↔ (pipeline.boundId .domain).isSome
  /-- A hull shader gets the patches that it takes. -/
  patches : ∀ hull, pipeline.Binds live .hull hull → ∃ points,
    pipeline.topology.value = .patchList points ∧
      hull.shader.inputControlPoints = .ok points.toUInt32
  /-- Nothing else gets patches. -/
  noPatches : pipeline.boundId .hull = none → ∀ points, pipeline.topology.value ≠ .patchList points
  /-- A geometry shader gets the primitives that it takes. -/
  primitives : ∀ geometry, pipeline.Binds live .geometry geometry → ∃ primitive,
    geometry.shader.inputPrimitive = .ok primitive ∧ pipeline.Reaches live primitive

/-! ## Facts about shaders -/

/-- The facts that were kept of a shader are those about its stage. -/
structure FactsHold (shader : CompiledShader) (stage : Stage) : Prop where
  stage : shader.shader.stage = stage
  facts : shader.shader.stageFacts = .ok shader.facts

/-- The facts of a hull shader are about tessellation. -/
theorem FactsHold.exists_hull (h : FactsHold shader .hull) :
    ∃ domain partitioning output points outputPoints factor,
      shader.facts = .hull domain partitioning output points outputPoints factor ∧
      shader.shader.outputTopology = .ok output ∧
      shader.shader.inputControlPoints = .ok points := by
  have hfacts := h.facts
  simp only [Shader.stageFacts, h.stage, bind_eq_ok, pure_eq_ok] at hfacts
  obtain ⟨domain, -, partitioning, -, output, houtput, points, hpoints, outputPoints, -, factor, -,
    hmade⟩ := hfacts
  exact ⟨domain, partitioning, output, points, outputPoints, factor, hmade.symm, houtput, hpoints⟩

/-- The facts of a geometry shader are about primitives. -/
theorem FactsHold.exists_geometry (h : FactsHold shader .geometry) :
    ∃ vertices input output streams instances,
      shader.facts = .geometry vertices input output streams instances ∧
      shader.shader.inputPrimitive = .ok input := by
  have hfacts := h.facts
  simp only [Shader.stageFacts, h.stage, bind_eq_ok, pure_eq_ok] at hfacts
  obtain ⟨vertices, -, input, hinput, output, -, instances, -, hmade⟩ := hfacts
  exact ⟨vertices, input, output, _, instances, hmade.symm, hinput⟩

/-! ## Parts of the check -/

variable {topology : PrimitiveTopology} {primitive : Option GeometryPrimitive}

/-- Without hull and domain shader, the topology decides. -/
theorem assembled_none_eq_ok_iff : assembled topology none none = .ok primitive ↔
    (∀ points, topology ≠ .patchList points) ∧ primitive = topology.primitive? := by
  cases topology <;> simp [assembled, PrimitiveTopology.patchPoints?, eq_comm]

/-- With both, the hull shader does. -/
theorem FactsHold.assembled_eq_ok_iff (h : FactsHold shader .hull) (domain : CompiledShader) :
    assembled topology (some shader) (some domain) = .ok primitive ↔
      (∃ points, topology = .patchList points ∧
        shader.shader.inputControlPoints = .ok points.toUInt32) ∧
      ∃ output, shader.shader.outputTopology = .ok output ∧ primitive = some output.primitive := by
  obtain ⟨_, _, output, points, _, _, hfacts, houtput, hpoints⟩ := h.exists_hull
  simp only [assembled, hfacts, houtput, hpoints, Except.ok.injEq]
  cases topology with
  | patchList given =>
    by_cases hsize : given.toUInt32 = points
    · simp [PrimitiveTopology.patchPoints?, hsize, eq_comm]
    · simp [PrimitiveTopology.patchPoints?, hsize, Ne.symm hsize]
  | _ => simp [PrimitiveTopology.patchPoints?]

theorem FactsHold.checkGeometry_eq_ok_iff (h : FactsHold shader .geometry) :
    checkGeometry topology primitive (some shader) = .ok () ↔
      ∃ input, shader.shader.inputPrimitive = .ok input ∧ primitive = some input := by
  obtain ⟨_, input, _, _, _, hfacts, hinput⟩ := h.exists_geometry
  simp [checkGeometry, hfacts, hinput]

/-- Asking for the shaders that are needed, and the two checks. -/
theorem validateDraw_parts : pipeline.validateDraw live = .ok () ↔
    ∃ hull domain geometry pixel vertex primitive, pipeline.boundShader live .hull = .ok hull ∧
      pipeline.boundShader live .domain = .ok domain ∧
      pipeline.boundShader live .geometry = .ok geometry ∧
      pipeline.boundShader live .pixel = .ok pixel ∧
      pipeline.boundShader live .vertex = .ok (some vertex) ∧
      assembled pipeline.topology.value hull domain = .ok primitive ∧
      checkGeometry pipeline.topology.value primitive geometry = .ok () := by
  simp only [validateDraw, bind_eq_ok]
  constructor
  · rintro ⟨hull, hhull, domain, hdomain, geometry, hgeometry, pixel, hpixel, vertex, hvertex, h⟩
    cases vertex with
    | none => cases h
    | some vertex =>
      obtain ⟨primitive, hassembled, hcheck⟩ := bind_eq_ok.mp h
      exact ⟨hull, domain, geometry, pixel, vertex, primitive, hhull, hdomain, hgeometry, hpixel,
        hvertex, hassembled, hcheck⟩
  · rintro ⟨hull, domain, geometry, pixel, vertex, primitive, hhull, hdomain, hgeometry, hpixel,
      hvertex, hassembled, hcheck⟩
    exact ⟨hull, hhull, domain, hdomain, geometry, hgeometry, pixel, hpixel, some vertex, hvertex,
      bind_eq_ok.mpr ⟨primitive, hassembled, hcheck⟩⟩

/-- The check of the geometry shader says nothing about tessellation. -/
theorem checkGeometry_ne_noTessellation (given : PrimitiveTopology)
    (primitive : Option GeometryPrimitive) (geometry : Option CompiledShader)
    (topology : PrimitiveTopology) (name : String) :
    checkGeometry given primitive geometry ≠
      .error (.incompatibleTopology topology (.noTessellation name)) := by
  intro h
  unfold checkGeometry at h
  split at h
  · cases h
  · split at h
    · split at h <;> cases h
    · cases h

/-! ## The whole check -/

theorem isSome_of_boundShader {found : Option CompiledShader}
    (h : pipeline.boundShader live stage = .ok found) {id : Nat}
    (hbound : pipeline.boundId stage = some id) : (live id).isSome := by
  unfold boundShader at h
  unfold boundId at hbound
  rw [hbound] at h
  cases hfound : live id with
  | none => simp [hfound] at h
  | some shader => rfl

/-- A stage whose shader is there, if it has one, is asked with success. -/
theorem exists_boundShader (h : ∀ id, pipeline.boundId stage = some id → (live id).isSome) :
    ∃ found, pipeline.boundShader live stage = .ok found := by
  rcases boundShader_cases pipeline live stage with ⟨id, hmisses, -⟩ | hfound
  · have hsome := h id hmisses.bound
    rw [hmisses.gone] at hsome
    cases hsome
  · exact hfound

/-- When no shader is gone, every stage is asked with success. -/
theorem exists_boundShaders (h : ∀ stage ∈ Stage.graphics, ∀ id, pipeline.boundId stage = some id →
    (live id).isSome) :
    ∃ hull domain geometry pixel vertex, pipeline.boundShader live .hull = .ok hull ∧
      pipeline.boundShader live .domain = .ok domain ∧
      pipeline.boundShader live .geometry = .ok geometry ∧
      pipeline.boundShader live .pixel = .ok pixel ∧
      pipeline.boundShader live .vertex = .ok vertex := by
  obtain ⟨hull, hhull⟩ := exists_boundShader (h .hull (by decide))
  obtain ⟨domain, hdomain⟩ := exists_boundShader (h .domain (by decide))
  obtain ⟨geometry, hgeometry⟩ := exists_boundShader (h .geometry (by decide))
  obtain ⟨pixel, hpixel⟩ := exists_boundShader (h .pixel (by decide))
  obtain ⟨vertex, hvertex⟩ := exists_boundShader (h .vertex (by decide))
  exact ⟨hull, domain, geometry, pixel, vertex, hhull, hdomain, hgeometry, hpixel, hvertex⟩

theorem isSome_boundId {found : Option CompiledShader}
    (h : pipeline.boundShader live stage = .ok found) :
    (pipeline.boundId stage).isSome = found.isSome := by
  cases found with
  | none =>
    rw [boundShader_eq_none_iff.mp h]
    rfl
  | some shader =>
    obtain ⟨id, hid, -⟩ := boundShader_eq_some_iff.mp h
    rw [hid]
    rfl

/-- A stage binds one shader at most. -/
theorem Binds.unique {other : CompiledShader} (h : pipeline.Binds live stage shader)
    (hother : pipeline.Binds live stage other) : shader = other := by
  have hshader := boundShader_eq_some_iff.mpr h
  rw [boundShader_eq_some_iff.mpr hother] at hshader
  cases hshader
  rfl

theorem Binds.boundId_ne_none (h : pipeline.Binds live stage shader) :
    pipeline.boundId stage ≠ none := by
  obtain ⟨id, hid, -⟩ := h
  rw [hid]
  exact Option.some_ne_none id

theorem reaches_of_none (h : pipeline.boundId .hull = none) (reached : GeometryPrimitive) :
    pipeline.Reaches live reached ↔ pipeline.topology.value.primitive? = some reached := by
  rw [← assembles_iff]
  constructor
  · rintro (⟨hull, output, hbinds, -⟩ | ⟨-, hreached⟩)
    · exact absurd h hbinds.boundId_ne_none
    · exact hreached
  · intro hreached
    exact .inr ⟨h, hreached⟩

theorem reaches_of_binds {hull : CompiledShader} (h : pipeline.Binds live .hull hull)
    (reached : GeometryPrimitive) : pipeline.Reaches live reached ↔
      ∃ output, hull.shader.outputTopology = .ok output ∧ reached = output.primitive := by
  simp only [← tessellates_iff]
  constructor
  · rintro (⟨other, output, hbinds, houtput⟩ | ⟨hnone, -⟩)
    · obtain rfl := h.unique hbinds
      exact ⟨output, houtput⟩
    · exact absurd hnone h.boundId_ne_none
  · rintro ⟨output, houtput⟩
    exact .inl ⟨hull, output, h, houtput⟩

section Facts

variable (hfacts : ∀ stage shader, pipeline.Binds live stage shader → FactsHold shader stage)

include hfacts

/-- What is assembled for the shaders of a pipeline. -/
theorem assembled_eq_ok_iff {hull domain : Option CompiledShader}
    (hhull : pipeline.boundShader live .hull = .ok hull)
    (hdomain : pipeline.boundShader live .domain = .ok domain) :
    assembled pipeline.topology.value hull domain = .ok primitive ↔
      ((pipeline.boundId .hull).isSome ↔ (pipeline.boundId .domain).isSome) ∧
      (∀ hull, pipeline.Binds live .hull hull → ∃ points,
        pipeline.topology.value = .patchList points ∧
          hull.shader.inputControlPoints = .ok points.toUInt32) ∧
      (pipeline.boundId .hull = none →
        ∀ points, pipeline.topology.value ≠ .patchList points) ∧
      ∀ reached, primitive = some reached ↔ pipeline.Reaches live reached := by
  rw [isSome_boundId hhull, isSome_boundId hdomain]
  cases hull with
  | none =>
    have hnone := boundShader_eq_none_iff.mp hhull
    cases domain with
    | none =>
      rw [assembled_none_eq_ok_iff]
      simp only [reaches_of_none hnone]
      constructor
      · rintro ⟨hpatches, rfl⟩
        exact ⟨trivial, fun hull hbinds => absurd hnone hbinds.boundId_ne_none,
          fun _ => hpatches, fun _ => Iff.rfl⟩
      · rintro ⟨-, -, hpatches, hreached⟩
        exact ⟨hpatches hnone, Option.ext hreached⟩
    | some domain => simp [assembled]
  | some hull =>
    have hbinds := boundShader_eq_some_iff.mp hhull
    have hsome := hbinds.boundId_ne_none
    cases domain with
    | none => simp [assembled]
    | some domain =>
      obtain ⟨_, _, output, _, _, _, -, houtput, -⟩ := (hfacts .hull hull hbinds).exists_hull
      rw [(hfacts .hull hull hbinds).assembled_eq_ok_iff domain]
      simp only [reaches_of_binds hbinds, houtput, Except.ok.injEq, exists_eq_left']
      constructor
      · rintro ⟨hpatches, rfl⟩
        refine ⟨Iff.rfl, fun other hother => hbinds.unique hother ▸ hpatches,
          fun hnone => absurd hnone hsome, fun reached => ?_⟩
        rw [Option.some.injEq]
        exact eq_comm
      · rintro ⟨-, hpatches, -, hreached⟩
        exact ⟨hpatches hull hbinds, (hreached output.primitive).mpr rfl⟩

/-- One kind of primitives at most reaches the geometry stage. -/
theorem exists_reached : ∃ primitive : Option GeometryPrimitive,
    ∀ reached, primitive = some reached ↔ pipeline.Reaches live reached := by
  by_cases hbound : ∃ hull, pipeline.Binds live .hull hull
  · obtain ⟨hull, hbinds⟩ := hbound
    obtain ⟨_, _, output, _, _, _, -, houtput, -⟩ := (hfacts .hull hull hbinds).exists_hull
    refine ⟨some output.primitive, fun reached => ?_⟩
    rw [reaches_of_binds hbinds, houtput]
    simp [eq_comm]
  · cases hhull : pipeline.boundId .hull with
    | none => exact ⟨pipeline.topology.value.primitive?, fun reached =>
        (reaches_of_none hhull reached).symm⟩
    | some id =>
      refine ⟨none, fun reached => ⟨nofun, ?_⟩⟩
      rintro (⟨hull, output, hbinds, -⟩ | ⟨hnone, -⟩)
      · exact absurd ⟨hull, hbinds⟩ hbound
      · rw [hhull] at hnone
        cases hnone

/-- A pipeline passes the check before a draw exactly if it can draw. -/
theorem validateDraw_eq_ok_iff : pipeline.validateDraw live = .ok () ↔ pipeline.Drawable live := by
  rw [validateDraw_parts]
  constructor
  · rintro ⟨hull, domain, geometry, pixel, vertex, primitive, hhull, hdomain, hgeometry, hpixel,
      hvertex, hassembled, hcheck⟩
    obtain ⟨hboth, hpatches, hnoPatches, hreached⟩ :=
      (assembled_eq_ok_iff hfacts hhull hdomain).mp hassembled
    refine ⟨?_, by rw [isSome_boundId hvertex]; rfl, hboth, hpatches, hnoPatches, ?_⟩
    · intro stage hstage id hbound
      cases stage with
      | vertex => exact isSome_of_boundShader hvertex hbound
      | hull => exact isSome_of_boundShader hhull hbound
      | domain => exact isSome_of_boundShader hdomain hbound
      | geometry => exact isSome_of_boundShader hgeometry hbound
      | pixel => exact isSome_of_boundShader hpixel hbound
      | compute => exact absurd hstage (by decide)
    · intro shader hbinds
      rw [boundShader_eq_some_iff.mpr hbinds, Except.ok.injEq] at hgeometry
      subst hgeometry
      obtain ⟨input, hinput, rfl⟩ :=
        (hfacts .geometry shader hbinds).checkGeometry_eq_ok_iff.mp hcheck
      exact ⟨input, hinput, (hreached input).mp rfl⟩
  · rintro ⟨halive, hvertexBound, hboth, hpatches, hnoPatches, hprimitives⟩
    obtain ⟨hull, domain, geometry, pixel, vertex, hhull, hdomain, hgeometry, hpixel, hvertex⟩ :=
      exists_boundShaders halive
    rw [isSome_boundId hvertex] at hvertexBound
    obtain ⟨vertex, rfl⟩ := Option.isSome_iff_exists.mp hvertexBound
    obtain ⟨primitive, hreached⟩ := exists_reached hfacts
    refine ⟨hull, domain, geometry, pixel, vertex, primitive, hhull, hdomain, hgeometry, hpixel,
      hvertex, ?_, ?_⟩
    · exact (assembled_eq_ok_iff hfacts hhull hdomain).mpr
        ⟨hboth, hpatches, hnoPatches, hreached⟩
    · cases geometry with
      | none => rfl
      | some shader =>
        have hbinds := boundShader_eq_some_iff.mp hgeometry
        obtain ⟨input, hinput, hinputReached⟩ := hprimitives shader hbinds
        exact (hfacts .geometry shader hbinds).checkGeometry_eq_ok_iff.mpr
          ⟨input, hinput, (hreached input).mpr hinputReached⟩

theorem assembled_ne_noTessellation {hull : Option CompiledShader}
    (hhull : pipeline.boundShader live .hull = .ok hull) (domain : Option CompiledShader)
    (given topology : PrimitiveTopology) (name : String) :
    assembled given hull domain ≠
      .error (.incompatibleTopology topology (.noTessellation name)) := by
  intro h
  cases hull with
  | none =>
    cases domain with
    | none =>
      simp only [assembled] at h
      split at h <;> cases h
    | some domain => cases h
  | some hull =>
    cases domain with
    | none => cases h
    | some domain =>
      have hbinds := boundShader_eq_some_iff.mp hhull
      obtain ⟨_, _, _, _, _, _, hkept, -, -⟩ := (hfacts .hull hull hbinds).exists_hull
      simp only [assembled, hkept] at h
      split at h <;> cases h

/-- A draw is never refused because facts about tessellation are missing. -/
theorem validateDraw_ne_noTessellation (topology : PrimitiveTopology) (name : String) :
    pipeline.validateDraw live ≠
      .error (.incompatibleTopology topology (.noTessellation name)) := by
  intro h
  rcases validateDraw_cases pipeline live with ⟨stage, -, gone, -, herror⟩ | ⟨hnone, -⟩
  · rw [herror] at h
    cases h
  · have halive : ∀ stage ∈ Stage.graphics, ∀ id, pipeline.boundId stage = some id →
        (live id).isSome := by
      intro stage hstage id hbound
      by_contra hgone
      exact hnone stage hstage id ⟨hbound, Option.not_isSome_iff_eq_none.mp hgone⟩
    obtain ⟨hull, domain, geometry, pixel, vertex, hhull, hdomain, hgeometry, hpixel, hvertex⟩ :=
      exists_boundShaders halive
    simp only [validateDraw, hhull, hdomain, hgeometry, hpixel, hvertex, ok_bind] at h
    cases vertex with
    | none => cases h
    | some vertex =>
      cases hassembled : assembled pipeline.topology.value hull domain with
      | error error =>
        simp only [hassembled, error_bind] at h
        cases h
        exact assembled_ne_noTessellation hfacts hhull domain _ topology name hassembled
      | ok primitive =>
        simp only [hassembled, ok_bind] at h
        exact checkGeometry_ne_noTessellation _ primitive geometry topology name h

end Facts

end Pipeline

end CrossShade
