import CrossShade.Keyword

/-!
# Pipeline stages

The six stages of a graphics pipeline, and a table with one entry for each of them.
-/

namespace CrossShade

/-- A stage of the pipeline that runs a shader. -/
inductive Stage where
  | vertex
  | hull
  | domain
  | geometry
  | pixel
  | compute
  deriving Repr, DecidableEq, Inhabited

namespace Stage

/-- Every stage, in pipeline order. -/
def all : List Stage :=
  [.vertex, .hull, .domain, .geometry, .pixel, .compute]

/-- The stages a draw runs, in pipeline order. -/
def graphics : List Stage :=
  [.vertex, .hull, .domain, .geometry, .pixel]

/-- The name of a stage. -/
def name : Stage → String
  | vertex => "Vertex"
  | hull => "Hull"
  | domain => "Domain"
  | geometry => "Geometry"
  | pixel => "Pixel"
  | compute => "Compute"

instance : ToString Stage := ⟨name⟩

/-- Reads the name of a stage. -/
def read (text : String) : Except UnknownKeyword Stage :=
  readKeyword "shader stage" (all.map fun stage => (stage.name, stage)) text

/-- The letters that a profile of the stage begins with. -/
def profileLetters : Stage → String
  | vertex => "vs"
  | hull => "hs"
  | domain => "ds"
  | geometry => "gs"
  | pixel => "ps"
  | compute => "cs"

/-- The letters that the name of an interface structure of the stage begins with. -/
def structureLetters : Stage → String
  | vertex => "VS"
  | hull => "HS"
  | domain => "DS"
  | geometry => "GS"
  | pixel => "PS"
  | compute => "CS"

/-- The stage that a profile is for: the one whose letters stand before its first underscore. -/
def ofProfile? (profile : String) : Option Stage :=
  let letters := String.ofList (profile.toList.takeWhile (· ≠ '_'))
  all.find? (·.profileLetters == letters)

/-- The position of a stage in the pipeline. -/
def index : Stage → Nat
  | vertex => 0
  | hull => 1
  | domain => 2
  | geometry => 3
  | pixel => 4
  | compute => 5

theorem mem_all (stage : Stage) : stage ∈ all := by
  cases stage <;> simp [all]

end Stage

/-- One value for every stage. -/
structure PerStage (α : Type) where
  vertex : α
  hull : α
  domain : α
  geometry : α
  pixel : α
  compute : α
  deriving Repr

namespace PerStage

variable {α : Type}

/-- The table that a function on stages describes. -/
def ofFunction (f : Stage → α) : PerStage α :=
  ⟨f .vertex, f .hull, f .domain, f .geometry, f .pixel, f .compute⟩

/-- The value of a stage. -/
def get (table : PerStage α) : Stage → α
  | .vertex => table.vertex
  | .hull => table.hull
  | .domain => table.domain
  | .geometry => table.geometry
  | .pixel => table.pixel
  | .compute => table.compute

/-- The table with another value for one stage. -/
def set (table : PerStage α) (stage : Stage) (value : α) : PerStage α :=
  match stage with
  | .vertex => { table with vertex := value }
  | .hull => { table with hull := value }
  | .domain => { table with domain := value }
  | .geometry => { table with geometry := value }
  | .pixel => { table with pixel := value }
  | .compute => { table with compute := value }

/-- The table with the value of one stage changed. -/
def modify (table : PerStage α) (stage : Stage) (change : α → α) : PerStage α :=
  table.set stage (change (table.get stage))

@[simp] theorem get_ofFunction (f : Stage → α) (stage : Stage) :
    (ofFunction f).get stage = f stage := by
  cases stage <;> rfl

theorem get_set (table : PerStage α) (stage other : Stage) (value : α) :
    (table.set stage value).get other = if other = stage then value else table.get other := by
  cases stage <;> cases other <;> rfl

@[simp] theorem get_set_self (table : PerStage α) (stage : Stage) (value : α) :
    (table.set stage value).get stage = value := by
  simp [get_set]

theorem get_modify (table : PerStage α) (stage other : Stage) (change : α → α) :
    (table.modify stage change).get other =
      if other = stage then change (table.get other) else table.get other := by
  cases stage <;> cases other <;> rfl

/-- Two tables with the same values are one. -/
theorem ext_get {a b : PerStage α} (same : ∀ stage, a.get stage = b.get stage) : a = b := by
  cases a
  cases b
  have v := same .vertex
  have h := same .hull
  have d := same .domain
  have g := same .geometry
  have p := same .pixel
  have c := same .compute
  simp_all [get]

end PerStage

end CrossShade
