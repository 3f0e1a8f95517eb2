/-!
# Source texts

A source text for a target, kept as the list of its items: comments, definitions, declarations and
functions.  The text is written once, at the end; until then the items can be looked up by name.
Empty lines set parts apart, and `Source.separate` never puts one at the start or beside another.
-/

namespace CrossShade

namespace Source

/-- A line that declares a value: in a structure, in a block or on its own.  The value may be bound
to a semantic or a register. -/
structure Declaration where
  qualifiers : List String := []
  type : String
  name : String
  length : Option UInt32 := none
  boundTo : Option String := none
  deriving Repr, DecidableEq

/-- The text of a declaration: the length stands between brackets, and after a colon what the value
is bound to. -/
def Declaration.text (d : Declaration) : String :=
  let qualifiers := String.join (d.qualifiers.map (· ++ " "))
  let length := match d.length with
    | some length => s!"[{length}]"
    | none => ""
  let ending := match d.boundTo with
    | some text => s!" : {text}"
    | none => ""
  s!"{qualifiers}{d.type} {d.name}{length}{ending};"

/-- A function, with its body line by line. -/
structure Function where
  attributes : List String := []
  returns : String
  name : String
  parameters : List String := []
  body : List String := []
  deriving Repr, DecidableEq

/-- An item of a source text. -/
inductive Item where
  | comment (text : String)
  | verbatim (line : String)
  | define (name : String) (parameters : Option (List String)) (body : String)
  | struct (name : String) (members : List Declaration)
  | block (name header : String) (members : List Declaration)
  | global (declaration : Declaration)
  | function (function : Function)
  | blank
  deriving Repr, DecidableEq

/-- A macro with parameters. -/
def macroOf (name : String) (parameters : List String) (body : String) : Item :=
  .define name (some parameters) body

/-- The macros that sample a view at a place and at a place and level. -/
def samplingMacros (view sample sampleLevel : String) : List Item :=
  [macroOf s!"SAMPLE_{view}" ["uv"] sample,
    macroOf s!"SAMPLE_LEVEL_{view}" ["uv", "lod"] sampleLevel]

/-- A text as a line. -/
def line (text : String) : String :=
  text ++ "\n"

/-- Members between braces, a line each. -/
def membersText (members : List Declaration) : String :=
  line "\x7b" ++ String.join (members.map fun d => line ("    " ++ d.text)) ++ line "\x7d;"

/-- A list of parameters. -/
def parametersText (parameters : List String) : String :=
  "(" ++ ", ".intercalate parameters ++ ")"

/-- The text of a function. -/
def Function.text (f : Function) : String :=
  String.join (f.attributes.map fun text => line s!"[{text}]") ++
    line (f.returns ++ " " ++ f.name ++ parametersText f.parameters) ++ line "\x7b" ++
    String.join (f.body.map line) ++ line "\x7d"

/-- The text of an item. -/
def Item.text : Item → String
  | comment text => line ("// " ++ text)
  | verbatim text => line text
  | define name parameters body =>
    let parameters := (parameters.map parametersText).getD ""
    let body := if body.isEmpty then "" else " " ++ body
    line s!"#define {name}{parameters}{body}"
  | struct name members => line s!"struct {name}" ++ membersText members
  | block _ header members => line header ++ membersText members
  | global declaration => line declaration.text
  | function f => f.text
  | blank => line ""

end Source

/-- A source text. -/
structure Source where
  items : List Source.Item := []
  deriving Repr, DecidableEq

namespace Source

/-- Adds an item at the end. -/
def push (source : Source) (item : Item) : Source :=
  ⟨source.items ++ [item]⟩

/-- Adds an empty line at the end, but neither to an empty text nor after another empty line. -/
def separate (source : Source) : Source :=
  match source.items.getLast? with
  | none | some .blank => source
  | some _ => source.push .blank

/-- Adds an item at the end, where an empty line only separates. -/
def add (source : Source) (item : Item) : Source :=
  if item = .blank then source.separate else source.push item

/-- The source text of a list of items, in which empty lines only separate. -/
def ofItems (items : List Item) : Source :=
  items.foldl add {}

/-- The structures of a source text with their members. -/
def structs (source : Source) : List (String × List Declaration) :=
  source.items.filterMap fun
    | .struct name members => some (name, members)
    | _ => none

/-- The blocks of a source text: name, header and members. -/
def blocks (source : Source) : List (String × String × List Declaration) :=
  source.items.filterMap fun
    | .block name header members => some (name, header, members)
    | _ => none

/-- The declarations outside structures and blocks. -/
def globals (source : Source) : List Declaration :=
  source.items.filterMap fun
    | .global declaration => some declaration
    | _ => none

/-- The names that are defined. -/
def defines (source : Source) : List String :=
  source.items.filterMap fun
    | .define name _ _ => some name
    | _ => none

/-- The functions of a source text. -/
def functions (source : Source) : List Function :=
  source.items.filterMap fun
    | .function f => some f
    | _ => none

/-- The text of all items. -/
def render (source : Source) : String :=
  String.join (source.items.map Item.text)

@[simp] theorem items_push (source : Source) (item : Item) :
    (source.push item).items = source.items ++ [item] := rfl

/-- Adding an item puts at most that item at the end. -/
theorem items_add (source : Source) (item : Item) :
    (source.add item).items = source.items ++ [item] ∨
      item = .blank ∧ (source.add item).items = source.items := by
  unfold add
  split
  · rename_i isBlank
    unfold separate
    split
    · exact .inr ⟨isBlank, rfl⟩
    · exact .inr ⟨isBlank, rfl⟩
    · exact .inl (by simp [isBlank])
  · exact .inl (items_push ..)

/-- Leaving empty lines aside, adding appends. -/
theorem filter_items_add (source : Source) (item : Item) :
    (source.add item).items.filter (· ≠ .blank) =
      source.items.filter (· ≠ .blank) ++ [item].filter (· ≠ .blank) := by
  rcases items_add source item with same | ⟨isBlank, same⟩
  · rw [same, List.filter_append]
  · rw [same, isBlank]
    simp

/-- A source text holds the items it was made of, leaving empty lines aside. -/
theorem filter_items_ofItems (items : List Item) :
    (ofItems items).items.filter (· ≠ .blank) = items.filter (· ≠ .blank) := by
  suffices all : ∀ source : Source, (items.foldl add source).items.filter (· ≠ .blank) =
      source.items.filter (· ≠ .blank) ++ items.filter (· ≠ .blank) by
    simpa [ofItems] using all {}
  intro source
  induction items generalizing source with
  | nil => simp
  | cons item rest ih =>
    rw [List.foldl_cons, ih, filter_items_add, List.append_assoc, ← List.filter_append]
    rfl

/-- What is read off the items one by one does not depend on empty lines, if they say nothing. -/
theorem filterMap_items_ofItems {α : Type} {read : Item → Option α} (hblank : read .blank = none)
    (items : List Item) : (ofItems items).items.filterMap read = items.filterMap read := by
  have hkept : ∀ list : List Item, list.filterMap read =
      (list.filter (· ≠ .blank)).filterMap read := by
    intro list
    rw [List.filterMap_filter]
    congr 1
    funext item
    by_cases h : item = .blank <;> simp [h, hblank]
  rw [hkept items, ← filter_items_ofItems, ← hkept]

/-- What is no empty line is in a source text if it was put there. -/
theorem mem_items_ofItems {item : Item} (items : List Item) (h : item ≠ .blank) :
    item ∈ (ofItems items).items ↔ item ∈ items := by
  have hkept : ∀ list : List Item, item ∈ list ↔ item ∈ list.filter (· ≠ .blank) := by
    simp [List.mem_filter, h]
  rw [hkept, filter_items_ofItems, ← hkept]

end Source

end CrossShade
