import Std.Data.ExtTreeMap
import DepAtlas.Text.Blank

set_option autoImplicit false

/-!
# Weighted dependency graphs

A graph holds entities, each with a kind, and dependencies between them, each with a weight
that counts how often it was observed. The entities are a table by name, and the dependencies are
a table of rows: for every source the weights by target. All tables are ordered by name, so
everything made from a graph comes out in one order.

## Main definitions

* `Kind`, `Entity`, `Dependency`, `Fact` — what a graph is made of.
* `Policy` — how two weights of one link are put together.
* `Rows` — the weights by source and target.
* `Graph` — the graph, with the views `Graph.kind?` and `Graph.weight?`.
* `Graph.declare`, `Graph.insert` — adding an entity and adding a dependency.
-/

namespace DepAtlas

/-! ## Kinds -/

/-- What an entity is. The kinds are listed from the least to the most specific. -/
inductive Kind where
  /-- seen only as the target of a dependency -/
  | unknown
  | module
  | function
  | «class»
  | interface
deriving DecidableEq, Repr, Inhabited

namespace Kind

/-- Every kind, from the least specific to the most specific. -/
def all : List Kind := [unknown, module, function, «class», interface]

/-- The place of a kind in the order from the least to the most specific. -/
def rank : Kind → Nat
  | unknown => 0
  | module => 1
  | function => 2
  | «class» => 3
  | interface => 4

/-- The more specific of two kinds: one entity reported with both kinds has this one. The kinds form
a chain, so the order of the reports does not matter. -/
def join (k l : Kind) : Kind :=
  if k.rank ≤ l.rank then l else k

/-- The kind of an entity that is reported with `kind` and may be known with another. -/
def added (kind : Kind) : Option Kind → Kind
  | some known => known.join kind
  | none => kind

/-- The name of a kind in reports and documents. -/
def text : Kind → String
  | unknown => "unknown"
  | module => "module"
  | function => "function"
  | «class» => "class"
  | interface => "interface"

end Kind

/-! ## Entities and dependencies -/

/-- A fully qualified name with its kind. -/
structure Entity where
  name : String
  kind : Kind := .unknown
deriving DecidableEq, Repr, Inhabited

/-- A name with nothing but blanks in it, which cannot stand for an entity. -/
def isBlankName (name : String) : Bool :=
  (Text.trim name.toList).isEmpty

/-- Whether the entity has a blank name. -/
def Entity.isBlank (e : Entity) : Bool :=
  isBlankName e.name

/-- One observation that `source` uses `target`. -/
structure Fact where
  source : Entity
  target : Entity
deriving DecidableEq, Repr, Inhabited

/-- A link from a source to a target, with its weight. -/
structure Dependency where
  source : String
  target : String
  weight : Nat
deriving DecidableEq, Repr, Inhabited

/-- Whether a dependency leads from an entity to itself. -/
def Dependency.isSelf (d : Dependency) : Bool :=
  d.source == d.target

/-! ## Weights -/

/-- The greatest weight; sums stop here. -/
def weightLimit : Nat := Nat.pow 2 64 - 1

/-- How two weights of one link are put together. -/
inductive Policy where
  /-- the observations of both sides add up -/
  | sum
  /-- both sides saw the same, so the larger number counts -/
  | max
deriving DecidableEq, Repr, Inhabited

/-- One weight for a link that has two. A sum that would pass the limit stays at it. -/
def Policy.combine : Policy → Nat → Nat → Nat
  | .sum, a, b => min (a + b) weightLimit
  | .max, a, b => Nat.max a b

/-- The weight of a link that is reported with `weight` and may have one before. -/
def Policy.added (policy : Policy) (weight : Nat) : Option Nat → Nat
  | some before => policy.combine before weight
  | none => weight

/-- The name of a policy in documents. -/
def Policy.text : Policy → String
  | .sum => "sum"
  | .max => "max"

/-! ## Rows of weights -/

/-- What one source depends on: the weights by target. -/
abbrev Row := Std.ExtTreeMap String Nat

/-- The rows of a graph by source. -/
abbrev Rows := Std.ExtTreeMap String Row

namespace Rows

/-- The weight in the row of `source` for `target`. -/
def weight? (rows : Rows) (source target : String) : Option Nat :=
  rows[source]?.bind fun row => row[target]?

/-- The rows with one more entry, whose weight is made from the one before. A source without a row
gets one, so no row is empty that came about in this way. -/
def add (rows : Rows) (source target : String) (weight : Option Nat → Nat) : Rows :=
  rows.alter source fun row =>
    some ((row.getD ∅).alter target fun known => some (weight known))

/-- All entries, ordered by source and then by target. -/
def toDependencies (rows : Rows) : List Dependency :=
  rows.toList.flatMap fun (source, row) =>
    row.toList.map fun (target, weight) => ⟨source, target, weight⟩

/-- The rows of a list of dependencies. The last weight of a link counts. -/
def ofDependencies (dependencies : List Dependency) : Rows :=
  dependencies.foldl (fun rows d => rows.add d.source d.target fun _ => d.weight) ∅

end Rows

/-! ## Graphs -/

/-- A dependency graph: the kind of every entity, and the rows of its dependencies. -/
structure Graph where
  kinds : Std.ExtTreeMap String Kind
  rows : Rows

namespace Graph

/-- Two graphs can be compared by their tables. -/
instance : DecidableEq Graph := fun g h =>
  match decEq g.kinds h.kinds, decEq g.rows h.rows with
  | isTrue hk, isTrue hr => isTrue (by cases g; cases h; simp_all)
  | isFalse hk, _ => isFalse fun e => hk (congrArg kinds e)
  | _, isFalse hr => isFalse fun e => hr (congrArg rows e)

/-- The graph without any entity. -/
def empty : Graph := ⟨∅, ∅⟩

/-- There is the empty graph at least. -/
instance : Inhabited Graph := ⟨empty⟩

/-! ### Views -/

/-- The kind of an entity of the graph. -/
def kind? (g : Graph) (name : String) : Option Kind :=
  g.kinds[name]?

/-- The weight of a link of the graph. -/
def weight? (g : Graph) (source target : String) : Option Nat :=
  g.rows.weight? source target

/-- Whether the graph has an entity of this name. -/
def contains (g : Graph) (name : String) : Bool :=
  g.kinds.contains name

/-- All entities in name order. -/
def entities (g : Graph) : List Entity :=
  g.kinds.toList.map fun (name, kind) => ⟨name, kind⟩

/-- The names of all entities, in order. -/
def names (g : Graph) : List String :=
  g.kinds.keys

/-- All dependencies, ordered by source and then by target. -/
def dependencies (g : Graph) : List Dependency :=
  g.rows.toDependencies

/-- Whether the graph has no entity. -/
def isEmpty (g : Graph) : Bool :=
  g.kinds.isEmpty

/-- The number of entities. -/
def entityCount (g : Graph) : Nat :=
  g.kinds.size

/-- The number of links: the sizes of all rows together. -/
def linkCount (g : Graph) : Nat :=
  g.rows.foldl (fun count _ row => count + row.size) 0

/-- What an entity depends on, in name order. -/
def dependenciesOf (g : Graph) (name : String) : List Dependency :=
  match g.rows[name]? with
  | some row => row.toList.map fun (target, weight) => ⟨name, target, weight⟩
  | none => []

/-- What depends on an entity, in name order. -/
def dependantsOf (g : Graph) (name : String) : List Dependency :=
  g.rows.toList.filterMap fun (source, row) => row[name]?.map fun weight => ⟨source, name, weight⟩

/-- Whether the entity has a row with an entry. A dependency on itself counts. -/
def hasDependencies (g : Graph) (name : String) : Bool :=
  match g.rows[name]? with
  | some row => !row.isEmpty
  | none => false

/-! ### Adding to a graph -/

/-- The graph with one more entity, under any name. An entity that is already there keeps the more
specific kind, and no dependency changes. -/
def upsert (g : Graph) (e : Entity) : Graph :=
  { g with kinds := g.kinds.alter e.name fun known => some (e.kind.added known) }

/-- The graph with one more entity, unless its name is blank. -/
def declare (g : Graph) (e : Entity) : Graph :=
  if e.isBlank then g else g.upsert e

/-- The graph with one more dependency and both its ends. The weight of a link that is already there
is combined with the new one. Names are not checked here, so a blank one gets in. -/
def insert (g : Graph) (source target : Entity) (weight : Nat) (policy : Policy) : Graph :=
  -- the ends are entered first, so every link of a graph has both its ends in the table
  let g := (g.upsert source).upsert target
  { g with rows := g.rows.add source.name target.name (policy.added weight) }

end Graph

end DepAtlas
