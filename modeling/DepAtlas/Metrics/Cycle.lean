import Std.Data.ExtTreeSet
import DepAtlas.Graph.Basic

set_option autoImplicit false

/-!
# Dependency cycles

A cycle is a largest set of entities that all reach each other by dependencies, where an entity
on its own counts only if it depends on itself.

## Main definitions

* `Graph.reached` — the entities that can be reached from an entity by at least one dependency.
* `Cycle` — one cycle of a graph.
* `Graph.cycles` — all cycles, by their first member.
-/

namespace DepAtlas

/-- A set of names. -/
abbrev NameSet := Std.ExtTreeSet String

namespace Graph

/-! ## Reaching -/

/-- The names that `name` depends on, in order. -/
def targets (g : Graph) (name : String) : List String :=
  (g.dependenciesOf name).map (·.target)

/-- Adds to `seen` what `todo` reaches, visiting at most `fuel` entries of the list. The list is
worked off from its front, and what is found new puts its own targets there. -/
def explore (g : Graph) : Nat → NameSet → List String → NameSet
  | 0, seen, _ => seen
  | _ + 1, seen, [] => seen
  | fuel + 1, seen, name :: todo =>
    if seen.contains name then explore g fuel seen todo
    else explore g fuel (seen.insert name) (g.targets name ++ todo)

/-- What `name` reaches by at least one dependency. Every dependency is entered into the list
at most once as that of a new entity, and those of `name` once more at the start. -/
def reached (g : Graph) (name : String) : NameSet :=
  explore g (2 * g.linkCount + 1) ∅ (g.targets name)

/-- For every entity of the graph what it reaches. -/
abbrev Reach := Std.ExtTreeMap String NameSet

/-- What every entity of the graph reaches. -/
def reach (g : Graph) : Reach :=
  g.names.foldl (fun table name => table.insert name (g.reached name)) ∅

/-- Whether `a` reaches `b`. -/
def reaches (table : Reach) (a b : String) : Bool :=
  match table[a]? with
  | some set => set.contains b
  | none => false

end Graph

/-! ## Cycles -/

/-- A cycle: its place in the list of all cycles, the number of its members, its members in
order, and the number of dependencies between them. -/
structure Cycle where
  id : Nat
  size : Nat
  members : List String
  internalLinks : Nat
deriving DecidableEq, Repr, Inhabited

namespace Graph

/-- The entities that reach `name` and are reached by it, in order. The entity itself is one of them
only if it is on a cycle. -/
def companions (g : Graph) (table : Reach) (name : String) : List String :=
  g.names.filter fun other => reaches table name other && reaches table other name

/-- The members of every cycle, by first member. An entity stands for its cycle if none of its
companions comes before it. -/
def cycleMembers (g : Graph) : List (List String) :=
  let table := g.reach
  g.names.filterMap fun name =>
    let members := g.companions table name
    -- companions of each other have the same companions, so each cycle comes up once
    if members.head? = some name then some members else none

/-- The number of dependencies with both ends in a list of names. -/
def linksWithin (g : Graph) (members : List String) : Nat :=
  let set : NameSet := .ofList members
  (g.dependencies.filter fun d => set.contains d.source && set.contains d.target).length

/-- All cycles, by first member. -/
def cycles (g : Graph) : List Cycle :=
  g.cycleMembers.zipIdx.map fun (members, id) =>
    ⟨id, members.length, members, g.linksWithin members⟩

end Graph

end DepAtlas
