import DepAtlas.Metrics.Coupling
import DepAtlas.Metrics.Cycle

set_option autoImplicit false

/-!
# Metrics of a graph

## Main definitions

* `Report` — the figures of a whole graph, of its entities and of its cycles.
* `Report.ofGraph` — the report of a graph.
-/

namespace DepAtlas

/-- The figures of one entity. -/
structure Report.Row where
  name : String
  kind : Kind
  coupling : Coupling
deriving DecidableEq, Repr, Inhabited

/-- The figures of a graph. -/
structure Report where
  entityCount : Nat
  linkCount : Nat
  modules : Nat
  classes : Nat
  interfaces : Nat
  functions : Nat
  /-- the share of interfaces among classes and interfaces -/
  abstractness : Share
  rows : List Report.Row
  cycles : List Cycle
deriving DecidableEq, Repr, Inhabited

namespace Report

/-- The number of entities of a kind. -/
def countOf (g : Graph) (kind : Kind) : Nat :=
  (g.entities.filter fun e => e.kind == kind).length

/-- Whether the analysed code owns an entity: it is of a known kind or depends on something. What is
only the target of dependencies, with no kind of its own, belongs to somebody else. -/
def isOwned (g : Graph) (e : Entity) : Bool :=
  e.kind != .unknown || g.hasDependencies e.name

/-- The report of a graph. Only owned entities have a row. -/
def ofGraph (g : Graph) : Report where
  entityCount := g.entityCount
  linkCount := g.linkCount
  modules := countOf g .module
  classes := countOf g .class
  interfaces := countOf g .interface
  functions := countOf g .function
  abstractness :=
    .ofQuotient (countOf g .interface) (countOf g .class + countOf g .interface)
  rows := (g.entities.filter (isOwned g)).map fun e => ⟨e.name, e.kind, g.coupling e.name⟩
  cycles := g.cycles

end Report

end DepAtlas
