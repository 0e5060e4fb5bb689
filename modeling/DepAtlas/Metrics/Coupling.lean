import DepAtlas.Graph.Basic
import DepAtlas.Metrics.Share

set_option autoImplicit false

/-!
# Coupling of an entity

## Main definitions

* `Coupling` — how many other entities depend on an entity, and on how many it depends.
* `Graph.coupling` — the coupling of an entity in a graph.
-/

namespace DepAtlas

/-- The coupling of one entity. A dependency of an entity on itself does not count. -/
structure Coupling where
  /-- the other entities that depend on this one -/
  afferent : Nat
  /-- the other entities that this one depends on -/
  efferent : Nat
  /-- the efferent share of both, zero without any -/
  instability : Share
deriving DecidableEq, Repr, Inhabited

namespace Graph

/-- The number of other entities that an entity depends on. -/
def efferent (g : Graph) (name : String) : Nat :=
  ((g.dependenciesOf name).filter fun d => d.target != name).length

/-- The number of other entities that depend on an entity. -/
def afferent (g : Graph) (name : String) : Nat :=
  ((g.dependantsOf name).filter fun d => d.source != name).length

/-- The coupling of an entity. -/
def coupling (g : Graph) (name : String) : Coupling :=
  let afferent := g.afferent name
  let efferent := g.efferent name
  ⟨afferent, efferent, .ofQuotient efferent (afferent + efferent)⟩

end Graph

end DepAtlas
