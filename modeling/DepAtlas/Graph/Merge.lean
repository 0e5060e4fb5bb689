import DepAtlas.Graph.Basic

set_option autoImplicit false

/-!
# Merging two graphs

## Main definitions

* `Graph.declareAll`, `Graph.insertAll` — all entities and all dependencies of a list.
* `Graph.merge` — the union of two graphs under a policy for links that both have.
-/

namespace DepAtlas.Graph

/-- The graph with every entity of a list, the blank ones left out. -/
def declareAll (g : Graph) (entities : List Entity) : Graph :=
  entities.foldl declare g

/-- The entity of a name, of unknown kind if the graph does not have it. -/
def entity (g : Graph) (name : String) : Entity :=
  ⟨name, (g.kind? name).getD .unknown⟩

/-- The graph with every dependency of a list, whose ends have their kinds from `kinds`. -/
def insertAll (g kinds : Graph) (policy : Policy) (dependencies : List Dependency) : Graph :=
  dependencies.foldl
    (fun g d => g.insert (kinds.entity d.source) (kinds.entity d.target) d.weight policy) g

/-- The union of two graphs. An entity of both has the more specific kind, and the weights of a link
of both are combined by the policy. An entity of `h` with a blank name comes over only as an end of
a dependency. -/
def merge (g h : Graph) (policy : Policy) : Graph :=
  (g.declareAll h.entities).insertAll h policy h.dependencies

end DepAtlas.Graph
