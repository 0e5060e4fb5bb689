import DepAtlas.Graph.Basic

set_option autoImplicit false

/-!
# Keeping a part of a graph

## Main definitions

* `Graph.retainEntities` — some entities with the dependencies between them.
* `Graph.retainLinks` — some links; an entity that loses its last link goes too.
-/

namespace DepAtlas.Graph

/-- The entities that `keep` accepts, with the dependencies between them. -/
def retainEntities (keep : Entity → Bool) (g : Graph) : Graph :=
  let kinds := g.kinds.filter fun name kind => keep ⟨name, kind⟩
  { kinds
    rows := .ofDependencies <| g.dependencies.filter fun d =>
      kinds.contains d.source && kinds.contains d.target }

/-- Whether a link of the list starts or ends at the entity. -/
def touches (dependencies : List Dependency) (name : String) : Bool :=
  dependencies.any fun d => d.source == name || d.target == name

/-- The dependencies that `keep` accepts, by source and target. An entity stays if it is an end of
one of them, or if it never had a dependency. -/
def retainLinks (keep : String → String → Bool) (g : Graph) : Graph :=
  -- an entity without links before stays: only the loss of the last link takes an entity away
  let kept := g.dependencies.filter fun d => keep d.source d.target
  { kinds := g.kinds.filter fun name _ => touches kept name || !touches g.dependencies name
    rows := .ofDependencies kept }

end DepAtlas.Graph
