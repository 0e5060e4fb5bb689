import DepAtlas.Graph.Basic

set_option autoImplicit false

/-!
# Renaming the entities of a graph

## Main definitions

* `Graph.image?` — what becomes of one entity.
* `Graph.rename` — the graph with every entity renamed; entities that get one name coincide.
-/

namespace DepAtlas.Graph

/-- What `f` makes of an entity of the graph; nothing if `f` drops it or gives a blank name. -/
def image? (f : Entity → Option Entity) (g : Graph) (name : String) : Option Entity := do
  let kind ← g.kind? name
  let e ← f ⟨name, kind⟩
  if e.isBlank then none else some e

/-- Adds to `h` the image of a dependency of `g`, if both its ends have one. -/
def insertImage (f : Entity → Option Entity) (g h : Graph) (d : Dependency) : Graph :=
  match g.image? f d.source, g.image? f d.target with
  | some source, some target => h.insert source target d.weight .sum
  | _, _ => h

/-- The graph with every entity replaced by its image. Dropped entities take their dependencies with
them. Of entities with one image the most specific kind counts, and the weights of links that fall
together add up, also where they become links of an entity to itself. -/
def rename (f : Entity → Option Entity) (g : Graph) : Graph :=
  g.dependencies.foldl (insertImage f g) ((g.names.filterMap (g.image? f)).foldl upsert empty)

end DepAtlas.Graph
