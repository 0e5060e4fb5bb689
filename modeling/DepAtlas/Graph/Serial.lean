import DepAtlas.Graph.Basic
import DepAtlas.Json.Basic

set_option autoImplicit false

/-!
# Graphs as JSON and as numbered graphs

## Main definitions

* `Graph.toJson` — a graph as a JSON value: kinds by name, and weights by source and target.
* `Graph.place?` — the place of an entity in name order.
* `Graph.numbered?` — the links of a graph between the places of its entities.
-/

namespace DepAtlas.Graph

/-- The targets of one source with their weights. -/
def rowJson (row : Row) : Json :=
  .object (row.toList.map fun (target, weight) => (target, .natural weight))

/-- The graph as a JSON value. -/
def toJson (g : Graph) : Json :=
  .object
    [("entities", .object (g.entities.map fun e => (e.name, .string e.kind.text))),
     ("edges", .object (g.rows.toList.map fun (source, row) => (source, rowJson row)))]

/-- The place of an entity in name order. -/
def place? (g : Graph) (name : String) : Option Nat :=
  g.names.idxOf? name

/-- The links of a graph with their weights, between the places of the ends in name order. There is
no such list if a link has an end that is no entity, since this one has no place. -/
def numbered? (g : Graph) : Option (List (Nat × Nat × Nat)) :=
  g.dependencies.mapM fun d => do
    let source ← g.place? d.source
    let target ← g.place? d.target
    return (source, target, d.weight)

end DepAtlas.Graph
