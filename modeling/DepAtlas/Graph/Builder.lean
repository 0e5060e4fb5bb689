import DepAtlas.Graph.Basic

set_option autoImplicit false

/-!
# Building a graph from observations

A builder takes observed facts one after the other and counts those that it has to drop.

## Main definitions

* `Builder` — the graph so far and the number of dropped observations.
* `Builder.addWeighted`, `Builder.declare` — the two kinds of observations.
* `Graph.ofFacts` — the graph of a list of facts.
-/

namespace DepAtlas

/-- A graph under construction. -/
structure Builder where
  graph : Graph := .empty
  dropped : Nat := 0

namespace Builder

/-- The builder before any observation. -/
def empty : Builder := {}

/-- There is the empty builder at least. -/
instance : Inhabited Builder := ⟨empty⟩

/-- Adds a fact that was observed `count` times. A fact with a blank end is dropped as a whole, also
if the other end has a name; a count of zero declares both ends without a dependency. -/
def addWeighted (b : Builder) (fact : Fact) (count : Nat) : Builder :=
  -- the count does not matter here: the fact is one dropped observation
  if fact.source.isBlank || fact.target.isBlank then { b with dropped := b.dropped + 1 }
  else if count = 0 then
    { b with graph := (b.graph.declare fact.source).declare fact.target }
  else { b with graph := b.graph.insert fact.source fact.target count .sum }

/-- Adds a fact that was observed once. -/
def add (b : Builder) (fact : Fact) : Builder :=
  b.addWeighted fact 1

/-- Adds facts from first to last. -/
def addAll (b : Builder) (facts : List Fact) : Builder :=
  facts.foldl add b

/-- Adds an entity that may have no dependency. A blank one is dropped. -/
def declare (b : Builder) (e : Entity) : Builder :=
  if e.isBlank then { b with dropped := b.dropped + 1 }
  else { b with graph := b.graph.declare e }

/-- Adds entities from first to last. -/
def declareAll (b : Builder) (entities : List Entity) : Builder :=
  entities.foldl declare b

end Builder

/-- The graph of a list of facts; facts with a blank end leave no trace. -/
def Graph.ofFacts (facts : List Fact) : Graph :=
  (Builder.empty.addAll facts).graph

end DepAtlas
