import DepAtlas.Graph.Basic

set_option autoImplicit false

/-!
# Dependencies as lines of text

## Main definitions

* `Graph.toLines` — one line for every dependency between two entities.
-/

namespace DepAtlas

/-- The line of a dependency, with its weight in parentheses if it is asked for. -/
def Dependency.line (weights : Bool) (d : Dependency) : String :=
  d.source ++ " --> " ++ d.target ++ (if weights then s!" ({d.weight})" else "") ++ "\n"

/-- The dependencies between different entities. -/
def Graph.crossDependencies (g : Graph) : List Dependency :=
  g.dependencies.filter fun d => !d.isSelf

/-- One line for every dependency between two entities. -/
def Graph.toLines (weights : Bool) (g : Graph) : String :=
  String.join (g.crossDependencies.map (Dependency.line weights))

end DepAtlas
