import DepAtlas.View.Lines
import DepAtlas.View.Output
import DepAtlas.View.Quoted

set_option autoImplicit false

/-!
# Graphviz diagrams

## Main definitions

* `Graph.toDot` — a graph in the DOT language.
* `Dot.output` — the output of a diagram for a target.
-/

namespace DepAtlas

namespace Dot

/-- The extensions of DOT files. -/
def markupExtensions : List String := ["dot", "gv"]

/-- What the kind of an entity adds to its attributes. -/
def style : Kind → String
  | .interface => ", shape=ellipse"
  | .module => ", shape=folder"
  | .function => ", fillcolor=palegreen"
  | .unknown => ", fillcolor=lightgrey"
  | .class => ""

/-- The statement that declares an entity. -/
def node (e : Entity) : String :=
  let name := Quoted.quote e.name
  "    " ++ name ++ " [label=" ++ name ++ style e.kind ++ "];\n"

/-- The label of an edge; a single observation has none. -/
def label (weight : Nat) : String :=
  if weight > 1 then s!" [label=\"{weight} refs\"]" else ""

/-- The statement of an edge. -/
def edge (d : Dependency) : String :=
  "    " ++ Quoted.quote d.source ++ " -> " ++ Quoted.quote d.target ++ label d.weight ++ ";\n"

/-- The lines before the first statement. -/
def header : String :=
  "digraph dependencies \x7b\n    rankdir=LR;\n"
    ++ "    node [shape=box, style=filled, fillcolor=lightblue];\n\n"

end Dot

/-- The graph in the DOT language; a dependency of an entity on itself is left out. All entities are
declared before the first edge, also those without any. -/
def Graph.toDot (g : Graph) : String :=
  Dot.header ++ String.join (g.entities.map Dot.node) ++ "\n"
    ++ String.join (g.crossDependencies.map Dot.edge) ++ "\x7d\n"

/-- The output of a diagram. An image is made by `tool`, which writes the file itself. -/
def Dot.output (target : Target) (keepSource : Bool) (tool : String) (g : Graph) : Output :=
  match target with
  | .stdout => .inline g.toDot
  | .markup path => .file path g.toDot
  | .image path format => .external
    { program := tool
      args := ["-T" ++ format, "-o", path]
      input := g.toDot
      output := path
      captureStdout := false
      keepSource := if keepSource then some (Path.withExtension path "dot") else none }

end DepAtlas
