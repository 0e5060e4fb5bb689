import DepAtlas.View.Lines
import DepAtlas.View.Output
import DepAtlas.View.Quoted

set_option autoImplicit false

/-!
# PlantUML class diagrams

Every entity has an alias, so that nested namespaces never clash with a class of the same name.

## Main definitions

* `Graph.toPlantUml?` — a graph as a class diagram.
* `PlantUml.output` — the output of a diagram for a target.
-/

namespace DepAtlas

namespace PlantUml

/-- The extensions of PlantUML files. -/
def markupExtensions : List String := ["uml", "puml", "plantuml"]

/-- The keyword that declares an entity. -/
def keyword : Kind → String
  | .interface => "interface"
  | _ => "class"

/-- What stands behind the alias of an entity. -/
def stereotype : Kind → String
  | .interface | .class => ""
  | .module => " << (M,#AAD7FF) module >>"
  | .function => " << (F,#B5E7A0) function >>"
  | .unknown => " << (E,#DDDDDD) >>"

/-- The alias of the entity at a place in name order. -/
def aliasAt (place : Nat) : String :=
  "e" ++ toString place

/-- The alias of a name in a list of names. -/
def aliasOf? (names : List String) (name : String) : Option String :=
  (names.idxOf? name).map aliasAt

/-- The line that declares the entity at a place. -/
def declaration (e : Entity) (place : Nat) : String :=
  keyword e.kind ++ " " ++ Quoted.quote e.name ++ " as " ++ aliasAt place ++ stereotype e.kind
    ++ "\n"

/-- The line of an arrow between two aliases. -/
def arrow? (names : List String) (d : Dependency) : Option String := do
  let source ← aliasOf? names d.source
  let target ← aliasOf? names d.target
  return source ++ " --> " ++ target ++ "\n"

/-- The lines before the first declaration. -/
def header : String :=
  "@startuml\nset namespaceSeparator none\nhide empty members\n\n"

end PlantUml

/-- The graph as a class diagram; a dependency of an entity on itself is left out. There is no
diagram if an arrow has an end that is no entity. All entities are declared before the first arrow. -/
def Graph.toPlantUml? (g : Graph) : Option String := do
  let arrows ← g.crossDependencies.mapM (PlantUml.arrow? g.names)
  return PlantUml.header
    ++ String.join (g.entities.zipIdx.map fun (e, place) => PlantUml.declaration e place)
    ++ "\n" ++ String.join arrows ++ "@enduml\n"

namespace PlantUml

/-- The output in place of a diagram that does not exist. It stands for the end of a program that
gave up in the middle of its work, as the exit code tells. -/
def noDiagram : Output :=
  .failure "a dependency leads to an entity that is not declared\n" 101

/-- The output of a diagram. An image is what `tool` writes to its standard output. -/
def output (target : Target) (keepSource : Bool) (tool : String) (g : Graph) : Output :=
  match g.toPlantUml?, target with
  | none, _ => noDiagram
  | some markup, .stdout => .inline markup
  | some markup, .markup path => .file path markup
  | some markup, .image path format => .external
    { program := tool
      args := ["-pipe", "-t" ++ format]
      input := markup
      output := path
      captureStdout := true
      keepSource := if keepSource then some (Path.withExtension path "puml") else none }

end PlantUml

end DepAtlas
