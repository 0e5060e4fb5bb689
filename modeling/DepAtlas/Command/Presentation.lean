import DepAtlas.Command.Basic
import DepAtlas.View.Dot
import DepAtlas.View.Matrix
import DepAtlas.View.Metrics
import DepAtlas.View.PlantUml

set_option autoImplicit false

/-!
# How a command shows its graph

## Main definitions

* `Presentation` — a command with the options that concern its output.
* `Presentation.output` — the output of a command for a graph.
-/

namespace DepAtlas

/-- The format of a matrix. -/
inductive MatrixFormat where
  | text
  | html
deriving DecidableEq, Repr, Inhabited

/-- The format of a metrics report. -/
inductive ReportFormat where
  | text
  | json
deriving DecidableEq, Repr, Inhabited

/-- The names of the external tools that draw diagrams. -/
structure Tools where
  dot : String := "dot"
  plantUml : String := "plantuml"
deriving DecidableEq, Repr, Inhabited

/-- How a command shows its graph. -/
inductive Presentation where
  | uml (output : Option String) (keepSource : Bool)
  | dot (output : Option String) (keepSource : Bool)
  | dsm (format : MatrixFormat) (output : Option String)
  | text (weights : Bool)
  | metrics (format : ReportFormat)
deriving DecidableEq, Repr, Inhabited

namespace Presentation

/-- The command that shows a graph in this way. -/
def command : Presentation → Command
  | uml .. => .uml
  | dot .. => .dot
  | dsm .. => .dsm
  | text _ => .text
  | metrics _ => .metrics

/-- Whether the rules of the second stage apply. Metrics count the graph as the first stage left
it. -/
def appliesPostFilters : Presentation → Bool
  | metrics _ => false
  | _ => true

/-- The output of a command for a graph. A diagram may go to the output stream, to a file or to a
tool, a matrix to the output stream or to a file, and all else to the output stream. -/
def output (tools : Tools) (g : Graph) : Presentation → Output
  | uml path keep => PlantUml.output (.ofOutput path PlantUml.markupExtensions) keep tools.plantUml g
  | dot path keep => Dot.output (.ofOutput path Dot.markupExtensions) keep tools.dot g
  | dsm format path =>
    .toFileOrInline path <| match format with
      | .text => (Matrix.ofGraph g).toText
      | .html => (Matrix.ofGraph g).toHtml
  | text weights => .inline (g.toLines weights)
  | metrics format =>
    .inline <| match format with
      | .text => (Report.ofGraph g).toText
      | .json => (Report.ofGraph g).toJson.pretty ++ "\n"

end Presentation

end DepAtlas
