import DepAtlas.Graph.Basic
import DepAtlas.Text.Split

set_option autoImplicit false

/-!
# Dependency structure matrices

Row `i`, column `j` of the matrix of a graph holds the weight of the dependency of entity `i` on
entity `j`, where entities are numbered in name order.

## Main definitions

* `Matrix` — the names of a graph and its weights by row.
* `Matrix.toText` — the matrix as a table of text.
* `Matrix.toHtml` — the matrix as a page.
-/

namespace DepAtlas

/-- The names of a graph, and for every row its weights by column. An empty cell is not stored. -/
structure Matrix where
  names : List String
  rows : List (Std.ExtTreeMap Nat Nat)

namespace Matrix

/-- The weights of some dependencies by the places of their targets; a target that is not among the
names has no place. -/
def rowOf (names : List String) (dependencies : List Dependency) : Std.ExtTreeMap Nat Nat :=
  .ofList (dependencies.filterMap fun d => (names.idxOf? d.target).map fun j => (j, d.weight))

/-- The matrix of a graph. -/
def ofGraph (g : Graph) : Matrix where
  names := g.names
  rows := g.names.map fun source => rowOf g.names (g.dependenciesOf source)

/-- The weight in a cell. -/
def cell (m : Matrix) (row column : Nat) : Option Nat :=
  m.rows[row]?.bind fun weights => weights[column]?

/-! ## Text -/

/-- The text with blanks behind it up to a number of characters. -/
def padRight (width : Nat) (s : String) : String :=
  s ++ String.ofList (List.replicate (width - s.length) ' ')

/-- The text with blanks before it up to a number of characters. -/
def padLeft (width : Nat) (s : String) : String :=
  String.ofList (List.replicate (width - s.length) ' ') ++ s

/-- The names with their numbers. -/
def labels (m : Matrix) : List String :=
  m.names.zipIdx.map fun (name, i) => s!"{i + 1}: {name}"

/-- The number of bytes of the longest label. Padding counts characters, so a label with longer
characters makes the column wider than it needs to be. -/
def labelWidth (m : Matrix) : Nat :=
  (m.labels.map String.utf8ByteSize).max?.getD 0

/-- The greatest weight of the matrix, its diagonal included although no cell of it is shown. -/
def maxWeight (m : Matrix) : Nat :=
  (m.rows.flatMap fun weights => weights.toList.map Prod.snd).max?.getD 0

/-- The number of digits of the longest number in the table. -/
def cellWidth (m : Matrix) : Nat :=
  Nat.max (toString m.names.length).length (toString m.maxWeight).length

/-- What a cell shows; the diagonal never shows a weight. -/
def cellText (row column : Nat) (cell : Option Nat) : String :=
  if row = column then "-" else (cell.map toString).getD ""

/-- A line of the table: the label padded to the right, then the cells padded to the left, each with
a bar behind it. -/
def line (m : Matrix) (label : String) (cells : List String) : String :=
  padRight m.labelWidth label ++ " |"
    ++ String.join (cells.map fun cell => " " ++ padLeft m.cellWidth cell ++ " |") ++ "\n"

/-- The matrix as a table of text; nothing for a graph without entities. The columns have the
numbers of the entities, and the rows their labels. -/
def toText (m : Matrix) : String :=
  if m.names.isEmpty then ""
  else
    m.line "" ((List.range m.names.length).map fun i => toString (i + 1))
      ++ String.join (m.labels.zipIdx.map fun (label, i) =>
        m.line label ((List.range m.names.length).map fun j => cellText i j (m.cell i j)))

/-! ## HTML -/

/-- A text as it is written in HTML. Ampersands come first, so those of the other escapes are not
escaped again. -/
def escapeHtml (s : String) : String :=
  -- the order matters: the other escapes bring ampersands of their own
  let ampersands := Text.replaceAll ['&'] "&amp;".toList s.toList
  let openings := Text.replaceAll ['<'] "&lt;".toList ampersands
  let closings := Text.replaceAll ['>'] "&gt;".toList openings
  String.ofList (Text.replaceAll ['"'] "&quot;".toList closings)

/-- How the table looks. -/
def htmlStyle : String :=
  "table\x7bborder-collapse:collapse;font-family:monospace\x7d"
    ++ "td,th\x7bborder:1px solid #999;padding:2px 6px;text-align:center\x7d"
    ++ "th.name\x7btext-align:left\x7dtd.self\x7bbackground:#ddd\x7d"

/-- The page up to the first row of the table. -/
def htmlHeader : String :=
  "<!DOCTYPE html>\n<html>\n<head>\n<meta charset=\"utf-8\">\n"
    ++ "<title>Dependency Structure Matrix</title>\n<style>" ++ htmlStyle ++ "</style>\n"
    ++ "</head>\n<body>\n<table>\n"

/-- A cell of the page. -/
def htmlCell (row column : Nat) (cell : Option Nat) : String :=
  if row = column then "<td class=\"self\"></td>"
  else "<td>" ++ (cell.map toString).getD "" ++ "</td>"

/-- The matrix as a page. -/
def toHtml (m : Matrix) : String :=
  htmlHeader ++ "<tr><th></th>"
    ++ String.join ((List.range m.names.length).map fun i => s!"<th>{i + 1}</th>") ++ "</tr>\n"
    ++ String.join (m.names.zipIdx.map fun (name, i) =>
      s!"<tr><th class=\"name\">{i + 1}: " ++ escapeHtml name ++ "</th>"
        ++ String.join ((List.range m.names.length).map fun j => htmlCell i j (m.cell i j))
        ++ "</tr>\n")
    ++ "</table>\n</body>\n</html>\n"

end Matrix

end DepAtlas
