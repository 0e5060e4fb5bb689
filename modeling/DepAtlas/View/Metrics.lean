import DepAtlas.Json.Basic
import DepAtlas.Metrics.Report
import DepAtlas.View.Matrix

set_option autoImplicit false

/-!
# Metrics reports as text and as JSON

## Main definitions

* `Report.toText` — a report as tables.
* `Report.toJson` — a report as a JSON value.
-/

namespace DepAtlas.Report

/-! ## Text -/

/-- The width of the column of names: the longest name in bytes, and at least its title. Padding
counts characters, so the column may be wider than it needs to be. -/
def nameWidth (r : Report) : Nat :=
  r.rows.foldl (fun w row => Nat.max w row.name.utf8ByteSize) 6

/-- A line of the table of entities. -/
def tableLine (width : Nat) (name afferent efferent instability : String) : String :=
  Matrix.padRight width name ++ " " ++ Matrix.padLeft 4 afferent ++ " "
    ++ Matrix.padLeft 4 efferent ++ " " ++ Matrix.padLeft 11 instability ++ "\n"

/-- The line of an entity. -/
def rowLine (width : Nat) (row : Row) : String :=
  tableLine width row.name (toString row.coupling.afferent) (toString row.coupling.efferent)
    row.coupling.instability.twoPlaces

/-- The table of entities; nothing without rows. -/
def rowTable (r : Report) : String :=
  if r.rows.isEmpty then ""
  else
    tableLine r.nameWidth "Entity" "Ca" "Ce" "Instability"
      ++ String.ofList (List.replicate (r.nameWidth + 22) '-') ++ "\n"
      ++ String.join (r.rows.map (rowLine r.nameWidth)) ++ "\n"

/-- The lines of a cycle. -/
def cycleLines (c : Cycle) : String :=
  s!"Cycle #{c.id} (size={c.size}, internal_edges={c.internalLinks})\n"
    ++ String.join (c.members.map fun member => "  - " ++ member ++ "\n")

/-- The section of cycles; nothing without cycles. -/
def cycleSection (r : Report) : String :=
  if r.cycles.isEmpty then ""
  else "Cycles\n------\n" ++ String.join (r.cycles.map cycleLines)

/-- The report as tables. -/
def toText (r : Report) : String :=
  "Dependency Metrics\n==================\n\n"
    ++ s!"Entities:     {r.entityCount}\nDependencies: {r.linkCount}\n"
    ++ s!"Kinds:        {r.modules} modules, {r.classes} classes, "
    ++ s!"{r.interfaces} interfaces, {r.functions} functions\n"
    ++ "Abstractness: " ++ r.abstractness.twoPlaces ++ "\n\n"
    ++ r.rowTable ++ r.cycleSection

/-! ## JSON -/

/-- An entity as a JSON object. -/
def rowJson (row : Row) : Json :=
  .object
    [("name", .string row.name), ("kind", .string row.kind.text),
     ("afferent", .natural row.coupling.afferent), ("efferent", .natural row.coupling.efferent),
     ("instability", .number row.coupling.instability.shortest)]

/-- A cycle as a JSON object. -/
def cycleJson (c : Cycle) : Json :=
  .object
    [("id", .natural c.id), ("size", .natural c.size),
     ("members", .array (c.members.map .string)), ("internal_edges", .natural c.internalLinks)]

/-- The report as a JSON value. -/
def toJson (r : Report) : Json :=
  .object
    [("entity_count", .natural r.entityCount), ("edge_count", .natural r.linkCount),
     ("modules", .natural r.modules), ("classes", .natural r.classes),
     ("interfaces", .natural r.interfaces), ("functions", .natural r.functions),
     ("abstractness", .number r.abstractness.shortest),
     ("entities", .array (r.rows.map rowJson)), ("cycles", .array (r.cycles.map cycleJson))]

end DepAtlas.Report
