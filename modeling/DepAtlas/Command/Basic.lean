set_option autoImplicit false

/-!
# Commands

## Main definitions

* `Command` — the commands that show a dependency graph.
* `Command.ofName?` — the command with a name.
* `diagnostics` — the commands that never look at source code, with their descriptions.
* `closestCommand?` — the command that a mistyped name may mean.
-/

namespace DepAtlas

/-- The name under which the program is called. -/
def programName : String := "deplens"

/-- The version of the program. -/
def programVersion : String := "0.1.0"

/-- What the program is for. -/
def programPurpose : String :=
  "Dependency analysis front-end: UML, DOT, DSM, text and metrics views of a code base"

/-- The commands that show a dependency graph. -/
inductive Command where
  | uml
  | dot
  | dsm
  | text
  | metrics
deriving DecidableEq, Repr, Inhabited

namespace Command

/-- Every command that shows a graph. -/
def all : List Command := [uml, dot, dsm, text, metrics]

/-- The name of a command. -/
def name : Command → String
  | uml => "uml"
  | dot => "dot"
  | dsm => "dsm"
  | text => "text"
  | metrics => "metrics"

/-- The description of a command. -/
def about : Command → String
  | uml => "Generate a PlantUML class diagram"
  | dot => "Generate a Graphviz dependency graph"
  | dsm => "Generate a dependency structure matrix"
  | text => "Print every dependency as `A --> B`"
  | metrics => "Report coupling metrics and dependency cycles"

/-- The command with a name. -/
def ofName? (name : String) : Option Command :=
  all.find? fun command => command.name == name

end Command

/-- The commands that never look at source code, with their descriptions. -/
def diagnostics : List (String × String) :=
  [("help", "Display help for a command"),
   ("list", "List available commands"),
   ("self-test", "Check that the source analyzer understands every supported construct")]

/-- The names of all commands. -/
def commandNames : List String :=
  Command.all.map Command.name ++ diagnostics.map Prod.fst

/-! ## Mistyped names -/

/-- One row of the table of edit distances: `previous` is the row before, and `left` the distance
already found in this row. -/
def distanceRow (c : Char) : List Char → (previous : List Nat) → (left : Nat) → List Nat
  | d :: word, diagonal :: above :: previous, left =>
    let here := Nat.min (Nat.min (left + 1) (above + 1)) (if c == d then diagonal else diagonal + 1)
    here :: distanceRow c word (above :: previous) here
  | _, _, _ => []

/-- The rows of the table of edit distances, one for each character. -/
def distanceRows (word : List Char) : List Char → (place : Nat) → (row : List Nat) → List Nat
  | [], _, row => row
  | c :: rest, place, row =>
    distanceRows word rest (place + 1) ((place + 1) :: distanceRow c word row (place + 1))

/-- The least number of characters to insert, delete or replace to make one text of another. The
table of the distances between their beginnings is filled row by row, and only the last row is kept. -/
def editDistance (a b : String) : Nat :=
  let word := b.toList
  (distanceRows word a.toList 0 (List.range (word.length + 1))).getLastD 0

/-- How far a name may be from a command that it is taken for: half of its bytes, and at least
two characters. -/
def typoLimit (name : String) : Nat :=
  Nat.max (name.utf8ByteSize / 2) 2

/-- The first of the nearest names in a list, if there is one within the limit. Of two names at one
distance the one further in front is taken. -/
def nearest? (limit : Nat) (name : String) : List String → Option (String × Nat)
  | [] => none
  | candidate :: rest =>
    let distance := editDistance name candidate
    match nearest? limit name rest with
    | some (other, best) =>
      if distance ≤ limit && distance ≤ best then some (candidate, distance)
      else some (other, best)
    | none => if distance ≤ limit then some (candidate, distance) else none

/-- The command that a mistyped name may mean. -/
def closestCommand? (name : String) : Option String :=
  (nearest? (typoLimit name) name commandNames).map Prod.fst

end DepAtlas
