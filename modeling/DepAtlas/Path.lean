import DepAtlas.Text.Split
import DepAtlas.Unicode.Case

set_option autoImplicit false

/-!
# Paths

A path is a text whose components are divided by slashes. Repeated slashes and components `.`
after the first one do not count.

## Main definitions

* `Path.components` — the components of a path.
* `Path.fileName?`, `Path.extension?` — the last component and what follows its last dot.
* `Path.withExtension` — a path with another extension.
* `Path.compare` — the order of paths, component by component.
-/

namespace DepAtlas.Path

/-- One component of a path. -/
inductive Component where
  | root
  | current
  | parent
  | normal (name : String)
deriving DecidableEq, Repr, Inhabited

/-- The component that a piece between slashes stands for. -/
def Component.ofPiece : List Char → Component
  | ['.', '.'] => .parent
  | ['.'] => .current
  | piece => .normal (String.ofList piece)

/-- How a component is written. -/
def Component.text : Component → String
  | root => "/"
  | current => "."
  | parent => ".."
  | normal name => name

/-- The pieces of a path between slashes. -/
def pieces (path : String) : List (List Char) :=
  Text.splitOn ['/'] path.toList

/-- The components of a path. -/
def components (path : String) : List Component :=
  let counted (pieces : List (List Char)) : List Component :=
    (pieces.filter fun p => !p.isEmpty && p != ['.']).map .ofPiece
  match pieces path with
  | [] | [[]] => []
  | [] :: rest => .root :: counted rest
  | ['.'] :: rest => .current :: counted rest
  | pieces => counted pieces

/-- The components around the last one; nothing for a path without components. -/
def parent? (path : String) : Option (List Component) :=
  match components path with
  | [] | [.root] => none
  | components => some components.dropLast

/-! ## File names -/

/-- The name of the file that a path leads to, unless it ends in a dot component. -/
def fileName? (path : String) : Option String :=
  match (components path).getLast? with
  | some (.normal name) => some name
  | _ => none

/-- A file name cut at its last dot; a dot at the front is a part of the name. -/
def splitName (name : String) : List Char × Option (List Char) :=
  match Text.lastCut? ['.'] name.toList with
  | none | some ([], _) => (name.toList, none)
  | some (stem, ext) => (stem, some ext)

/-- What follows the last dot of the file name. -/
def extension? (path : String) : Option String := do
  let name ← fileName? path
  let ext ← (splitName name).2
  some (String.ofList ext)

/-- The text of a path up to the end of its file name, in reverse: slashes and components `.` at
the end are dropped. -/
def dropTrailing : List Char → List Char
  | '/' :: rest => dropTrailing rest
  | '.' :: '/' :: rest => dropTrailing ('/' :: rest)
  | reversed => reversed

/-- The path with its extension replaced, or with an extension added. -/
def withExtension (path ext : String) : String :=
  match fileName? path with
  | none => path
  | some name =>
    let stem := (splitName name).1
    let front := (dropTrailing path.toList.reverse).drop name.length |>.reverse
    String.ofList (front ++ stem ++ '.' :: ext.toList)

/-! ## Order -/

/-- The place of a component among the kinds of components. -/
def Component.rank : Component → Nat
  | root => 0
  | current => 1
  | parent => 2
  | normal _ => 3

/-- The order of components: by kind, and names by their characters. -/
instance : Ord Component where
  compare a b :=
    match a, b with
    | .normal x, .normal y => Ord.compare x y
    | _, _ => Ord.compare a.rank b.rank

/-- The order of lists of components. -/
def compareComponents : List Component → List Component → Ordering
  | [], [] => .eq
  | [], _ :: _ => .lt
  | _ :: _, [] => .gt
  | a :: as, b :: bs => (Ord.compare a b).then (compareComponents as bs)

/-- The order of paths, component by component. -/
def compare (a b : String) : Ordering :=
  compareComponents (components a) (components b)

end DepAtlas.Path
