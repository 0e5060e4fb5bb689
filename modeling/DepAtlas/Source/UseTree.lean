import DepAtlas.Name
import DepAtlas.Source.Tree
import DepAtlas.Text.Blank

set_option autoImplicit false

/-!
# Use trees

A use declaration names paths, and groups paths with a common front. What it depends on are the
full paths, looked up from the module that the declaration stands in.

## Main definitions

* `UseTree` — the argument of a use declaration.
* `UseTree.paths` — the full paths that it names, in order.
* `resolve?` — the entity that a path names inside a module.
-/

namespace DepAtlas.Source

/-! ## Trees -/

/-- The argument of a use declaration. Texts are without blanks, but with the comments that stand
inside them. -/
inductive UseTree where
  /-- a path, which may end in a star -/
  | path (text : String)
  /-- a path under another name -/
  | renamed (text : String) (name : String)
  /-- trees in braces -/
  | list (members : List UseTree)
  /-- trees in braces behind what stands in front of them: a path or nothing, and comments -/
  | group (front : List String) (members : List UseTree)
  /-- a comment among the members of a list -/
  | comment (text : String)
deriving Repr, Inhabited

/-- A path below another; the empty text is above all. Nothing is resolved here, also where the path
begins with a relative step. -/
def below (above path : String) : String :=
  if above.isEmpty then path else above ++ Name.defaultSeparator ++ path

namespace UseTree

mutual

/-- The full paths that a tree below another path names, in order. Of what stands in front of a
group only the last text counts, and a comment in a list counts as a path. -/
def paths (above : String) : UseTree → List String
  | path text | renamed text _ | comment text => [below above text]
  | list members => pathsOfAll above members
  | group front members =>
    pathsOfAll (match front.getLast? with
      | some text => below above text
      | none => above) members

/-- The full paths that trees below another path name, in order. -/
def pathsOfAll (above : String) : List UseTree → List String
  | [] => []
  | tree :: rest => tree.paths above ++ pathsOfAll above rest

end

end UseTree

/-! ## Reading -/

/-- The text of a tree without blanks. A text with a stray byte in it, which shows as a replacement
character, says nothing; one where this character was written does. -/
def Tree.shown? (t : Tree) : Option String :=
  if t.text.contains Text.replacement && t.hasStray then none else some (String.ofList t.text)

/-- The text of what stands in front of a list or of another name. Marks say nothing, and neither
does the list itself, while a comment does. -/
def Tree.front? : Tree → Option String
  | .leaf token => if token.kind == .mark then none else (Tree.leaf token).shown?
  | .node .useList _ => none
  | tree => tree.shown?

/-- The path among the pieces of a renaming: the first that is no comment. -/
def Tree.renamedPath? (pieces : List Tree) : Option String := do
  (← pieces.find? fun tree => !tree.isComment).shown?

/-- The new name among the pieces of a renaming: the last that is no comment. -/
def Tree.newName (pieces : List Tree) : String :=
  ((pieces.filter fun tree => !tree.isComment).getLast?.bind Tree.shown?).getD ""

namespace UseTree

mutual

/-- The use trees that a piece of a use declaration stands for: none for a mark or a keyword, and
none for a path whose text cannot be shown. Comments are passed over only in a renaming. -/
def ofTree : Tree → List UseTree
  | .leaf token =>
    if token.kind == .comment then (Tree.leaf token).shown?.toList.map .comment else []
  | .node .usePath children => (Tree.node .usePath children).shown?.toList.map .path
  | .node .useGlob children => (Tree.node .useGlob children).shown?.toList.map .path
  | .node .useRenamed children =>
    (Tree.renamedPath? children).toList.map fun path => .renamed path (Tree.newName children)
  | .node .useList children => [.list (ofTrees children)]
  | .node .useGroup children => [.group (children.filterMap Tree.front?) (membersIn children)]
  | .node _ _ => []

/-- The use trees of the pieces of a list. -/
def ofTrees : List Tree → List UseTree
  | [] => []
  | tree :: rest => ofTree tree ++ ofTrees rest

/-- The members of the list among some pieces. -/
def membersIn : List Tree → List UseTree
  | [] => []
  | .node .useList children :: _ => ofTrees children
  | _ :: rest => membersIn rest

end

end UseTree

/-! ## Relative paths -/

/-- The path behind a keyword in front of it; the keyword may also stand alone. A segment that
merely begins with the keyword is no such step. -/
def behind? (keyword path : List Char) : Option (List Char) :=
  if path = keyword then some []
  else Text.afterPrefix? (keyword ++ Name.defaultSeparator.toList) path

/-- The module where a path starts, if it starts at this module or above it, and the path from
there; with fuel for each keyword in front. Nothing is above the root, so a path that leads there
starts nowhere. -/
def climb? (base : String) : (fuel : Nat) → List Char → Option (String × List Char)
  | 0, path => some (base, path)
  | fuel + 1, path =>
    match behind? "super".toList path with
    | some rest => do climb? (← Name.namespace? base Name.defaultSeparator) fuel rest
    | none =>
      match behind? "self".toList path with
      | some rest => climb? base fuel rest
      | none => some (base, path)

/-- A path without a star at its end, and then without a `self`. Both mean what stands in front of
them, and neither counts where nothing does. -/
def withoutTail (path : List Char) : List Char :=
  -- in this order: `a::self::*` loses both, while `a::*::self` keeps its star
  let path := (Text.beforeSuffix? "::*".toList path).getD path
  (Text.beforeSuffix? "::self".toList path).getD path

/-- The entity that a path names inside a module: the path itself unless it starts with `self` or
`super`. A star alone, and a path that leads above the root, name nothing. A path that goes back to
a module and no further names this module. -/
def resolve? (module path : String) : Option String :=
  let path := withoutTail (Text.dropBlanks path.toList)
  if path.isEmpty || path = ['*'] then none
  else
    match climb? module path.length path with
    | none => none
    | some (base, rest) =>
      -- no step was taken, so the path does not start at the module
      if rest = path then some (String.ofList path)
      else if rest.isEmpty then some base
      else some (below base (String.ofList rest))

end DepAtlas.Source
