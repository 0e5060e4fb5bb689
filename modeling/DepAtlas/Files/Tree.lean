import DepAtlas.Text.Decode

set_option autoImplicit false

/-!
# File trees

## Main definitions

* `FileTree` — a file with its contents, or a directory.
* `FileTree.at?` — the tree at a place below.
* `FileTree.put?` — the tree with a file written.
* `FileTree.withDirectory?` — the tree with a directory made, and those around it.
* `FileTree.files` — the files of a tree with their places.
-/

namespace DepAtlas

/-- A file with its contents, or a directory with its entries, each under a name of its own. -/
inductive FileTree where
  | file (contents : ByteArray)
  | directory (entries : List (String × FileTree))
deriving Inhabited

namespace FileTree

/-- The empty directory. -/
def empty : FileTree := directory []

/-- Whether a tree is a directory. -/
def isDirectory : FileTree → Bool
  | file _ => false
  | directory _ => true

/-- The contents of a file; none for a directory. -/
def contents? : FileTree → Option ByteArray
  | file contents => some contents
  | directory _ => none

/-- The entries of a directory; none for a file. -/
def entries : FileTree → List (String × FileTree)
  | file _ => []
  | directory entries => entries

/-- The entry of a directory with a name. -/
def child? (t : FileTree) (name : String) : Option FileTree :=
  (t.entries.find? fun e => e.1 == name).map Prod.snd

/-- The tree at a place below. -/
def at? (t : FileTree) : (place : List String) → Option FileTree
  | [] => some t
  | name :: rest => do (← t.child? name).at? rest

/-- The entries with the one of a name replaced or added. -/
def putEntry (name : String) (new : FileTree) : List (String × FileTree) → List (String × FileTree)
  | [] => [(name, new)]
  | (other, t) :: rest =>
    if other == name then (name, new) :: rest else (other, t) :: putEntry name new rest

/-- The tree with a file written in a directory that is there. Neither the tree itself nor a
directory in it can be overwritten, and no directory is made on the way. -/
def put? (contents : ByteArray) : (place : List String) → FileTree → Option FileTree
  | [], _ | _, file _ => none
  | [name], directory entries =>
    match (directory entries).child? name with
    | some (directory _) => none
    | _ => some (directory (putEntry name (file contents) entries))
  | name :: rest, directory entries => do
    let changed ← put? contents rest (← (directory entries).child? name)
    some (directory (putEntry name changed entries))

/-- The tree with a directory at a place, made with those around it where they are missing. A
directory that is there stays as it is, and a file in its place or on the way stands against it. -/
def withDirectory? : (place : List String) → FileTree → Option FileTree
  | [], directory entries => some (directory entries)
  | _, file _ => none
  | name :: rest, directory entries => do
    let changed ← withDirectory? rest (((directory entries).child? name).getD empty)
    some (directory (putEntry name changed entries))

mutual

/-- The files of a tree, each with its place below. -/
def files : FileTree → List (List String × ByteArray)
  | file contents => [([], contents)]
  | directory entries => filesOf entries

/-- The files of some entries. -/
def filesOf : List (String × FileTree) → List (List String × ByteArray)
  | [] => []
  | (name, t) :: rest => (t.files.map fun (place, c) => (name :: place, c)) ++ filesOf rest

end

/-- The files of a tree that another tree does not hold with the same contents: what is new or
changed since. A file that has gone does not count. -/
def changes (before after : FileTree) : List (List String × ByteArray) :=
  after.files.filter fun (place, contents) =>
    match before.at? place with
    | some (file old) => old != contents
    | _ => true

end FileTree

end DepAtlas
