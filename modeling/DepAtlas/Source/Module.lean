import DepAtlas.Name
import DepAtlas.Path

set_option autoImplicit false

/-!
# The module of a file

The place of a file below its source directory decides the name of its module.

## Main definitions

* `moduleName` — the name of the module of a file.
-/

namespace DepAtlas.Source

/-- The names among the components of a path. -/
def plainComponents (path : String) : List String :=
  (Path.components path).filterMap fun
    | .normal name => some name
    | _ => none

/-- The components behind the last one that is `src`; the last component if none is. So a file
outside of every source directory counts as one that stands directly in it. -/
def belowSource (components : List String) : List String :=
  if components.contains "src" then
    (components.reverse.takeWhile fun name => name != "src").reverse
  else components.getLast?.toList

/-- The segment of a directory. A hyphen cannot stand in a name, so an underscore takes its place. -/
def directorySegment (name : String) : String :=
  String.ofList (name.toList.map fun c => if c == '-' then '_' else c)

/-- The segment of a file, if it has one of its own: not if it stands for its directory. Three names
stand for the directory at any depth, also those that the build asks for only at the top. -/
def fileSegment? (name : String) : Option String :=
  let stem := String.ofList ((Text.beforeSuffix? ".rs".toList name.toList).getD name.toList)
  if ["mod", "lib", "main"].contains stem then none else some (directorySegment stem)

/-- The segments below the root for components below the source directory. All but the last are
directories, whatever they are called. -/
def moduleSegments : List String → List String
  | [] => []
  | [file] => (fileSegment? file).toList
  | directory :: rest => directorySegment directory :: moduleSegments rest

/-- The name of the module of a file. -/
def moduleName (path : String) : String :=
  Name.join ("crate" :: moduleSegments (belowSource (plainComponents path)))
    Name.defaultSeparator

end DepAtlas.Source
