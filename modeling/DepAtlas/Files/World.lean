import DepAtlas.Files.Tree
import DepAtlas.Path

set_option autoImplicit false

/-!
# The world that a command runs in

## Main definitions

* `World` — the files, the working directory, the environment and the user's configuration.
* `World.find?` — what a path leads to.
* `World.read?`, `World.write?`, `World.makeDirectory` — access to files by path.
-/

namespace DepAtlas

/-- The files that a command can see, and the rest of its surroundings. All files are one tree from
the root on, so the working directory is a place in it and paths may lead out of it. -/
structure World where
  files : FileTree
  /-- the working directory, as a place in the files -/
  workingDirectory : List String := []
  /-- the place from which other places are shown -/
  viewpoint : List String := []
  environment : List (String × String) := []
  /-- the contents of the user's configuration file -/
  userConfig : Option ByteArray := none
  /-- something that cannot be read is in the place of the user's configuration file -/
  blocksUserConfig : Bool := false
deriving Inhabited

/-- The path of the user's configuration file. -/
def userConfigPath : String := "<user>/deplens/config.toml"

namespace World

/-! ## Paths -/

/-- The value of an environment variable. Of two entries with one name the first counts. -/
def environmentValue? (w : World) (name : String) : Option String :=
  (w.environment.find? fun e => e.1 == name).map Prod.snd

/-- The place that steps lead to from a place. Each step but the last leads through a directory: a
file on the way, or nothing, ends the walk. An empty step or a dot stays there, and two dots lead to
the directory around it; around the root there is the root itself. -/
def walk? (files : FileTree) : (place : List String) → (steps : List (List Char)) →
    Option (List String)
  | place, [] => some place
  | place, step :: rest =>
    if ((files.at? place).any FileTree.isDirectory) then
      match step with
      | [] | ['.'] => walk? files place rest
      | ['.', '.'] => walk? files place.dropLast rest
      | name => walk? files (place ++ [String.ofList name]) rest
    else none

/-- The place that a path leads to, whether something is there or not. A path with a slash in front
starts at the root of all files, every other one at the working directory, and the empty path leads
nowhere. -/
def place? (w : World) (path : String) : Option (List String) :=
  match Path.pieces path with
  -- the empty path has one piece, and an absolute one an empty piece in front of its steps
  | [] | [[]] => none
  | [] :: steps => walk? w.files [] steps
  | steps => walk? w.files w.workingDirectory steps

/-- What a path leads to. -/
def find? (w : World) (path : String) : Option FileTree := do
  w.files.at? (← w.place? path)

/-- Whether a path leads to a directory. -/
def isDirectory (w : World) (path : String) : Bool :=
  (w.find? path).any FileTree.isDirectory

/-- Whether a path leads to a file. -/
def isFile (w : World) (path : String) : Bool :=
  (w.find? path).any fun t => !t.isDirectory

/-- How a place is shown: from the viewpoint on if it lies below it, and with a slash in front if it
does not. -/
def shown (w : World) (place : List String) : String :=
  if w.viewpoint.isPrefixOf place then "/".intercalate (place.drop w.viewpoint.length)
  else "/" ++ "/".intercalate place

/-! ## Access -/

/-- The contents of the file that a path leads to. A directory cannot be read. -/
def read? (w : World) (path : String) : Option ByteArray := do
  (← w.find? path).contents?

/-- The world with a file written, if the directory around it is there. A path with a slash at its
end can only lead to a directory, so nothing is written there. -/
def write? (w : World) (path : String) (contents : ByteArray) : Option World := do
  let place ← w.place? path
  if path.toList.getLast? = some '/' then none
  some { w with files := ← w.files.put? contents place }

/-- Makes the directories of a path that leads on from a place, where they are missing. What was
made before something that is no directory stood in the way stays, and the flag tells whether
nothing did. Two dots lead back from a directory that was made on the way, so this one is made
although the path as a whole does not need it. -/
def makeDirectories (w : World) : (place : List String) → List Path.Component → Bool × World
  | _, [] => (true, w)
  | _, .root :: rest => makeDirectories w [] rest
  | place, .current :: rest => makeDirectories w place rest
  | place, .parent :: rest => makeDirectories w place.dropLast rest
  | place, .normal name :: rest =>
    match w.files.withDirectory? (place ++ [name]) with
    | none => (false, w)
    | some files => makeDirectories { w with files } (place ++ [name]) rest

/-- Makes the directories of a path, from the root on if it begins there and else from the working
directory on. -/
def makeDirectory (w : World) (components : List Path.Component) : Bool × World :=
  w.makeDirectories w.workingDirectory components

end World

end DepAtlas
