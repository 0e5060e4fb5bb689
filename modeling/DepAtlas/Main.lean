import DepAtlas.Run.Program

set_option autoImplicit false

/-!
# The command line

The surroundings of a call are read into a world, the call is run in it, and what it changed is
written back. Only the working directory and what an argument may lead to are read whole. Of the
directories on the way there, only what a configuration or an ignore file may stand in is read. No
tool is ever found, since none can be started from here.

## Main definitions

* `Surroundings.read` — the world around a call.
* `Surroundings.store` — puts the changed files back.
* `main` — runs the command line.
-/

namespace DepAtlas.Surroundings

/-- The path of a place. -/
def pathOf (place : List String) : String :=
  "/" ++ "/".intercalate place

/-- The contents of a file that may be missing or unreadable. -/
def contents? (path : String) : IO (Option ByteArray) := do
  match ← (IO.FS.readBinFile path).toBaseIO with
  | .ok bytes => return some bytes
  | .error _ => return none

/-- Whether a directory is at a path, perhaps behind links. -/
def isDirectory (path : String) : IO Bool := do
  match ← (IO.FS.realPath path).toBaseIO with
  | .error _ => return false
  | .ok here => here.isDir

/-- The tree at a path. What cannot be read is left out, and so is a link below the path. -/
partial def tree? (path : String) : IO (Option FileTree) := do
  let here ← (IO.FS.realPath path).toBaseIO
  match here with
  | .error _ => return none
  | .ok here =>
    if ← here.isDir then
      let mut entries : List (String × FileTree) := []
      match ← here.readDir.toBaseIO with
      | .error _ => pure ()
      | .ok found =>
        for entry in found do
          if (← entry.path.symlinkMetadata).type != .symlink then
            if let some t ← tree? (path ++ "/" ++ entry.fileName) then
              entries := entries ++ [(entry.fileName, t)]
      return some (.directory entries)
    else return (← contents? path).map .file

/-- The files of a directory that matter although the directory is not read whole. -/
def markers : List (List String) :=
  [projectConfigName] :: IgnoreKind.all.map IgnoreKind.place

/-- A directory with nothing but its marker files. -/
def frame (place : List String) : IO FileTree := do
  let mut t : FileTree := .empty
  for marker in markers do
    if let some contents ← contents? (pathOf (place ++ marker)) then
      t := (t.withDirectory? marker.dropLast).getD t
      t := (t.put? contents marker).getD t
  return t

/-- The paths that wanted ones lead on to behind a name. -/
def behind (name : String) (wanted : List (List String)) : List (List String) :=
  (wanted.filter fun path => path.head? == some name).map List.tail

/-- The tree at a place. What is wanted below it is read whole, and so is what is no directory on the
way there; of the directories on the way the marker files are read. -/
partial def view? (place : List String) (wanted : List (List String)) : IO (Option FileTree) := do
  if wanted.contains [] || !(← isDirectory (pathOf place)) then tree? (pathOf place)
  else
    let mut t ← frame place
    for name in (wanted.filterMap List.head?).eraseDups do
      if let some below ← view? (place ++ [name]) (behind name wanted) then
        t := .directory (FileTree.putEntry name below t.entries)
    return some t

/-- The texts in an argument that may be paths: all of it, what follows an equals sign, and what
follows a letter behind a hyphen. -/
def candidates (argument : String) : List String :=
  [argument, "=".intercalate ((argument.splitOn "=").drop 1), (argument.drop 2).toString]

/-- The place that a path leads to from a directory, or the front of it before its first wildcard. -/
def placeOf (here : List String) (path : String) : List String :=
  let step (place : List String) : Path.Component → List String
    | .root => []
    | .current => place
    | .parent => place.dropLast
    | .normal name => place ++ [name]
  (Path.components (if hasWildcard path then literalFront path else path)).foldl step here

/-- The values of the environment variables that are set. -/
def environment (names : List String) : IO (List (String × String)) := do
  let mut found : List (String × String) := []
  for name in names do
    if let some value ← IO.getEnv name then
      found := found ++ [(name, value)]
  return found

/-- The contents of the user's configuration file, and whether something else is in its place. -/
def userConfig : IO (Option ByteArray × Bool) := do
  let home := (← IO.getEnv "HOME").getD ""
  let folder := (← IO.getEnv "XDG_CONFIG_HOME").getD (home ++ "/.config")
  let path := folder ++ "/deplens/config.toml"
  let here ← (IO.FS.realPath path).toBaseIO
  let contents ← contents? path
  return (contents, contents.isNone && here.toOption.isSome)

/-- The world around a call with some arguments. -/
def read (args : List String) : IO World := do
  let here ← IO.currentDir
  let place := (here.toString.splitOn "/").filter (!·.isEmpty)
  let (userConfig, blocksUserConfig) ← userConfig
  return {
    files := (← view? [] (place :: (args.flatMap candidates).map (placeOf place))).getD .empty
    workingDirectory := place
    viewpoint := place
    environment := ← environment Config.environmentNames
    userConfig
    blocksUserConfig }

/-- Writes the files that differ between two worlds. -/
def store (before after : World) : IO Unit := do
  for (place, contents) in before.files.changes after.files do
    IO.FS.createDirAll (pathOf place.dropLast)
    IO.FS.writeBinFile (pathOf place) contents

end DepAtlas.Surroundings

/-- Runs the command line and gives its exit code. What was written before a failure is shown too. -/
def main (args : List String) : IO UInt32 := do
  let before ← DepAtlas.Surroundings.read args
  let (result, session) :=
    (DepAtlas.ArgumentList.mk DepAtlas.programName args).run (fun _ => none) { world := before }
  DepAtlas.Surroundings.store before session.world
  (← IO.getStdout).putStr session.out
  (← IO.getStderr).putStr session.err
  match result with
  | .ok code => return code.toUInt32
  | .error failure =>
    (← IO.getStderr).putStr (DepAtlas.errorLine failure.message)
    return DepAtlas.failureCode.toUInt32
