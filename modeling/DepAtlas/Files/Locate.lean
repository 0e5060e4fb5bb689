import DepAtlas.Files.Ignore

set_option autoImplicit false

/-!
# Locating source files

Sources are files, directories and glob patterns. A directory stands for the source files in it
that are not ignored, a pattern for those of the directory in front of its first wildcard that it
matches.

## Main definitions

* `Selection` — the patterns that restrict which files are taken.
* `World.locate` — the source files of a list of sources.
-/

namespace DepAtlas

/-- Whether a text has wildcards. Any of four characters makes a source a pattern, even where it is
escaped or the pattern turns out to be broken. -/
def hasWildcard (text : String) : Bool :=
  text.toList.any fun c => c == '*' || c == '?' || c == '[' || c == '\x7b'

/-- Whether a path has the extension of source files. A name that begins with its only dot has none,
so `.rs` is no source file. -/
def isSource (path : String) : Bool :=
  Path.extension? path == some "rs"

/-- The patterns that restrict which files are taken: one of the first list if it is not empty, and
none of the second. -/
structure Selection where
  includes : List Glob
  excludes : List Glob
deriving Inhabited

/-- What can go wrong when sources are located. -/
inductive LocateError where
  | noFiles (path : String)
  | badGlob
deriving DecidableEq, Repr

/-- The patterns of a list of texts. -/
def readGlobs? (texts : List String) : Except LocateError (List Glob) :=
  match texts.mapM (Glob.read? Glob.standalone) with
  | some globs => .ok globs
  | none => .error .badGlob

/-- A file that was found below a root: its path, and the path from the root. -/
structure Found where
  path : String
  relative : String
deriving DecidableEq, Repr

namespace Selection

/-- The selection of two lists of patterns. -/
def ofPatterns? (includes excludes : List String) : Except LocateError Selection := do
  let includes ← readGlobs? includes
  let excludes ← readGlobs? excludes
  pure ⟨includes, excludes⟩

/-- Whether a file is taken. A pattern may match its path from the root or its whole path; one that
excludes may also match its name, wherever the file is. -/
def takes (s : Selection) (f : Found) : Bool :=
  isSource f.path
    && !(Globs.accept s.excludes f.relative || Globs.accept s.excludes f.path
      || (Path.fileName? f.path).any (Globs.accept s.excludes))
    && (s.includes.isEmpty || Globs.accept s.includes f.relative
      || Globs.accept s.includes f.path)

end Selection

/-! ## Walking -/

/-- A path with a name behind it. A slash comes between them unless the path ends in one. -/
def joinName (path name : String) : String :=
  if path.toList.getLast? = some '/' then path ++ name else path ++ "/" ++ name

/-- The path from the root with a name behind it. -/
def joinRelative (relative name : String) : String :=
  if relative.isEmpty then name else relative ++ "/" ++ name

mutual

/-- The files of a tree that are not ignored. The tree is at a place among all files and was reached
as `here`. Where the walk begins nothing is asked about the tree itself, so a root that an ignore
file names is walked all the same. -/
def walkTree (all : FileTree) (place : List String) (here : Found) : FileTree → List Found
  | .file _ => [here]
  | .directory entries => walkEntries all place here entries

/-- The files of the entries of a directory that are not ignored. A directory that is ignored is not
entered, so nothing in it can be kept after all. -/
def walkEntries (all : FileTree) (place : List String) (here : Found) :
    List (String × FileTree) → List Found
  | [] => []
  | (name, t) :: rest =>
    (if all.isIgnored (place ++ [name]) t.isDirectory then []
      else walkTree all (place ++ [name])
        ⟨joinName here.path name, joinRelative here.relative name⟩ t)
      ++ walkEntries all place here rest

end

/-- The files below a path, with the path in front as it was written. What is not there has no
files. -/
def World.walk (w : World) (root : String) : List Found :=
  match w.place? root with
  | none => []
  | some place =>
    match w.files.at? place with
    | none => []
    | some t => walkTree w.files place ⟨root, ""⟩ t

/-! ## Sources -/

/-- The directory in front of the first component with a wildcard. Its components are joined again,
so it may be written otherwise than in the pattern: repeated slashes and inner dots go. The working
directory takes the place of an empty front. -/
def literalFront (pattern : String) : String :=
  let front := (Path.components pattern).takeWhile fun c => !hasWildcard c.text
  match front with
  | [] => "."
  | .root :: rest => "/" ++ "/".intercalate (rest.map Path.Component.text)
  | front => "/".intercalate (front.map Path.Component.text)

/-- The source files that one source stands for. A name with wildcards is always taken for a
pattern, even if a file has this very name. The patterns of the selection concern what is found
below a directory, while a file that is named as such only has to have the extension. -/
def World.locateSource (w : World) (s : Selection) (source : String) :
    Except LocateError (List String) :=
  if hasWildcard source then do
    -- the pattern is matched against the path with the front before it, as the walk spells it
    let pattern ← readGlobs? [source]
    let found := (w.walk (literalFront source)).filter fun f => Globs.accept pattern f.path
    pure ((found.filter s.takes).map Found.path)
  else if w.isDirectory source then
    .ok (((w.walk source).filter s.takes).map Found.path)
  else if w.isFile source then
    .ok (if isSource source then [source] else [])
  else .error (.noFiles source)

/-- A sorted list of paths where of equal neighbours only the first is kept. Paths are equal if
their components are, so `a//b` and `a/b` are, while `./a` and `a` are not. -/
def withoutRepeats : List String → List String
  | a :: b :: rest =>
    if Path.compare a b = .eq then withoutRepeats (a :: rest) else a :: withoutRepeats (b :: rest)
  | paths => paths
termination_by paths => paths.length

/-- The source files of all sources, in path order and each once. There has to be at least one. The
first source that fails decides the error; where all together find nothing, the first one is named. -/
def World.locate (w : World) (s : Selection) (sources : List String) :
    Except LocateError (List String) := do
  let found ← sources.mapM (w.locateSource s)
  let sorted := found.flatten.mergeSort fun a b => Path.compare a b != .gt
  match withoutRepeats sorted with
  | [] => .error (.noFiles (sources.headD ""))
  | files => .ok files

end DepAtlas
