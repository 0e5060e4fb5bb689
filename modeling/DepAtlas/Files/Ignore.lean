import DepAtlas.Files.World
import DepAtlas.Glob.Reader
import DepAtlas.Text.Blank

set_option autoImplicit false

/-!
# Ignore files

An ignore file in a directory names entries below it that are to be left out, or kept after all.
There are four kinds of ignore file. Of each kind the nearest file that says something counts, and
among the kinds the first one.

## Main definitions

* `IgnoreRule` — one line of an ignore file.
* `ignoreRules` — the rules of a whole file.
* `FileTree.isIgnored` — whether an entry is left out.
-/

namespace DepAtlas

/-- One line of an ignore file: entries below the directory that it is about, to be left out or
kept. -/
structure IgnoreRule where
  glob : Glob
  keeps : Bool
  onlyDirectories : Bool
deriving Repr, Inhabited

/-! ## Reading -/

/-- How the patterns of ignore files are read. -/
def ignoreDialect : Glob.Dialect := ⟨true, true⟩

/-- A line without the blanks at its end, unless the last of them is escaped. The backslash of such
an escape stays, as a part of the pattern. -/
def trimIgnoreLine (line : List Char) : List Char :=
  if ['\\', ' '].isSuffixOf line then line else Text.trimEnd line

/-- A pattern without a slash at its end, and whether it had one. The escape of such a slash goes
with it. -/
def cutDirectoryMark (pattern : List Char) : List Char × Bool :=
  match Text.beforeSuffix? ['/'] pattern with
  | none => (pattern, false)
  | some front => ((Text.beforeSuffix? ['\\'] front).getD front, true)

/-- The pattern from the directory of the ignore file on. A pattern without a slash is about entries
at any depth, and what ends in two stars is about what is inside: the directory in front of them is
not meant. -/
def anchored (isRooted : Bool) (pattern : List Char) : List Char :=
  let anywhere := "**/".toList
  let pattern :=
    if isRooted || pattern.contains '/' || pattern = "**".toList then pattern
    else anywhere ++ pattern
  if "/**".toList.isSuffixOf pattern then pattern ++ "/*".toList else pattern

/-- The rule of a line, if it has one: not a comment, a blank line or a broken pattern. A backslash
in front of the two special marks makes them ordinary characters, and an exclamation mark in front
makes the rule one that keeps. -/
def ignoreRule? (line : List Char) : Option IgnoreRule := do
  if line.head? = some '#' then none
  let line := trimIgnoreLine line
  if line.isEmpty then none
  let (keeps, isRooted, pattern) := match line with
    | '\\' :: '!' :: rest => (false, false, '!' :: rest)
    | '\\' :: '#' :: rest => (false, false, '#' :: rest)
    | '!' :: '/' :: rest => (true, true, rest)
    | '!' :: rest => (true, false, rest)
    | '/' :: rest => (false, true, rest)
    | rest => (false, false, rest)
  -- the slash at the end is cut off first: it does not tie the pattern to the directory of its file
  let (pattern, onlyDirectories) := cutDirectoryMark pattern
  let glob ← Glob.read? ignoreDialect (String.ofList (anchored isRooted pattern))
  some ⟨glob, keeps, onlyDirectories⟩

/-- The lines of bytes, without their line ends. Lines are told apart before anything is decoded, so
a line that is no text does not hide the ones in front of it. -/
def byteLines : List UInt8 → List (List UInt8)
  | [] => [[]]
  | b :: rest =>
    if b == 10 then [] :: byteLines rest
    else match byteLines rest with
      | [] => [[b]]
      | line :: more => (b :: line) :: more

/-- The lines of a file up to the first that is no text. A carriage return at the end of a line is a
part of its line end. -/
def textLines (contents : ByteArray) : List (List Char) :=
  let decoded := (byteLines contents.toList).map fun line =>
    Text.decode? ⟨((if line.getLast? = some 13 then line.dropLast else line)).toArray⟩
  ((decoded.takeWhile Option.isSome).filterMap id).map String.toList

/-- The rules of an ignore file, in order. A byte order mark at the front does not count. -/
def ignoreRules (contents : ByteArray) : List IgnoreRule :=
  match textLines contents with
  | [] => []
  | first :: rest => ((first.dropWhile (· == '\uFEFF')) :: rest).filterMap ignoreRule?

/-! ## Verdicts -/

/-- What ignore files say about an entry. -/
inductive Verdict where
  | ignored
  | kept
deriving DecidableEq, Repr

/-- What rules say about the entry with a path from their directory: the last rule that is about it
decides. Rules for directories say nothing about files. -/
def verdict? (rules : List IgnoreRule) (path : String) (isDirectory : Bool) : Option Verdict :=
  let about (r : IgnoreRule) : Bool :=
    (!r.onlyDirectories || isDirectory) && r.glob.accepts path
  (rules.reverse.find? about).map fun r => if r.keeps then .kept else .ignored

/-- The kinds of ignore file, the one that counts most first. -/
inductive IgnoreKind where
  | own
  | general
  | repository
  | repositoryLocal
deriving DecidableEq, Repr

namespace IgnoreKind

/-- All kinds, the one that counts most first. -/
def all : List IgnoreKind := [own, general, repository, repositoryLocal]

/-- Where the ignore file of a directory is, from that directory. -/
def place : IgnoreKind → List String
  | own => [".deplensignore"]
  | general => [".ignore"]
  | repository => [".gitignore"]
  | repositoryLocal => [".git", "info", "exclude"]

/-- Whether files of a kind count only within a repository. -/
def needsRepository : IgnoreKind → Bool
  | own | general => false
  | repository | repositoryLocal => true

end IgnoreKind

namespace FileTree

/-- The rules of a directory. -/
def rulesAt (t : FileTree) (kind : IgnoreKind) (folder : List String) : List IgnoreRule :=
  match t.at? (folder ++ kind.place) with
  | some (.file contents) => ignoreRules contents
  | _ => []

/-- Whether a directory is the top of a repository. -/
def isRepository (t : FileTree) (folder : List String) : Bool :=
  (t.at? (folder ++ [".git"])).isSome

/-- What the ignore files of a kind say about an entry: `outer` are the directories above it from
the nearest on, each with the path of the entry from there. Files that need a repository count only
up to its top, so what stands above the nearest repository says nothing. -/
def verdictOf (t : FileTree) (kind : IgnoreKind) (isDirectory : Bool) :
    (outer : List (List String × List String)) → Option Verdict
  | [] => none
  | (folder, path) :: outer =>
    match verdict? (t.rulesAt kind folder) ("/".intercalate path) isDirectory with
    | some v => some v
    | none =>
      -- the top of the repository is asked itself, but nothing above it
      if kind.needsRepository && t.isRepository folder then none
      else t.verdictOf kind isDirectory outer

/-- The directories above a place from the nearest on, each with the path from there. -/
def above (place : List String) : List (List String × List String) :=
  (List.range place.length).reverse.map fun n => (place.take n, place.drop n)

/-- Whether the entry at a place is left out. The kinds are asked in their order, and the first that
says anything decides, be it to keep the entry. Without a repository around the entry only two kinds
count. -/
def isIgnored (t : FileTree) (place : List String) (isDirectory : Bool) : Bool :=
  let outer := above place
  let inRepository := outer.any fun (folder, _) => t.isRepository folder
  let kinds := IgnoreKind.all.filter fun kind => !kind.needsRepository || inRepository
  kinds.findSome? (fun kind => t.verdictOf kind isDirectory outer) == some .ignored

end FileTree

end DepAtlas
