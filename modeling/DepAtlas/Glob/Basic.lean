set_option autoImplicit false

/-!
# Glob patterns

A glob pattern stands for a set of paths. It is matched against the bytes of a path, so that a
question mark stands for a single byte.

## Main definitions

* `Glob` — a pattern as a sequence of parts.
* `Glob.accepts` — whether a pattern stands for a path.
* `Globs.accept` — whether one of several patterns does.
-/

namespace DepAtlas

/-- One part of a glob pattern. -/
inductive GlobPart where
  /-- this byte -/
  | byte (b : UInt8)
  /-- any one byte -/
  | anyByte
  /-- any run of bytes -/
  | anyRun
  /-- nothing, or directories down to a slash -/
  | leadingDirectories
  /-- a slash, or directories between two slashes -/
  | innerDirectories
  /-- a slash and anything below it -/
  | everythingBelow
  /-- one byte within the ranges, or outside of them -/
  | byteClass (negated : Bool) (ranges : List (UInt8 × UInt8))
  /-- one of several patterns; no pattern at all stands for nothing -/
  | branches (alternatives : List (List GlobPart))
deriving Repr, Inhabited

/-- A glob pattern. Its runs and single bytes may be kept within one component of a path. -/
structure Glob where
  parts : List GlobPart
  withinComponents : Bool
deriving Repr, Inhabited

namespace Glob

/-- The byte of a slash. -/
def slash : UInt8 := 47

/-! ## Remainders

A part may match several beginnings of a text. Each of the following functions lists what is left
of the text behind them, every remainder once. -/

/-- The text itself and every shorter end of it. -/
def ends : List UInt8 → List (List UInt8)
  | [] => [[]]
  | b :: rest => (b :: rest) :: ends rest

/-- The ends of a text behind one of its slashes. -/
def endsBehindSlash : List UInt8 → List (List UInt8)
  | [] => []
  | b :: rest => if b = slash then rest :: endsBehindSlash rest else endsBehindSlash rest

/-- The ends of a text that begin in its first component. -/
def endsWithin : List UInt8 → List (List UInt8)
  | [] => [[]]
  | b :: rest => (b :: rest) :: if b = slash then [] else endsWithin rest

/-- A list of remainders of one text without repetitions; equally long ones are equal. So no more
remainders are kept than the text has ends, however many stars the pattern has. -/
def withoutRepetition (remainders : List (List UInt8)) : List (List UInt8) :=
  remainders.foldr
    (fun r kept => if kept.any fun k => k.length == r.length then kept else r :: kept) []

/-- Whether a byte is in a class. -/
def inClass (negated : Bool) (ranges : List (UInt8 × UInt8)) (b : UInt8) : Bool :=
  (ranges.any fun (lo, hi) => lo ≤ b && b ≤ hi) != negated

/-- What is left behind one byte that passes a test. -/
def behindByte (test : UInt8 → Bool) : List UInt8 → List (List UInt8)
  | [] => []
  | b :: rest => if test b then [rest] else []

mutual

/-- What is left behind one part. -/
def behindPart (within : Bool) : GlobPart → List UInt8 → List (List UInt8)
  | .byte c, s => behindByte (· == c) s
  | .anyByte, s => behindByte (fun b => !within || b != slash) s
  | .anyRun, s => if within then endsWithin s else ends s
  | .leadingDirectories, s => s :: endsBehindSlash s
  | .innerDirectories, s =>
    match s with
    | b :: rest => if b = slash then rest :: endsBehindSlash rest else []
    | [] => []
  | .everythingBelow, s =>
    match s with
    | b :: rest => if b = slash then ends rest else []
    | [] => []
  | .byteClass negated ranges, s => behindByte (inClass negated ranges) s
  | .branches [], s => [s]
  | .branches (first :: more), s =>
    behindParts within first [s] ++ behindBranches within more s

/-- What is left behind a sequence of parts, from several remainders on. -/
def behindParts (within : Bool) : List GlobPart → List (List UInt8) → List (List UInt8)
  | [], remainders => remainders
  | part :: parts, remainders =>
    behindParts within parts
      (withoutRepetition (remainders.flatMap fun s => behindPart within part s))

/-- What is left behind one of several branches. -/
def behindBranches (within : Bool) : List (List GlobPart) → List UInt8 → List (List UInt8)
  | [], _ => []
  | parts :: more, s => behindParts within parts [s] ++ behindBranches within more s

end

/-- Whether the pattern stands for a path. Two stars alone stand for every path. What is left behind
all the parts has to be empty once, so a pattern is about the path as a whole. -/
def accepts (g : Glob) (path : String) : Bool :=
  match g.parts with
  -- as a part it would only stand for directories down to a slash
  | [.leadingDirectories] => true
  | parts => (behindParts g.withinComponents parts [path.toUTF8.toList]).any List.isEmpty

end Glob

/-- Whether one of several patterns stands for a path. -/
def Globs.accept (globs : List Glob) (path : String) : Bool :=
  globs.any fun g => g.accepts path

end DepAtlas
