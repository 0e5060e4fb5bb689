import DepAtlas.Glob.Basic

set_option autoImplicit false

/-!
# Reading glob patterns

## Main definitions

* `Glob.read?` — the pattern that a text is the notation of.
-/

namespace DepAtlas.Glob

/-- How a pattern is read: whether its wildcards stay within components, and whether a bracket that
is never closed stands for itself. -/
structure Dialect where
  withinComponents : Bool
  openBrackets : Bool
deriving DecidableEq, Repr

/-- The parts of one character. -/
def literal (c : Char) : List GlobPart :=
  (String.singleton c).toUTF8.toList.map .byte

/-! ## Classes -/

/-- The character ranges of a class, up to the bracket that closes it, and the rest. `first` holds
at the front, where a bracket stands for itself; `ranged` after a hyphen, which makes the next
character the end of a range. The ranges are in reverse. -/
def classRanges? : (first ranged : Bool) → (ranges : List (Char × Char)) → List Char →
    Option (List (Char × Char) × List Char)
  | _, _, _, [] => none
  | first, ranged, ranges, ']' :: rest =>
    if first then classRanges? false false ((']', ']') :: ranges) rest
    else some ((if ranged then ('-', '-') :: ranges else ranges).reverse, rest)
  | first, ranged, ranges, c :: rest =>
    if c == '-' && !first && !ranged then classRanges? false true ranges rest
    else
      match ranged, ranges with
      | true, (lo, _) :: more => classRanges? false false ((lo, c) :: more) rest
      | _, _ => classRanges? false false ((c, c) :: ranges) rest

/-- The byte ranges of a character range. A character of several bytes stands for each of them,
with the range from the last byte of the first character to the first byte of the last. -/
def byteRanges (range : Char × Char) : List (UInt8 × UInt8) :=
  let bytes (c : Char) : List UInt8 := (String.singleton c).toUTF8.toList
  let single (bs : List UInt8) : List (UInt8 × UInt8) := bs.map fun b => (b, b)
  if range.1 == range.2 then single (bytes range.1)
  else
    let lo := bytes range.1
    let hi := bytes range.2
    single lo.dropLast ++ [(lo.getLastD 0, hi.headD 0)] ++ single hi.tail

/-- What a class can be: its part and the rest, or a class that is never closed, or one with a range
that runs backwards. -/
inductive ClassReading where
  | closed (part : GlobPart) (rest : List Char)
  | unclosed
  | invalid

/-- Reads a class behind its opening bracket. One of two marks at its front makes it stand for the
bytes outside of its ranges. -/
def readClass (s : List Char) : ClassReading :=
  let (negated, s) := match s with
    | '!' :: rest | '^' :: rest => (true, rest)
    | s => (false, s)
  match classRanges? true false [] s with
  | none => .unclosed
  | some (ranges, rest) =>
    let bytes := ranges.flatMap byteRanges
    if (ranges.all fun (lo, hi) => lo ≤ hi) && bytes.all fun (lo, hi) => lo ≤ hi then
      .closed (.byteClass negated bytes) rest
    else .invalid

/-! ## Parts -/

/-- The parts read so far: those of the innermost branch, in reverse, and the open groups around it,
each with the branches that are complete and with the parts in front of it. -/
structure Building where
  parts : List GlobPart := []
  groups : List (List (List GlobPart) × List GlobPart) := []
deriving Inhabited

namespace Building

/-- Adds parts behind the others. -/
def add (b : Building) (parts : List GlobPart) : Building :=
  { b with parts := parts.reverse ++ b.parts }

/-- Begins a group of branches. -/
def openGroup (b : Building) : Building :=
  ⟨[], ([], b.parts) :: b.groups⟩

/-- Begins the next branch of the innermost group. -/
def nextBranch? (b : Building) : Option Building :=
  match b.groups with
  | [] => none
  | (done, before) :: more => some ⟨[], (done ++ [b.parts.reverse], before) :: more⟩

/-- Whether a sequence of parts stands for nothing. -/
def isVoid (parts : List GlobPart) : Bool :=
  parts.all fun
    | .branches [] => true
    | _ => false

/-- Ends the innermost group. Branches that stand for nothing are left out, so a group of such
branches stands for nothing itself. -/
def closeGroup? (b : Building) : Option Building :=
  match b.groups with
  | [] => none
  | (done, before) :: more =>
    let branches := (done ++ [b.parts.reverse]).filter fun parts => !isVoid parts
    some ⟨.branches branches :: before, more⟩

/-- Adds what two stars between slashes stand for. The slash in front is a part of it, so it takes
the place of the part before, unless this one already stands for directories. -/
def addDirectories (b : Building) (part : GlobPart) : Building :=
  -- the part in front is the slash, which the new part contains
  match b.parts with
  | .leadingDirectories :: _ | .everythingBelow :: _ => b
  | _ :: before => { b with parts := part :: before }
  | [] => { b with parts := [part] }

/-- Adds one or two stars. `before` is the character in front of them and `rest` the text behind the
first; answers with the rest of the text too. Two stars stand for directories only if they stand
between slashes or ends, of the pattern or of a branch, and else for two runs. -/
def addStars (b : Building) (before : Option Char) (rest : List Char) : Building × List Char :=
  match rest with
  | '*' :: rest =>
    let plain := b.add [.anyRun, .anyRun]
    if b.parts.isEmpty then
      match rest with
      | [] => (b.add [.leadingDirectories], [])
      | '/' :: rest => (b.add [.leadingDirectories], rest)
      | rest => (plain, rest)
    else if before != some '/'
        && (b.groups.isEmpty || (before != some ',' && before != some '\x7b')) then (plain, rest)
    else match rest with
      | [] => (b.addDirectories .everythingBelow, [])
      | '/' :: rest => (b.addDirectories .innerDirectories, rest)
      | c :: more =>
        if !b.groups.isEmpty && (c == ',' || c == '\x7d') then
          (b.addDirectories .everythingBelow, c :: more)
        else (plain, c :: more)
  | rest => (b.add [.anyRun], rest)

end Building

/-- Reads parts to the end of the text, with fuel for each character. `before` is the character in
front of the text. -/
def readParts (dialect : Dialect) : (fuel : Nat) → (before : Option Char) → (literalBrackets : Bool) →
    Building → List Char → Option (List GlobPart)
  | _, _, _, b, [] => if b.groups.isEmpty then some b.parts.reverse else none
  | 0, _, _, _, _ :: _ => none
  | fuel + 1, before, literalBrackets, b, c :: rest =>
    match c with
    | '?' => readParts dialect fuel (some c) literalBrackets (b.add [.anyByte]) rest
    | '*' =>
      let (b, left) := b.addStars before rest
      let taken := rest.take (rest.length - left.length)
      readParts dialect fuel (some (taken.getLastD c)) literalBrackets b left
    | '[' =>
      if literalBrackets then readParts dialect fuel (some c) literalBrackets (b.add (literal c)) rest
      else match readClass rest with
        | .closed part rest => readParts dialect fuel (some ']') literalBrackets (b.add [part]) rest
        | .unclosed =>
          if dialect.openBrackets then readParts dialect fuel (some c) true (b.add (literal c)) rest
          else none
        | .invalid => none
    | '\x7b' => readParts dialect fuel (some c) literalBrackets b.openGroup rest
    | '\x7d' => do readParts dialect fuel (some c) literalBrackets (← b.closeGroup?) rest
    | ',' =>
      readParts dialect fuel (some c) literalBrackets (b.nextBranch?.getD (b.add (literal c))) rest
    | '\\' =>
      match rest with
      | [] => none
      | e :: rest => readParts dialect fuel (some e) literalBrackets (b.add (literal e)) rest
    | c => readParts dialect fuel (some c) literalBrackets (b.add (literal c)) rest

/-- The pattern that a text is the notation of. -/
def read? (dialect : Dialect) (text : String) : Option Glob :=
  let s := text.toList
  (readParts dialect s.length none false {} s).map fun parts => ⟨parts, dialect.withinComponents⟩

/-- How patterns are read that stand by themselves. -/
def standalone : Dialect := ⟨false, false⟩

end DepAtlas.Glob
