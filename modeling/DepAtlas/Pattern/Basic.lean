import DepAtlas.Unicode.Property

set_option autoImplicit false

/-!
# Patterns and what they match

A pattern is a regular expression with assertions about its place in the text. Matching follows
sets of positions: an expression leads from a set of positions, where it may begin, to the set of
positions where it may end. A set of positions is a number whose bit `i` stands for position `i`.

## Main definitions

* `Pattern.Expr` — regular expressions.
* `Pattern.Expr.ends` — the positions where a match may end.
* `Pattern.Expr.cost` — a bound on the size of the automaton of an expression.
* `Pattern` — a pattern, with `Pattern.occursIn`.
-/

namespace DepAtlas

namespace Pattern

/-! ## Expressions -/

/-- An assertion about a position. -/
inductive Look where
  | textStart
  | textEnd
  | lineStart
  | lineEnd
  /-- as `lineStart`, with a carriage return before the line feed as part of the line end -/
  | crlfStart
  | crlfEnd
  /-- exactly one side is a character of `word` -/
  | boundary (word : CharSet)
  | notBoundary (word : CharSet)
  | wordStart (word : CharSet)
  | wordEnd (word : CharSet)
  /-- no character of `word` before -/
  | wordStartHalf (word : CharSet)
  /-- no character of `word` after -/
  | wordEndHalf (word : CharSet)
deriving Repr

/-- A regular expression. -/
inductive Expr where
  | empty
  | set (members : CharSet)
  | look (assertion : Look)
  | seq (first second : Expr)
  | or (left right : Expr)
  /-- at least `least` times, and at most `most` times if that is given -/
  | repeat (body : Expr) (least : Nat) (most : Option Nat)
deriving Repr, Inhabited

/-! ## Assertions -/

/-- Whether an optional neighbour is in a set. -/
def isIn (set : CharSet) : Option Char → Bool
  | some c => set.mem c
  | none => false

/-- Whether an assertion holds between two neighbours; `none` is an end of the text. Outside of the
text there is no character of a word. -/
def Look.holds (before after : Option Char) : Look → Bool
  | textStart => before.isNone
  | textEnd => after.isNone
  | lineStart => before.isNone || before == some '\n'
  | lineEnd => after.isNone || after == some '\n'
  | crlfStart =>
    before.isNone || before == some '\n' || (before == some '\r' && after != some '\n')
  | crlfEnd =>
    after.isNone || after == some '\r' || (after == some '\n' && before != some '\r')
  | boundary word => isIn word before != isIn word after
  | notBoundary word => isIn word before == isIn word after
  | wordStart word => !isIn word before && isIn word after
  | wordEnd word => isIn word before && !isIn word after
  | wordStartHalf word => !isIn word before
  | wordEndHalf word => !isIn word after

/-! ## Sets of positions -/

/-- The positions, counted from `bit`, whose next character is in the set. -/
def positionsBefore (set : CharSet) : List Char → Nat → Nat
  | [], _ => 0
  | c :: rest, bit => (if set.mem c then bit else 0) ||| positionsBefore set rest (2 * bit)

/-- The positions, counted from `bit`, at which the assertion holds. -/
def positionsOf (l : Look) (before : Option Char) : List Char → Nat → Nat
  | [], bit => if l.holds before none then bit else 0
  | c :: rest, bit =>
    (if l.holds before (some c) then bit else 0) ||| positionsOf l (some c) rest (2 * bit)

/-- The set of all positions in a text of `n` characters. -/
def allPositions (n : Nat) : Nat := Nat.pow 2 (n + 1) - 1

/-- Everything that can be reached from a set by steps, in at most `fuel` rounds. It ends as soon as
a round adds nothing, and a text of `n` characters has no more than `n + 1` positions to add. -/
def closure (step : Nat → Nat) : Nat → Nat → Nat
  | 0, reached => reached
  | fuel + 1, reached =>
    let next := reached ||| step reached
    if next == reached then reached else closure step fuel next

/-- The result of `n` steps; no position leads nowhere else. -/
def iterate (step : Nat → Nat) : Nat → Nat → Nat
  | 0, positions => positions
  | n + 1, positions =>
    let next := step positions
    if next == positions then positions else iterate step n next

/-- What at most `n` steps reach. -/
def upTo (step : Nat → Nat) : Nat → Nat → Nat
  | 0, reached => reached
  | n + 1, reached =>
    let next := reached ||| step reached
    if next == reached then reached else upTo step n next

/-- The positions where a match that begins in `starts` may end. All beginnings are followed at
once, so no choice between alternatives is ever taken back. -/
def Expr.ends (text : List Char) : Expr → Nat → Nat
  | empty, starts => starts
  | set members, starts => 2 * (starts &&& positionsBefore members text 1)
  | look assertion, starts => starts &&& positionsOf assertion none text 1
  | seq first second, starts => second.ends text (first.ends text starts)
  | or left right, starts => left.ends text starts ||| right.ends text starts
  | .repeat body least most, starts =>
    let begun := iterate (body.ends text) least starts
    match most with
    | none => closure (body.ends text) (text.length + 1) begun
    | some most => upTo (body.ends text) (most - least) begun

/-! ## Size -/

/-- Whether an expression matches nothing but the empty text. -/
def Expr.isEmptyOnly : Expr → Bool
  | empty | look _ => true
  | set _ => false
  | seq first second => first.isEmptyOnly && second.isEmptyOnly
  | or left right => left.isEmptyOnly && right.isEmptyOnly
  | .repeat body _ most => body.isEmptyOnly || most == some 0

/-- Bytes for the states of a set: one state if it is in ASCII, and some for each range if not. -/
def setCost (members : CharSet) : Nat :=
  if members.ranges.all fun r => r.2 < 128 then 32 + 8 * members.ranges.length
  else 64 * members.ranges.length

/-- Bytes for the automaton of an expression, in which a repetition is written out. So nested
repetitions multiply, and a short text may be a pattern that is too large. -/
def Expr.cost : Expr → Nat
  | empty => 32
  | set members => setCost members
  | look _ => 32
  | seq first second => first.cost + second.cost
  | or left right => 40 + left.cost + right.cost
  | .repeat body least most =>
    let once := body.cost
    if body.isEmptyOnly then once + 72
    else match most with
    | none => Nat.max least 1 * once + 72
    | some most => least * once + (most - least) * (once + 40)

/-- The bytes that an automaton may take. -/
def costLimit : Nat := 10 * Nat.pow 2 20

end Pattern

/-- A pattern that is small enough to be used. -/
structure Pattern where
  expr : Pattern.Expr
deriving Repr, Inhabited

/-- Whether the pattern matches somewhere in the text: it may begin anywhere, and it is enough that
there is some end. -/
def Pattern.occursIn (p : Pattern) (text : String) : Bool :=
  let characters := text.toList
  p.expr.ends characters (Pattern.allPositions characters.length) != 0

end DepAtlas
