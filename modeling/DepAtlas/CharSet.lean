set_option autoImplicit false

/-!
# Sets of characters

A set of characters is a list of ranges of code points. The operations keep the ranges in order,
apart from each other and not empty, so a set has one form.

## Main definitions

* `CharSet` — the type, with `CharSet.mem` for membership.
* `CharSet.ofRanges`, `CharSet.ofHex` — sets from ranges and from a written table.
* `CharSet.union`, `CharSet.inter`, `CharSet.diff`, `CharSet.compl` — the Boolean operations.
-/

namespace DepAtlas

/-- A set of code points, as ranges with both ends included. -/
structure CharSet where
  ranges : List (Nat × Nat)
deriving DecidableEq, Repr, Inhabited

namespace CharSet

/-- The greatest code point. -/
def maxCode : Nat := 0x10FFFF

/-- Whether a code point is in one of the ranges, which are in rising order. -/
def memRanges (n : Nat) : List (Nat × Nat) → Bool
  | [] => false
  | (lo, hi) :: rest => if n < lo then false else if n ≤ hi then true else memRanges n rest

/-- Whether a code point is in the set. -/
def memCode (s : CharSet) (n : Nat) : Bool :=
  memRanges n s.ranges

/-- Whether a character is in the set. -/
def mem (s : CharSet) (c : Char) : Bool :=
  s.memCode c.toNat

/-! ## Building sets -/

/-- Joins ranges that overlap or touch; the ranges are given by rising lower end. -/
def fuse : List (Nat × Nat) → List (Nat × Nat)
  | [] => []
  | (lo, hi) :: rest =>
    match fuse rest with
    | [] => [(lo, hi)]
    | (lo', hi') :: more =>
      if lo' ≤ hi + 1 then (lo, Nat.max hi hi') :: more else (lo, hi) :: (lo', hi') :: more

/-- The set of all code points in some of the ranges. -/
def ofRanges (ranges : List (Nat × Nat)) : CharSet :=
  ⟨fuse ((ranges.filter fun (lo, hi) => lo ≤ hi).mergeSort fun a b => a.1 ≤ b.1)⟩

/-- The set without members. -/
def empty : CharSet := ⟨[]⟩

/-- The set of all code points. -/
def full : CharSet := ⟨[(0, maxCode)]⟩

/-- The set of one character. -/
def singleton (c : Char) : CharSet := ⟨[(c.toNat, c.toNat)]⟩

/-- The characters from `lo` to `hi`. -/
def interval (lo hi : Char) : CharSet := ofRanges [(lo.toNat, hi.toNat)]

/-- The value of a hexadecimal digit with upper-case letters. -/
def hexValue (c : Char) : Nat :=
  if c.isDigit then c.toNat - 48 else c.toNat - 55

/-- A number written in hexadecimal digits. -/
def readHex (digits : List Char) : Nat :=
  digits.foldl (fun n c => 16 * n + hexValue c) 0

/-- The pieces of a text between blanks. -/
def words : List Char → List (List Char)
  | [] => [[]]
  | c :: rest =>
    if c.isWhitespace then [] :: words rest
    else match words rest with
      | [] => [[c]]
      | word :: more => (c :: word) :: more

/-- A range written as `A` or `A-B` in hexadecimal. -/
def readRange (word : List Char) : Nat × Nat :=
  let lo := word.takeWhile (· != '-')
  match word.dropWhile (· != '-') with
  | [] => (readHex lo, readHex lo)
  | _ :: hi => (readHex lo, readHex hi)

/-- The set written as ranges in rising order, each `A` or `A-B` in hexadecimal, with blanks
between them. -/
def ofHex (table : String) : CharSet :=
  ⟨((words table.toList).filter fun word => !word.isEmpty).map readRange⟩

/-! ## Boolean operations -/

/-- The members of either set. -/
def union (s t : CharSet) : CharSet :=
  ofRanges (s.ranges ++ t.ranges)

/-- The gaps between ranges in order, from `start` on. -/
def gaps (start : Nat) : List (Nat × Nat) → List (Nat × Nat)
  | [] => if start ≤ maxCode then [(start, maxCode)] else []
  | (lo, hi) :: rest =>
    if start < lo then (start, lo - 1) :: gaps (hi + 1) rest else gaps (hi + 1) rest

/-- The code points outside the set. -/
def compl (s : CharSet) : CharSet := ⟨gaps 0 s.ranges⟩

/-- The common members of two sets: what is outside of neither. -/
def inter (s t : CharSet) : CharSet :=
  (s.compl.union t.compl).compl

/-- The members of `s` that are not in `t`. -/
def diff (s t : CharSet) : CharSet :=
  (s.compl.union t).compl

/-- The members of exactly one of two sets. -/
def symmDiff (s t : CharSet) : CharSet :=
  (s.diff t).union (t.diff s)

/-- The union of a list of sets. -/
def unions (sets : List CharSet) : CharSet :=
  ofRanges (sets.flatMap ranges)

end CharSet

end DepAtlas
