import DepAtlas.Pattern.Basic
import DepAtlas.Pattern.Class
import DepAtlas.Text.Blank
import DepAtlas.Text.Split

set_option autoImplicit false

/-!
# Reading patterns

The written form of patterns: literals, escapes, classes with set operations, groups with flags,
alternatives and repetitions. There is neither look-around nor a reference back to a group.

## Main definitions

* `Pattern.Flags` — the options that a pattern can set for parts of itself.
* `Pattern.readClass` — a class in brackets.
* `Pattern.readBranches` — alternatives up to the end of their group.
* `Pattern.read?` — the pattern that a text stands for.
-/

namespace DepAtlas.Pattern

/-! ## Flags -/

/-- The options of a part of a pattern. -/
structure Flags where
  ignoreCase : Bool := false
  multiLine : Bool := false
  dotAll : Bool := false
  crlf : Bool := false
  swapGreed : Bool := false
  unicode : Bool := true
  /-- blanks and comments do not count -/
  verbose : Bool := false
deriving DecidableEq, Repr, Inhabited

/-- The flags with one of them set; nothing for a letter without a meaning. -/
def Flags.set? (f : Flags) (letter : Char) (value : Bool) : Option Flags :=
  match letter with
  | 'i' => some { f with ignoreCase := value }
  | 'm' => some { f with multiLine := value }
  | 's' => some { f with dotAll := value }
  | 'R' => some { f with crlf := value }
  | 'U' => some { f with swapGreed := value }
  | 'u' => some { f with unicode := value }
  | 'x' => some { f with verbose := value }
  | _ => none

/-- The text after blanks and comments; `inComment` tells whether it begins inside a comment. A
comment goes on to the end of its line. -/
def skipVerbose : (inComment : Bool) → List Char → List Char
  | _, [] => []
  | true, c :: rest => skipVerbose (c != '\n') rest
  | false, c :: rest =>
    if Text.isBlank c then skipVerbose false rest
    else if c == '#' then skipVerbose true rest
    else c :: rest

/-- The text after what does not count under the flags. -/
def skipSpace (f : Flags) (s : List Char) : List Char :=
  if f.verbose then skipVerbose false s else s

/-! ## Sets under flags -/

/-- The set with the case variants that the flags ask for. Without Unicode only the letters of ASCII
have any. -/
def foldSet (f : Flags) (s : CharSet) : CharSet :=
  if !f.ignoreCase then s
  else if f.unicode then Unicode.closeUnderCase s
  else
    let upper := s.inter (.interval 'A' 'Z')
    let lower := s.inter (.interval 'a' 'z')
    .unions [s, ⟨upper.ranges.map fun (lo, hi) => (lo + 32, hi + 32)⟩,
      ⟨lower.ranges.map fun (lo, hi) => (lo - 32, hi - 32)⟩]

/-- The complement of a set if `negated`. Without Unicode a complement would hold halves of
characters, so there is none. -/
def negateSet? (f : Flags) (negated : Bool) (s : CharSet) : Option CharSet :=
  if !negated then some s else if f.unicode then some s.compl else none

/-! ## Escapes -/

/-- What one escape, one dot or one literal stands for. -/
inductive Atom where
  | literal (c : Char)
  | set (members : CharSet)
  | look (assertion : Look)
deriving Repr

/-- Characters with a meaning of their own. -/
def isMeta (c : Char) : Bool :=
  "\\.+*?()|[]\x7b\x7d^$#&-~".toList.contains c

/-- Characters that stand for themselves after a backslash. -/
def isEscapable (c : Char) : Bool :=
  isMeta c || (c.toNat < 128 && !c.isAlphanum && c != '<' && c != '>')

/-- The value of a hexadecimal digit. -/
def hexValue? (c : Char) : Option Nat :=
  if c.isDigit then some (c.toNat - 48)
  else if 'a' ≤ c && c ≤ 'f' then some (c.toNat - 87)
  else if 'A' ≤ c && c ≤ 'F' then some (c.toNat - 55)
  else none

/-- The character with a code point. -/
def charOf? (n : Nat) : Option Char :=
  if n < 0xD800 || (0xDFFF < n && n < 0x110000) then some (Char.ofNat n) else none

/-- `count` hexadecimal digits, after those that make `value`. -/
def readHexDigits (f : Flags) : Nat → Nat → List Char → Option (Nat × List Char)
  | 0, value, s => some (value, s)
  | count + 1, value, s =>
    match skipSpace f s with
    | c :: rest => do
      let digit ← hexValue? c
      readHexDigits f count (16 * value + digit) rest
    | [] => none

/-- Hexadecimal digits up to a closing brace, at least one of them. Zeros in front are allowed, and
there may be any number of digits as long as they make a code point. -/
def readHexBraces (f : Flags) : Nat → Option Nat → List Char → Option (Nat × List Char)
  | 0, _, _ => none
  | fuel + 1, value, s =>
    match skipSpace f s with
    | '\x7d' :: rest => value.map fun n => (n, rest)
    | c :: rest => do
      let digit ← hexValue? c
      readHexBraces f fuel (some (16 * value.getD 0 + digit)) rest
    | [] => none

/-- A character by its code point, after the letter that says how many digits there are. Two
digits name a byte when Unicode is off, and that byte has to be in ASCII. -/
def readHex (f : Flags) (width : Nat) (s : List Char) : Option (Atom × List Char) :=
  match skipSpace f s with
  | '\x7b' :: rest => do
    let (n, rest) ← readHexBraces f (rest.length + 1) none rest
    let c ← charOf? n
    some (.literal c, rest)
  | s => do
    let (n, rest) ← readHexDigits f width 0 s
    if width == 2 && !f.unicode && n ≥ 128 then none
    else
      let c ← charOf? n
      some (.literal c, rest)

/-- The text up to a closing brace. -/
def readBraces (f : Flags) : Nat → List Char → Option (List Char × List Char)
  | 0, _ => none
  | fuel + 1, s =>
    match skipSpace f s with
    | '\x7d' :: rest => some ([], rest)
    | c :: rest => do
      let (more, rest) ← readBraces f fuel rest
      some (c :: more, rest)
    | [] => none

/-- A Unicode class after the letter that names it, which is a capital for the complement. -/
def readUnicodeClass (f : Flags) (negated : Bool) (s : List Char) : Option (Atom × List Char) := do
  let (found, negated, rest) ← match skipSpace f s with
    | '\x7b' :: rest => do
      let (name, rest) ← readBraces f (rest.length + 1) rest
      match Text.cut? ['!', '='] name with
      | some (property, value) =>
        some (Class.unicodeValue? property value, !negated, rest)
      | none =>
        match (Text.cut? [':'] name).or (Text.cut? ['='] name) with
        | some (property, value) => some (Class.unicodeValue? property value, negated, rest)
        | none => some (Class.unicode? name, negated, rest)
    | '\\' :: _ => none
    | c :: rest => some (Class.unicode? [c], negated, rest)
    | [] => none
  if !f.unicode then none
  else
    let members ← negateSet? f negated (foldSet f (← found))
    some (.set members, rest)

/-- The kinds of word boundaries that can be named in braces. -/
def namedBoundary? (name : String) (word : CharSet) : Option Look :=
  match name with
  | "start" => some (.wordStart word)
  | "end" => some (.wordEnd word)
  | "start-half" => some (.wordStartHalf word)
  | "end-half" => some (.wordEndHalf word)
  | _ => none

/-- The letters of a name in braces, with the text after them. -/
def readBoundaryName (f : Flags) : Nat → List Char → List Char × List Char
  | 0, s => ([], s)
  | fuel + 1, s =>
    match skipSpace f s with
    | c :: rest =>
      if c.isAlpha || c == '-' then
        let (more, rest) := readBoundaryName f fuel rest
        (c :: more, rest)
      else ([], c :: rest)
    | [] => ([], [])

/-- A word boundary after its letter. Braces with a letter in front name a kind of boundary; other
braces are left for a repetition. -/
def readBoundary (f : Flags) (s : List Char) : Option (Atom × List Char) :=
  let word := Class.word f.unicode
  match s with
  | '\x7b' :: inner =>
    match readBoundaryName f (inner.length + 1) inner with
    | ([], []) => none
    | ([], _) => some (.look (.boundary word), s)
    | (name, '\x7d' :: rest) => (namedBoundary? (String.ofList name) word).map fun l => (.look l, rest)
    | _ => none
  | _ => some (.look (.boundary word), s)

/-- What an escape stands for, after its backslash. A letter or a digit without a meaning is an
error, since it may get one some day. -/
def readEscape (f : Flags) : List Char → Option (Atom × List Char)
  | [] => none
  | c :: rest =>
    let shortClass (negated : Bool) (members : CharSet) : Option (Atom × List Char) :=
      (negateSet? f negated members).map fun m => (.set m, rest)
    match c with
    | 'x' => readHex f 2 rest
    | 'u' => readHex f 4 rest
    | 'U' => readHex f 8 rest
    | 'p' => readUnicodeClass f false rest
    | 'P' => readUnicodeClass f true rest
    | 'd' => shortClass false (Class.digits f.unicode)
    | 's' => shortClass false (Class.blanks f.unicode)
    | 'w' => shortClass false (Class.word f.unicode)
    | 'D' => shortClass true (Class.digits f.unicode)
    | 'S' => shortClass true (Class.blanks f.unicode)
    | 'W' => shortClass true (Class.word f.unicode)
    | 'a' => some (.literal (Char.ofNat 7), rest)
    | 'f' => some (.literal (Char.ofNat 12), rest)
    | 't' => some (.literal '\t', rest)
    | 'n' => some (.literal '\n', rest)
    | 'r' => some (.literal '\r', rest)
    | 'v' => some (.literal (Char.ofNat 11), rest)
    | 'A' => some (.look .textStart, rest)
    | 'z' => some (.look .textEnd, rest)
    | 'b' => readBoundary f rest
    | 'B' => some (.look (.notBoundary (Class.word f.unicode)), rest)
    | '<' => some (.look (.wordStart (Class.word f.unicode)), rest)
    | '>' => some (.look (.wordEnd (Class.word f.unicode)), rest)
    | c => if isEscapable c then some (.literal c, rest) else none

/-! ## Classes in brackets -/

/-- A part of a class under construction: the members, how deep brackets and operations nest
below it, and how many items it was made of. -/
structure Items where
  members : CharSet := .empty
  depth : Nat := 0
  count : Nat := 0
deriving Repr, Inhabited

/-- The items with one more. -/
def Items.add (items : Items) (members : CharSet) (depth : Nat) : Items :=
  ⟨items.members.union members, Nat.max items.depth depth, items.count + 1⟩

/-- How deep a list of items nests: several of them stand in a union. -/
def Items.nesting (items : Items) : Nat :=
  if items.count ≥ 2 then items.depth + 1 else items.depth

/-- The operations on classes. -/
inductive SetOp where
  | inter
  | diff
  | symmDiff
deriving DecidableEq, Repr

/-- An operation with its operands, each closed under the case variants that the flags ask for. -/
def SetOp.apply (f : Flags) (op : SetOp) (left right : CharSet) : CharSet :=
  let left := foldSet f left
  let right := foldSet f right
  match op with
  | inter => left.inter right
  | diff => left.diff right
  | symmDiff => left.symmDiff right

/-- A left operand that waits for the right one. -/
structure Pending where
  op : SetOp
  left : CharSet
  depth : Nat

/-- The items after the pending operation, if there is one. -/
def finish (f : Flags) (pending : Option Pending) (items : Items) : CharSet × Nat :=
  match pending with
  | none => (items.members, items.nesting)
  | some p => (p.op.apply f p.left items.members, Nat.max p.depth items.nesting + 1)

/-- A single character of a class; when Unicode is off it has to be in ASCII. -/
def classChar? (f : Flags) (c : Char) : Option Char :=
  if f.unicode || c.toNat < 128 then some c else none

/-- One item that may begin a range. -/
def readClassItem (f : Flags) : List Char → Option (Atom × List Char)
  | [] => none
  | '\\' :: rest => readEscape f rest
  | c :: rest => some (.literal c, rest)

/-- A single item or a range. A hyphen in front of the closing bracket, or of a second hyphen, makes
no range, and both ends of a range are single characters in order. -/
def readClassRange (f : Flags) (s : List Char) : Option (CharSet × List Char) := do
  let (first, rest) ← readClassItem f s
  let rest := skipSpace f rest
  let single : Option (CharSet × List Char) := match first with
    | .literal c => (classChar? f c).map fun c => (.singleton c, rest)
    | .set members => some (members, rest)
    | .look _ => none
  match rest with
  | [] => none
  | '-' :: more =>
    match skipSpace f more with
    | ']' :: _ | '-' :: _ => single
    | more => do
      let (last, rest) ← readClassItem f more
      match first, last with
      | .literal a, .literal b => do
        let a ← classChar? f a
        let b ← classChar? f b
        if a.toNat ≤ b.toNat then some (.interval a b, rest) else none
      | _, _ => none
  | _ => single

/-- A class of ASCII in brackets and colons, after the bracket. If it is not written as one, the
bracket opens a class inside of the class; the inner option is none for a complement that there is
not. -/
def readAsciiClass (f : Flags) (s : List Char) : Option (Option CharSet × List Char) :=
  match s with
  | ':' :: rest =>
    let (negated, rest) := match rest with
      | '^' :: more => (true, more)
      | _ => (false, rest)
    let name := rest.takeWhile (· != ':')
    match rest.drop name.length with
    | ':' :: ']' :: rest =>
      (Class.ascii? (String.ofList name)).map fun members =>
        (negateSet? f negated (foldSet f members), rest)
    | _ => none
  | _ => none

/-- The hyphens at the front of a class, which stand for themselves. -/
def readHyphens (f : Flags) : Nat → Items → List Char → Items × List Char
  | 0, items, s => (items, s)
  | fuel + 1, items, s =>
    match s with
    | '-' :: rest => readHyphens f fuel (items.add (.singleton '-') 0) (skipSpace f rest)
    | _ => (items, s)

/-- What stands at the front of a class after its bracket: whether it is a complement, and the
characters that stand for themselves there. A closing bracket is one of them only if nothing stands
before it. -/
def openClass (f : Flags) (s : List Char) : Bool × Items × List Char :=
  let s := skipSpace f s
  let (negated, s) := match s with
    | '^' :: rest => (true, skipSpace f rest)
    | _ => (false, s)
  let (items, s) := readHyphens f s.length {} s
  match s with
  | ']' :: rest =>
    if items.count == 0 then (negated, items.add (.singleton ']') 0, skipSpace f rest)
    else (negated, items, s)
  | _ => (negated, items, s)

/-- The items of a class up to its closing bracket: the set, and how deep it nests. The fuel bounds
the number of items, brackets and operations. Operations bind less than neighbours do, and are taken
from the left. -/
def readClass (f : Flags) : Nat → Bool → Option Pending → Items → List Char →
    Option ((CharSet × Nat) × List Char)
  | 0, _, _, _, _ => none
  | fuel + 1, negated, pending, items, s =>
    match skipSpace f s with
    | [] => none
    | ']' :: rest => do
      let (members, depth) := finish f pending items
      let members ← negateSet? f negated (foldSet f members)
      some ((members, depth + 1), rest)
    | '[' :: rest =>
      match readAsciiClass f rest with
      | some (members, rest) => do
        readClass f fuel negated pending (items.add (← members) 0) rest
      | none => do
        let (negated', items', rest) := openClass f rest
        let ((members, depth), rest) ← readClass f fuel negated' none items' rest
        readClass f fuel negated pending (items.add members depth) rest
    | '&' :: '&' :: rest =>
      let (left, depth) := finish f pending items
      readClass f fuel negated (some ⟨.inter, left, depth⟩) {} rest
    | '-' :: '-' :: rest =>
      let (left, depth) := finish f pending items
      readClass f fuel negated (some ⟨.diff, left, depth⟩) {} rest
    | '~' :: '~' :: rest =>
      let (left, depth) := finish f pending items
      readClass f fuel negated (some ⟨.symmDiff, left, depth⟩) {} rest
    | s => do
      let (members, rest) ← readClassRange f s
      readClass f fuel negated pending (items.add members 0) rest

/-! ## Parts of a branch -/

/-- A part of a branch: the expression, how deep it nests, and whether it can be repeated. -/
structure Part where
  expr : Expr
  depth : Nat := 0
  repeatable : Bool := true
deriving Repr, Inhabited

/-- Parts one after the other; the parts are given from last to first. -/
def sequence (parts : List Part) : Part :=
  match parts with
  | [] => ⟨.empty, 0, true⟩
  | [part] => ⟨part.expr, part.depth, true⟩
  | last :: before =>
    ⟨before.foldl (fun e p => .seq p.expr e) last.expr,
      parts.foldl (fun d p => Nat.max d p.depth) 0 + 1, true⟩

/-- Alternatives, given from last to first. -/
def alternatives (branches : List Part) : Part :=
  match branches with
  | [] => ⟨.empty, 0, true⟩
  | [part] => part
  | last :: before =>
    ⟨before.foldl (fun e p => .or p.expr e) last.expr,
      branches.foldl (fun d p => Nat.max d p.depth) 0 + 1, true⟩

/-- The expression of a literal under flags. -/
def literal? (f : Flags) (c : Char) : Option Expr :=
  if !f.ignoreCase then some (.set (.singleton c))
  else if !f.unicode && c.toNat ≥ 128 then none
  else some (.set (foldSet f (.singleton c)))

/-- What the dot stands for. Without Unicode it would match halves of characters. -/
def dot? (f : Flags) : Option Expr :=
  if !f.unicode then none
  else if f.dotAll then some (.set .full)
  else if f.crlf then some (.set (CharSet.ofRanges [(10, 10), (13, 13)]).compl)
  else some (.set (CharSet.singleton '\n').compl)

/-- The start or the end of lines under flags. -/
def lineStart (f : Flags) : Look :=
  if !f.multiLine then .textStart else if f.crlf then .crlfStart else .lineStart

/-- The end of lines under flags. -/
def lineEnd (f : Flags) : Look :=
  if !f.multiLine then .textEnd else if f.crlf then .crlfEnd else .lineEnd

/-- The expression of an atom. -/
def Atom.expr? (f : Flags) : Atom → Option Expr
  | literal c => literal? f c
  | set members => some (.set members)
  | look assertion => some (.look assertion)

/-- The digits in front, with fuel for each of them, and the text behind them. Under the flag for
verbose patterns, blanks and comments may stand behind every digit. -/
def readDigits (f : Flags) : (fuel : Nat) → List Char → List Char × List Char
  | fuel + 1, c :: rest =>
    if c.isDigit then
      let (digits, rest) := readDigits f fuel (skipSpace f rest)
      (c :: digits, rest)
    else ([], c :: rest)
  | _, s => ([], s)

/-- A number between optional blanks. -/
def readCount (f : Flags) (s : List Char) : Option Nat × List Char :=
  let (digits, rest) := readDigits f s.length (skipSpace f (s.dropWhile Text.isBlank))
  let rest := skipSpace f (rest.dropWhile Text.isBlank)
  let value := digits.foldl (fun n c => 10 * n + (c.toNat - 48)) 0
  if digits.isEmpty || value ≥ Nat.pow 2 32 then (none, rest) else (some value, rest)

/-- The bounds of a repetition after the opening brace, up to the closing one. The least number has
to be given, and the greatest may not be less. -/
def readBounds (f : Flags) (s : List Char) : Option ((Nat × Option Nat) × List Char) := do
  let (least, rest) := readCount f s
  match rest with
  | ',' :: rest =>
    match skipSpace f rest with
    | '\x7d' :: rest => some ((← least, none), rest)
    | rest => do
      let least ← least
      let (most, rest) := readCount f rest
      let most ← most
      match rest with
      | '\x7d' :: rest => if least ≤ most then some ((least, some most), rest) else none
      | _ => none
  | '\x7d' :: rest => do
    let least ← least
    some ((least, some least), rest)
  | _ => none

/-- The last part with a repetition, if there is a part that can be repeated. A change of flags is
no such part. -/
def repeatLast (least : Nat) (most : Option Nat) : List Part → Option (List Part)
  | part :: before =>
    if part.repeatable then some (⟨.repeat part.expr least most, part.depth + 1, true⟩ :: before)
    else none
  | [] => none

/-- The text after the mark of a repetition that prefers little. -/
def skipLazy (f : Flags) (s : List Char) : List Char :=
  match skipSpace f s with
  | '?' :: rest => rest
  | s => s

/-! ## Groups and branches -/

/-- The flags written between a question mark and a colon or a closing parenthesis: the new flags,
the character that ends them, and whether any was written. No letter stands twice, there is at most
one hyphen, and it does not stand at the end. -/
def readFlags : Nat → Flags → (on : Bool) → (seen : List Char) → List Char →
    Option ((Flags × Char × Bool) × List Char)
  | 0, _, _, _, _ => none
  | _ + 1, _, _, _, [] => none
  | fuel + 1, f, on, seen, c :: rest =>
    if c == ':' || c == ')' then
      if seen.head? == some '-' then none else some ((f, c, !seen.isEmpty), rest)
    else if seen.contains c then none
    else if c == '-' then readFlags fuel f false ('-' :: seen) rest
    else do
      let f ← f.set? c on
      readFlags fuel f on (c :: seen) rest

/-- Whether a character may stand in the name of a group, and at its front. -/
def isNameChar (first : Bool) (c : Char) : Bool :=
  c == '_' || Unicode.Property.alphabetic.mem c ||
    (!first && (c == '.' || c == '[' || c == ']' || Unicode.numbers.mem c))

/-- The name of a group up to the closing angle bracket. -/
def readGroupName (s : List Char) : Option (String × List Char) :=
  let name := s.takeWhile (· != '>')
  match s.drop name.length, name with
  | '>' :: rest, first :: others =>
    if isNameChar true first && others.all (isNameChar false) then
      some (String.ofList name, rest)
    else none
  | _, _ => none

/-- What a parenthesis opens. -/
inductive Opening where
  | group (f : Flags)
  /-- flags for the rest of the group around -/
  | flags (f : Flags)

/-- What stands behind an opening parenthesis, with the names of groups so far. A name may be used
once, and what would look around is refused. -/
def readOpening (f : Flags) (names : List String) (s : List Char) :
    Option ((Opening × List String) × List Char) :=
  let named (s : List Char) : Option ((Opening × List String) × List Char) := do
    let (name, rest) ← readGroupName s
    if names.contains name then none else some ((.group f, name :: names), rest)
  match skipSpace f s with
  | '?' :: '=' :: _ | '?' :: '!' :: _ | '?' :: '<' :: '=' :: _ | '?' :: '<' :: '!' :: _ => none
  | '?' :: 'P' :: '<' :: rest => named rest
  | '?' :: '<' :: rest => named rest
  | '?' :: rest => do
    let ((f', last, any), rest) ← readFlags (rest.length + 1) f true [] rest
    if last == ')' then if any then some ((.flags f', names), rest) else none
    else some ((.group f', names), rest)
  | s => some ((.group f, names), s)

/-- The state of reading: the flags in force and the names of groups so far. -/
structure Context where
  flags : Flags := {}
  names : List String := []

/-- Alternatives up to the end of the text or to a closing parenthesis, which stays. `branches` and
`parts` hold what was read of the alternatives and of the last of them, last things first. Flags
that are set inside a group end with it, while the names of groups are kept. -/
def readBranches : Nat → Context → (branches parts : List Part) → List Char →
    Option ((Part × Context) × List Char)
  | 0, _, _, _, _ => none
  | fuel + 1, ctx, branches, parts, s =>
    let f := ctx.flags
    let done (rest : List Char) : Option ((Part × Context) × List Char) :=
      some ((alternatives (sequence parts :: branches), ctx), rest)
    let repeated (least : Nat) (most : Option Nat) (rest : List Char) := do
      let parts ← repeatLast least most parts
      readBranches fuel ctx branches parts (skipLazy f rest)
    let plain (atom : Option Expr) (rest : List Char) := do
      readBranches fuel ctx branches (⟨← atom, 0, true⟩ :: parts) rest
    match skipSpace f s with
    | [] => done []
    | ')' :: rest => done (')' :: rest)
    | '|' :: rest => readBranches fuel ctx (sequence parts :: branches) [] rest
    | '(' :: rest => do
      let ((opening, names), rest) ← readOpening f ctx.names rest
      match opening with
      | .flags f' => readBranches fuel ⟨f', names⟩ branches (⟨.empty, 0, false⟩ :: parts) rest
      | .group f' => do
        let ((inner, ctx'), rest) ← readBranches fuel ⟨f', names⟩ [] [] rest
        match rest with
        | ')' :: rest =>
          let part : Part := ⟨inner.expr, inner.depth + 1, true⟩
          readBranches fuel ⟨f, ctx'.names⟩ branches (part :: parts) rest
        | _ => none
    | '[' :: rest => do
      let (negated, items, rest) := openClass f rest
      let ((members, depth), rest) ← readClass f (rest.length + 1) negated none items rest
      readBranches fuel ctx branches (⟨.set members, depth, true⟩ :: parts) rest
    | '?' :: rest => repeated 0 (some 1) rest
    | '*' :: rest => repeated 0 none rest
    | '+' :: rest => repeated 1 none rest
    | '\x7b' :: rest => do
      let ((least, most), rest) ← readBounds f rest
      repeated least most rest
    | '\\' :: rest => do
      let (atom, rest) ← readEscape f rest
      plain (atom.expr? f) rest
    | '.' :: rest => plain (dot? f) rest
    | '^' :: rest => plain (some (.look (lineStart f))) rest
    | '$' :: rest => plain (some (.look (lineEnd f))) rest
    | c :: rest => plain (literal? f c) rest

/-- How deep a pattern may nest. -/
def nestLimit : Nat := 250

/-- The pattern that a text stands for, if it is well formed, not too deep and not too large. A
closing parenthesis that nothing opened is left over, and makes the text no pattern. -/
def read? (text : String) : Option Pattern := do
  let s := text.toList
  let ((part, _), rest) ← readBranches (s.length + 1) {} [] [] s
  if rest.isEmpty && part.depth ≤ nestLimit && part.expr.cost ≤ costLimit then
    some ⟨part.expr⟩
  else none

end DepAtlas.Pattern
