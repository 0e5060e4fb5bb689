import DepAtlas.Source.Grammar

set_option autoImplicit false

/-!
# Source read by the grammar

Reading a text gives a tree whose leaves are its tokens. Comments may stand before any token; they
become leaves too, outside of a node that they would begin.

## Main definitions

* `Tree` — a node with a rule, or a token.
* `Form.read` — the trees of a form at the front of a token list.
* `Tree.ofText?` — the tree of a whole source text.
-/

namespace DepAtlas.Source

/-- A piece of source. -/
inductive Tree where
  | leaf (token : Token)
  | node (rule : Rule) (children : List Tree)
deriving Repr, Inhabited

namespace Tree

/-- Whether a tree is a comment. -/
def isComment : Tree → Bool
  | leaf token => token.kind == .comment
  | node .. => false

mutual

/-- The text of a tree without the blanks between and in its tokens. -/
def text : Tree → List Char
  | leaf token => Text.dropBlanks token.text.toList
  | node _ children => textOfAll children

/-- The texts of trees, one after the other. -/
def textOfAll : List Tree → List Char
  | [] => []
  | tree :: rest => tree.text ++ textOfAll rest

end

mutual

/-- Whether there is a stray byte in a tree. -/
def hasStray : Tree → Bool
  | leaf token => token.hasStray
  | node _ children => haveStray children

/-- Whether there is a stray byte in some trees. -/
def haveStray : List Tree → Bool
  | [] => false
  | tree :: rest => tree.hasStray || haveStray rest

end

/-- Trees that a rule has read, as one node if the rule makes nodes. Comments in front stay outside,
so a comment is a child of the innermost node that has begun where it stands. -/
def gather (r : Rule) (trees : List Tree) : List Tree :=
  -- the comments in front were taken on the way to the first token of the rule
  if r.isNode then
    let (comments, rest) := trees.span isComment
    comments ++ [node r rest]
  else trees

end Tree

/-! ## Reading -/

/-- What reading has found: the trees and the tokens left, if the form fits, and the number of the
last token that did not fit where it stands. The latter tells where the syntax error is if nothing
fits. -/
structure Reading where
  found : Option (List Tree × List Token)
  reach : Nat
deriving Inhabited

namespace Reading

/-- Goes on behind what was found. -/
def andThen (r : Reading) (next : List Token → Reading) : Reading :=
  match r.found with
  | none => r
  | some (trees, rest) =>
    let s := next rest
    ⟨s.found.map fun (more, rest) => (trees ++ more, rest), Nat.max r.reach s.reach⟩

/-- Tries something else if nothing was found. What the first attempt found is final: there is no
way back to the second one if what follows does not fit. -/
def orElse (r : Reading) (next : Unit → Reading) : Reading :=
  match r.found with
  | some _ => r
  | none =>
    let s := next ()
    ⟨s.found, Nat.max r.reach s.reach⟩

end Reading

/-- The comments in front of a token list, and the tokens behind them. -/
def splitComments (tokens : List Token) : List Tree × List Token :=
  let (comments, rest) := tokens.span fun t => t.kind == .comment
  (comments.map .leaf, rest)

/-- Takes the next token that is no comment, if it passes a test. -/
def takeToken (test : Token → Bool) (tokens : List Token) : Reading :=
  match splitComments tokens with
  | (comments, token :: rest) =>
    if test token then ⟨some (comments ++ [.leaf token], rest), 0⟩ else ⟨none, token.number⟩
  | (_, []) => ⟨none, 0⟩

/-- The marks at the front of a token list that follow each other without a gap. Only such marks can
be one operator. -/
def gluedMarks : List Token → List Char
  | token :: rest =>
    if token.kind == .mark then
      token.text.toList ++ match rest with
        | next :: _ => if next.isGlued then gluedMarks rest else []
        | [] => []
    else []
  | [] => []

/-- The operator at the front of a list of marks: the longest that they begin with. -/
def operatorIn (marks : List Char) : List Char :=
  match longOperators.find? fun operator => operator.toList.isPrefixOf marks with
  | some operator => operator.toList
  | none => marks.take 1

/-- Takes the operator in front, if it is one of these. Its marks stay separate leaves. A shorter
operator is not taken from the front of a longer one. -/
def takeOperator (texts : List String) (tokens : List Token) : Reading :=
  match splitComments tokens with
  | (comments, token :: rest) =>
    let operator := operatorIn (gluedMarks (token :: rest))
    if !operator.isEmpty && texts.contains (String.ofList operator) then
      let taken := (token :: rest).take operator.length
      ⟨some (comments ++ taken.map .leaf, (token :: rest).drop operator.length), 0⟩
    else ⟨none, token.number⟩
  | (_, []) => ⟨none, 0⟩

/-- Whether a token neither opens nor closes a group. -/
def isPlain (t : Token) : Bool :=
  match t.kind with
  | .broken | .finish | .comment => false
  | .mark => !(["(", ")", "[", "]", "\x7b", "\x7d"].contains t.text)
  | _ => true

/-- Whether something was taken from the front of a token list. The numbers of the tokens tell,
since two tokens of one source never have the same. -/
def hasMoved (before after : List Token) : Bool :=
  before.head?.map Token.number != after.head?.map Token.number

/-- Reads a form at the front of a token list. The fuel bounds the depth of the reading. A
repetition ends where its form fits without taking a token, or it would go on for ever. -/
def Form.read : (fuel : Nat) → Form → List Token → Reading
  | 0, _, _ => ⟨none, 0⟩
  | fuel + 1, form, tokens =>
    match form with
    | .keyword text => takeToken (fun t => t.kind == .word && t.text == text) tokens
    | .name keywords => takeToken (fun t => t.kind == .word && !keywords.contains t.text) tokens
    | .token kind => takeToken (fun t => t.kind == kind) tokens
    | .mark c => takeToken (fun t => t.kind == .mark && t.text.toList == [c]) tokens
    | .operator texts => takeOperator texts tokens
    | .plainToken => takeToken isPlain tokens
    | .rule r =>
      let reading := read fuel r.form tokens
      { reading with found := reading.found.map fun (trees, rest) => (Tree.gather r trees, rest) }
    | .all [] => ⟨some ([], tokens), 0⟩
    | .all (f :: fs) => (read fuel f tokens).andThen (read fuel (.all fs))
    | .any [] => ⟨none, 0⟩
    | .any (f :: fs) => (read fuel f tokens).orElse fun _ => read fuel (.any fs) tokens
    | .many f =>
      let once := read fuel f tokens
      match once.found with
      | some (_, rest) =>
        -- a fit that takes no token would repeat itself until the fuel is gone
        if hasMoved tokens rest then once.andThen (read fuel (.many f))
        else ⟨some ([], tokens), once.reach⟩
      | none => ⟨some ([], tokens), once.reach⟩
    | .absent f =>
      match (read fuel f tokens).found with
      | some _ => ⟨none, 0⟩
      | none => ⟨some ([], tokens), 0⟩
    | .ahead f =>
      let reading := read fuel f tokens
      { reading with found := reading.found.map fun _ => ([], tokens) }

/-- Enough fuel to read a token list: every token may be the front of several forms within each
other before it is taken. -/
def readingFuel (tokens : List Token) : Nat :=
  100 * (tokens.length + 1)

/-- Reads a token list as a whole source text. -/
def readSource (tokens : List Token) : Reading :=
  (Form.rule .source).read (readingFuel tokens) tokens

/-- The tree of a whole source text. -/
def Tree.ofText? (text : String) : Option Tree :=
  (readSource (Token.ofText text)).found.map fun (trees, _) => .node .source trees

end DepAtlas.Source
