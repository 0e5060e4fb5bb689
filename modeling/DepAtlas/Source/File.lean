import DepAtlas.Graph.Basic
import DepAtlas.Source.UseTree

set_option autoImplicit false

/-!
# What a source file says

A file is a module. It declares the items that stand directly in it, and it depends on what its
use declarations name, at any depth.

## Main definitions

* `SourceFile` — the declarations and the use trees of a file.
* `SyntaxError` — what is wrong with a text that is no source.
* `SourceFile.ofBytes?`, `SourceFile.ofText?` — read the contents of a file, or a text.
* `SourceFile.declared`, `SourceFile.targets` — the entities of the file when it is a module with
  a given name.
-/

namespace DepAtlas.Source

/-- The items of a file and the use trees in it. -/
structure SourceFile where
  items : List Entity
  uses : List UseTree
deriving Repr, Inhabited

/-! ## From trees -/

/-- The kind of entity that an item declares. -/
def Rule.itemKind? : Rule → Option Kind
  | .structItem | .enumItem | .unionItem => some .class
  | .traitItem => some .interface
  | .functionItem => some .function
  | _ => none

/-- Whether a tree is the keyword that a declared name follows. -/
def Tree.isItemKeyword : Tree → Bool
  | .leaf token =>
    token.kind == .word && ["struct", "enum", "union", "trait", "fn"].contains token.text
  | .node .. => false

/-- The name that an item declares: what follows its keyword, but for comments. -/
def Tree.itemName? (pieces : List Tree) : Option String := do
  let behind := (pieces.dropWhile fun tree => !tree.isItemKeyword).drop 1
  let name ← behind.find? fun tree => !tree.isComment
  some (String.ofList name.text)

/-- The item that a statement declares, with its kind. Only statements that stand directly in the
file are asked, so what is declared in an inner module is not found. -/
def Tree.item? : Tree → Option Entity
  | .node .statement [.node rule pieces] => do
    let kind ← rule.itemKind?
    let name ← itemName? pieces
    some ⟨name, kind⟩
  | _ => none

mutual

/-- The use trees of all use declarations in a tree, in order. They count at any depth, also in the
bodies of functions. Comments directly in a declaration are left out, those further inside are not. -/
def Tree.uses : Tree → List UseTree
  | .leaf _ => []
  | .node .useDeclaration pieces => UseTree.ofTrees (pieces.filter fun tree => !tree.isComment)
  | .node _ children => Tree.usesOfAll children

/-- The use trees of all use declarations in some trees, in order. -/
def Tree.usesOfAll : List Tree → List UseTree
  | [] => []
  | tree :: rest => tree.uses ++ Tree.usesOfAll rest

end

/-- What the tree of a whole text says. -/
def SourceFile.ofTrees (trees : List Tree) : SourceFile :=
  ⟨trees.filterMap Tree.item?, Tree.usesOfAll trees⟩

/-! ## Syntax errors -/

/-- What is wrong at a place: something has to stand there, or something must not. -/
inductive Fault where
  | missing (what : String)
  | unexpected (text : String)
deriving DecidableEq, Repr, Inhabited

/-- The wording of a fault. -/
def Fault.message : Fault → String
  | missing what => "missing `" ++ what ++ "`"
  | unexpected text => "unexpected `" ++ text ++ "`"

/-- A fault with its line and column, both counted from one; columns count bytes. -/
structure SyntaxError where
  line : Nat
  column : Nat
  fault : Fault
deriving DecidableEq, Repr, Inhabited

/-- A fault at a place. -/
def Fault.at (f : Fault) (p : Place) : SyntaxError :=
  ⟨p.line, p.offset + 1, f⟩

/-- What may be put in where reading stops: its name, its kind and its text. -/
def insertions : List (String × TokenKind × String) :=
  [("identifier", .word, "x"), (";", .mark, ";"), (")", .mark, ")"), ("]", .mark, "]"),
   ("\x7d", .mark, "\x7d")]

/-- The tokens with their places in the list as numbers. -/
def renumbered (tokens : List Token) : List Token :=
  tokens.zipIdx.map fun (token, i) => { token with number := i }

/-- Whether reading some tokens gets past the token with a number. -/
def readsPast (number : Nat) (tokens : List Token) : Bool :=
  let reading := readSource (renumbered tokens)
  reading.found.isSome || reading.reach > number

/-- The token that has to stand between two parts of a token list, if one is enough to go on. -/
def missing? (before after : List Token) : Option String :=
  (insertions.find? fun (_, kind, text) =>
    readsPast (before.length + 1)
      (before ++ { kind, gap := [' '], text, start := {}, stop := {}, number := 0 } :: after)).map
    Prod.fst

/-- The number of tokens that have to be left out after some others to go on, up to a limit. -/
def excess (before : List Token) : (limit : Nat) → List Token → Nat
  | 0, _ | _, [] => 0
  | limit + 1, _ :: rest =>
    if readsPast before.length (before ++ rest) then 1 else 1 + excess before limit rest

/-- How many characters of a text an error shows. -/
def shownCharacters : Nat := 40

/-- The text of tokens as it is written, cut short, without blanks at its ends; nothing if there is a
stray byte in it. -/
def written (tokens : List Token) : String :=
  let text := tokens.flatMap fun token => token.gap ++ token.text.toList
  if tokens.any Token.hasStray then ""
  else String.ofList (Text.trim ((Text.trimStart text).take shownCharacters))

/-- The tokens behind all statements that are complete. -/
def incomplete (tokens : List Token) : List Token :=
  match ((Form.many (.rule .statement)).read (readingFuel tokens) tokens).found with
  | some (_, rest) => (splitComments rest).2
  | none => tokens

/-- The fault that some tokens must not stand where they do. -/
def unexpectedTokens (tokens : List Token) : SyntaxError :=
  (Fault.unexpected (written tokens)).at ((tokens.head?.map Token.start).getD {})

/-- The error in a token list that is no source, where reading stops at the token with a number. If
the text ends too early, the statement that is not complete is the fault. -/
def syntaxErrorAt (tokens : List Token) (number : Nat) : SyntaxError :=
  let before := tokens.take number
  let after := tokens.drop number
  match missing? before after with
  | some what => (Fault.missing what).at ((before.getLast?.map Token.stop).getD {})
  | none =>
    -- only the end of the text is left
    if after.length ≤ 1 then unexpectedTokens (incomplete tokens)
    else unexpectedTokens (after.take (excess before shownCharacters after))

/-! ## Reading -/

/-- Reads the tokens of a source. -/
def SourceFile.ofTokens? (tokens : List Token) : Except SyntaxError SourceFile :=
  let reading := readSource tokens
  match reading.found with
  | some (trees, _) => .ok (.ofTrees trees)
  | none => .error (syntaxErrorAt tokens reading.reach)

/-- Reads a source text. -/
def SourceFile.ofText? (text : String) : Except SyntaxError SourceFile :=
  ofTokens? (Token.ofText text)

/-- Reads the contents of a source file, which need not be UTF-8. -/
def SourceFile.ofBytes? (contents : ByteArray) : Except SyntaxError SourceFile :=
  ofTokens? (Token.ofGlyphs (Text.glyphs contents))

/-! ## The module of a file -/

namespace SourceFile

/-- What a file declares as a module: itself and its items. -/
def declared (f : SourceFile) (module : String) : List Entity :=
  ⟨module, .module⟩ :: f.items.map fun e => ⟨module ++ Name.defaultSeparator ++ e.name, e.kind⟩

/-- What a file depends on as a module, in order and with repetitions. -/
def targets (f : SourceFile) (module : String) : List String :=
  (UseTree.pathsOfAll "" f.uses).filterMap (resolve? module)

end SourceFile

end DepAtlas.Source
