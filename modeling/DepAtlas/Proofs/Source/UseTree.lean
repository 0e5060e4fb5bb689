import DepAtlas.Proofs.Source.Resolve
import DepAtlas.Source.File

set_option relaxedAutoImplicit false
set_option autoImplicit false

/-!
# What a use declaration names

The argument of a use declaration nests paths in braces behind other paths. Its leaves are lists of
names: each leaf behind everything that stands in front of the braces around it. The paths that are
collected from the tree of the argument and then resolved as texts are what these lists of names stand
for, one for each leaf and in the same order.

## Main definitions

* `DepAtlas.Source.PlainPath` — a path as it is written.
* `DepAtlas.Source.UseArgument` — the argument of a use declaration, and its leaves.
* `DepAtlas.Source.Shows` — the trees that the grammar has for an argument.

## Main results

* `DepAtlas.Source.Shows.map_resolve?_pathsOfAll` — an argument below a path.
* `DepAtlas.Source.UseArgument.targets_eq_leaves` — what a declaration adds to the targets of a file.
* `DepAtlas.Source.UseArgument.last_self_is_dropped` — names that do not count, and a name that hides
  where a module ends.
-/

namespace DepAtlas.Source

/-! ## Arguments -/

/-- A name in a path. It has none of the characters with a meaning of their own, and is not empty. -/
def IsName (name : String) : Prop :=
  name ≠ "" ∧ IsPiece name
deriving Decidable

/-- A path as it is written: some names, perhaps with a separator in front. -/
structure PlainPath where
  isGlobal : Bool
  names : List String
  names_ne_nil : names ≠ []
  isName : ∀ name ∈ names, IsName name

namespace PlainPath

variable (p : PlainPath)

/-- What stands between the separators: the names, and nothing before a separator in front. -/
def pieces : List String :=
  if p.isGlobal then "" :: p.names else p.names

/-- The text of a path. -/
def text : String :=
  Name.join p.pieces Name.defaultSeparator

/-- A path has at least one piece. -/
lemma pieces_ne_nil : p.pieces ≠ [] := by
  unfold pieces
  split
  · exact List.cons_ne_nil _ _
  · exact p.names_ne_nil

/-- A separator is never the whole path. -/
lemma pieces_ne_singleton_empty : p.pieces ≠ [""] := by
  unfold pieces
  split
  · exact fun heq => p.names_ne_nil (List.cons.inj heq).2
  · exact fun heq => (p.isName "" (heq ▸ List.mem_singleton_self _)).1 rfl

/-- What stands between the separators are pieces. -/
lemma isPiece_of_mem_pieces : ∀ piece ∈ p.pieces, IsPiece piece := by
  intro piece hpiece
  unfold pieces at hpiece
  split at hpiece
  · rcases List.mem_cons.1 hpiece with rfl | hpiece
    · exact fun c hc => nomatch hc
    · exact (p.isName piece hpiece).2
  · exact (p.isName piece hpiece).2

end PlainPath

/-- The argument of a use declaration. -/
inductive UseArgument where
  | path (path : PlainPath)
  /-- everything in a module -/
  | glob (above : PlainPath)
  /-- everything in the module that is named around it -/
  | star
  /-- a path under another name -/
  | renamed (path : PlainPath) (name : String)
  | list (members : List UseArgument)
  /-- a list behind a path -/
  | group (above : PlainPath) (members : List UseArgument)

namespace UseArgument

mutual

/-- The leaves of an argument from left to right, each behind all paths in front of the lists around
it. A star stands for the path in front of it, and another name counts nothing. -/
def leaves : UseArgument → List (List String)
  | path p | glob p | renamed p _ => [p.pieces]
  | star => [[]]
  | list members => leavesOfAll members
  | group above members => (leavesOfAll members).map (above.pieces ++ ·)

/-- The leaves of some arguments. -/
def leavesOfAll : List UseArgument → List (List String)
  | [] => []
  | argument :: rest => argument.leaves ++ leavesOfAll rest

end

end UseArgument

/-! ## Trees of arguments -/

mutual

/-- The trees for an argument. A path is known by its text, where blanks do not count. What the
tokens of a path are is left open, so this holds for every way of spacing the source. -/
inductive Shows : Tree → UseArgument → Prop
  | path {children : List Tree} {p : PlainPath}
      (htext : Tree.textOfAll children = p.text.toList) :
      Shows (.node .usePath children) (.path p)
  | glob {children : List Tree} {p : PlainPath}
      (htext : Tree.textOfAll children = p.text.toList ++ "::*".toList) :
      Shows (.node .useGlob children) (.glob p)
  | star {children : List Tree} (htext : Tree.textOfAll children = "*".toList) :
      Shows (.node .useGlob children) .star
  | renamed {children : List Tree} {p : PlainPath} {keyword newName : Token}
      (htext : Tree.textOfAll children = p.text.toList) (hkeyword : keyword.text = "as") :
      Shows (.node .useRenamed [.node .usePath children, .leaf keyword, .leaf newName])
        (.renamed p newName.text)
  | list {children : List Tree} {members : List UseArgument} (hmembers : AllShow children members) :
      Shows (.node .useList children) (.list members)
  | group {front children : List Tree} {p : PlainPath} {scope : List Token}
      {members : List UseArgument} (htext : Tree.textOfAll front = p.text.toList)
      (hscope : ∀ token ∈ scope, token.kind = .mark) (hmembers : AllShow children members) :
      Shows (.node .useGroup (.node .usePath front :: (scope.map .leaf ++ [.node .useList children])))
        (.group p members)

/-- The trees for the members of a list, between brackets and commas. -/
inductive AllShow : List Tree → List UseArgument → Prop
  | nil : AllShow [] []
  | mark {token : Token} {rest : List Tree} {members : List UseArgument}
      (hkind : token.kind = .mark) (hrest : AllShow rest members) :
      AllShow (.leaf token :: rest) members
  | member {tree : Tree} {rest : List Tree} {argument : UseArgument} {members : List UseArgument}
      (htree : Shows tree argument) (hrest : AllShow rest members) :
      AllShow (tree :: rest) (argument :: members)

end

/-! ## Collecting paths -/

open UsePath

variable {module : String} {above path : List String}

/-- A tree is shown with its text, if the text has no replacement character. -/
lemma shown?_eq_some {tree : Tree} {s : String} (htext : tree.text = s.toList)
    (hknown : '\uFFFD' ∉ s.toList) : tree.shown? = some s := by
  have hcontains : s.toList.contains Text.replacement = false := by
    simpa [Text.replacement] using hknown
  rw [Tree.shown?, htext, hcontains, Bool.false_and, if_neg Bool.false_ne_true, String.ofList_toList]

/-- No path has a replacement character in it. -/
lemma PlainPath.replacement_not_mem (p : PlainPath) : '\uFFFD' ∉ p.text.toList := by
  intro hmem
  rw [PlainPath.text, toList_join_eq_spelled] at hmem
  rcases mem_spelled hmem with hc | ⟨piece, hpiece, hc⟩
  · exact absurd hc (by decide)
  · exact (p.isPiece_of_mem_pieces piece hpiece _ hc).2.2.1 rfl

/-- A star behind a path is one more piece of it. -/
lemma PlainPath.text_star (p : PlainPath) :
    Name.join (p.pieces ++ ["*"]) Name.defaultSeparator = p.text ++ "::*" := by
  rw [← String.toList_inj, toList_join_eq_spelled, spelled_concat p.pieces_ne_nil,
    String.toList_append, PlainPath.text, toList_join_eq_spelled]
  rfl

/-- What use trees one after the other name comes one after the other. -/
lemma pathsOfAll_append (s : String) (xs ys : List UseTree) :
    UseTree.pathsOfAll s (xs ++ ys) = UseTree.pathsOfAll s xs ++ UseTree.pathsOfAll s ys := by
  induction xs with
  | nil => rfl
  | cons x xs ih =>
    rw [List.cons_append, UseTree.pathsOfAll, UseTree.pathsOfAll, ih, List.append_assoc]

/-- One use tree names its own paths. -/
lemma pathsOfAll_singleton (s : String) (x : UseTree) : UseTree.pathsOfAll s [x] = x.paths s := by
  rw [UseTree.pathsOfAll, UseTree.pathsOfAll, List.append_nil]

/-- Tokens in front of a list are not looked into. -/
lemma membersIn_leaves_append (tokens : List Token) (trees : List Tree) :
    UseTree.membersIn (tokens.map .leaf ++ trees) = UseTree.membersIn trees := by
  induction tokens with
  | nil => rfl
  | cons token tokens ih =>
    rw [List.map_cons, List.cons_append, UseTree.membersIn, ih]
    simp

/-- The use tree of a group: only the path stands in front of its list.

**Proof sketch.** The tokens between the path and the list are marks, so they are no paths in front
of it, and the list is the first one among the pieces. -/
lemma ofTree_group {front children : List Tree} {p : PlainPath} {scope : List Token}
    (htext : Tree.textOfAll front = p.text.toList) (hscope : ∀ token ∈ scope, token.kind = .mark) :
    UseTree.ofTree (.node .useGroup (.node .usePath front ::
      (scope.map .leaf ++ [.node .useList children]))) =
        [.group [p.text] (UseTree.ofTrees children)] := by
  have hshown : (Tree.node .usePath front).front? = some p.text :=
    shown?_eq_some htext p.replacement_not_mem
  have hmarks : (scope.map Tree.leaf).filterMap Tree.front? = [] := by
    refine List.filterMap_eq_nil_iff.2 fun tree htree => ?_
    obtain ⟨token, htoken, rfl⟩ := List.mem_map.1 htree
    simp [Tree.front?, hscope token htoken]
  have hmembers : UseTree.membersIn (.node .usePath front ::
      (scope.map .leaf ++ [.node .useList children])) = UseTree.ofTrees children := by
    rw [UseTree.membersIn, membersIn_leaves_append]
    · rfl
    · simp
  rw [UseTree.ofTree, hmembers, List.filterMap_cons, hshown, List.filterMap_append, hmarks]
  rfl

/-- A path that an argument may stand below: no path at all, or one that is not only a separator. -/
structure IsAbove (above : List String) : Prop where
  ne_singleton_empty : above ≠ [""]
  isPiece : ∀ piece ∈ above, IsPiece piece

namespace IsAbove

/-- No path is one that an argument may stand below. -/
lemma nil : IsAbove [] :=
  ⟨List.cons_ne_nil _ _ |>.symm, fun _ h => absurd h List.not_mem_nil⟩

/-- A path may stand below another one, and an argument below both. -/
lemma append (h : IsAbove above) (p : PlainPath) : IsAbove (above ++ p.pieces) where
  ne_singleton_empty heq := by
    rcases List.append_eq_singleton_iff.1 heq with ⟨-, hp⟩ | ⟨-, hp⟩
    · exact p.pieces_ne_singleton_empty hp
    · exact p.pieces_ne_nil hp
  isPiece piece hpiece := by
    rcases List.mem_append.1 hpiece with hpiece | hpiece
    · exact h.isPiece piece hpiece
    · exact p.isPiece_of_mem_pieces piece hpiece

/-- A path below another one names what the names of both stand for. -/
lemma resolve?_below (h : IsAbove above) (hmodule : module ≠ "") (p : PlainPath) :
    resolve? module (below (Name.join above Name.defaultSeparator) p.text) =
      meaning? module (above ++ p.pieces) := by
  rw [PlainPath.text, below_join_append h.ne_singleton_empty p.pieces_ne_nil]
  exact resolve?_join hmodule (h.append p).isPiece

/-- A star behind a path counts nothing. -/
lemma resolve?_below_star (h : IsAbove above) (hmodule : module ≠ "") (p : PlainPath) :
    resolve? module (below (Name.join above Name.defaultSeparator) (p.text ++ "::*")) =
      meaning? module (above ++ p.pieces) := by
  rw [← p.text_star, below_join_append h.ne_singleton_empty (by simp), ← List.append_assoc]
  exact resolve?_join_star hmodule (h.append p).isPiece

/-- A star names what it stands below. -/
lemma resolve?_below_bare_star (h : IsAbove above) (hmodule : module ≠ "") :
    resolve? module (below (Name.join above Name.defaultSeparator) "*") =
      meaning? module (above ++ []) := by
  have hstar : Name.join ["*"] Name.defaultSeparator = "*" := rfl
  rw [← hstar, below_join_append h.ne_singleton_empty (by simp), List.append_nil]
  exact resolve?_join_star hmodule h.isPiece

end IsAbove

/-! ## From trees to leaves -/

mutual

/-- **The paths of an argument below a path name what its leaves stand for.**

**Proof sketch.** Induction on the tree. A group is where the path above changes: what stands in front
of its list comes behind it. -/
theorem Shows.map_resolve?_pathsOfAll (hmodule : module ≠ "") :
    ∀ {tree : Tree} {argument : UseArgument} {above : List String}, Shows tree argument →
      IsAbove above →
      (UseTree.pathsOfAll (Name.join above Name.defaultSeparator) (UseTree.ofTree tree)).map
        (resolve? module) = argument.leaves.map fun leaf => meaning? module (above ++ leaf)
  | _, _, _, @Shows.path children p htext, habove => by
    have hshown : (Tree.node .usePath children).shown? = some p.text :=
      shown?_eq_some htext p.replacement_not_mem
    rw [UseTree.ofTree, hshown]
    exact congrArg (· :: []) (habove.resolve?_below hmodule p)
  | _, _, _, @Shows.glob children p htext, habove => by
    have hshown : (Tree.node .useGlob children).shown? = some (p.text ++ "::*") := by
      refine shown?_eq_some (htext.trans String.toList_append.symm) ?_
      rw [String.toList_append]
      exact fun hmem => (List.mem_append.1 hmem).elim p.replacement_not_mem (by decide)
    rw [UseTree.ofTree, hshown]
    exact congrArg (· :: []) (habove.resolve?_below_star hmodule p)
  | _, _, _, @Shows.star children htext, habove => by
    have hshown : (Tree.node .useGlob children).shown? = some "*" :=
      shown?_eq_some htext (by decide)
    rw [UseTree.ofTree, hshown]
    exact congrArg (· :: []) (habove.resolve?_below_bare_star hmodule)
  | _, _, _, @Shows.renamed children p keyword newName htext _, habove => by
    have hpath : Tree.renamedPath? [.node .usePath children, .leaf keyword, .leaf newName] =
        some p.text :=
      shown?_eq_some htext p.replacement_not_mem
    rw [UseTree.ofTree, hpath]
    exact congrArg (· :: []) (habove.resolve?_below hmodule p)
  | _, _, _, .list hmembers, habove => by
    rw [UseTree.ofTree, pathsOfAll_singleton, UseTree.paths]
    exact hmembers.map_resolve?_pathsOfAll hmodule habove
  | _, _, above, @Shows.group front children p scope members htext hscope hmembers, habove => by
    rw [ofTree_group htext hscope, pathsOfAll_singleton, UseTree.paths]
    have hbelow : below (Name.join above Name.defaultSeparator) p.text =
        Name.join (above ++ p.pieces) Name.defaultSeparator :=
      below_join_append habove.ne_singleton_empty p.pieces_ne_nil
    have hlist := hmembers.map_resolve?_pathsOfAll hmodule (habove.append p)
    rw [← hbelow] at hlist
    rw [UseArgument.leaves, List.map_map]
    simpa [Function.comp_def] using hlist

/-- The same for the members of a list. Brackets and commas between them name nothing. -/
theorem AllShow.map_resolve?_pathsOfAll (hmodule : module ≠ "") :
    ∀ {trees : List Tree} {arguments : List UseArgument} {above : List String},
      AllShow trees arguments → IsAbove above →
      (UseTree.pathsOfAll (Name.join above Name.defaultSeparator) (UseTree.ofTrees trees)).map
        (resolve? module) =
          (UseArgument.leavesOfAll arguments).map fun leaf => meaning? module (above ++ leaf)
  | _, _, _, .nil, _ => rfl
  | _, _, _, @AllShow.mark token _ _ hkind hrest, habove => by
    have hnone : UseTree.ofTree (.leaf token) = [] := by simp [UseTree.ofTree, hkind]
    rw [UseTree.ofTrees, hnone]
    exact hrest.map_resolve?_pathsOfAll hmodule habove
  | _, _, _, .member htree hrest, habove => by
    rw [UseTree.ofTrees, pathsOfAll_append, List.map_append, UseArgument.leavesOfAll, List.map_append,
      htree.map_resolve?_pathsOfAll hmodule habove, hrest.map_resolve?_pathsOfAll hmodule habove]

end

/-! ## Declarations -/

/-- The tree of an argument is no comment. -/
lemma Shows.isComment_eq_false {tree : Tree} {argument : UseArgument} (h : Shows tree argument) :
    tree.isComment = false := by
  cases h <;> rfl

/-- Trees one after the other stand for use trees one after the other. -/
lemma ofTrees_append (xs ys : List Tree) :
    UseTree.ofTrees (xs ++ ys) = UseTree.ofTrees xs ++ UseTree.ofTrees ys := by
  induction xs with
  | nil => rfl
  | cons x xs ih => rw [List.cons_append, UseTree.ofTrees, UseTree.ofTrees, ih, List.append_assoc]

/-- Tokens that are no comments stand for no use tree.

**Proof sketch.** Induction along the tokens. -/
lemma ofTrees_leaves (tokens : List Token) :
    UseTree.ofTrees ((tokens.map Tree.leaf).filter fun tree => !tree.isComment) = [] := by
  induction tokens with
  | nil => rfl
  | cons token tokens ih =>
    rw [List.map_cons, List.filter_cons]
    split
    · next hkind =>
      have hcomment : token.kind ≠ .comment := by simpa [Tree.isComment] using hkind
      have hnone : UseTree.ofTree (.leaf token) = [] := by simp [UseTree.ofTree, hcomment]
      rw [UseTree.ofTrees, hnone, ih]
      rfl
    · exact ih

/-- A use declaration with the tree of its argument between other tokens. -/
def Tree.useDeclaration (before : List Token) (argument : Tree) (after : List Token) : Tree :=
  .node .useDeclaration (before.map leaf ++ argument :: after.map leaf)

/-- The use trees of a declaration are those of its argument. -/
lemma uses_useDeclaration {argument : UseArgument} {tree : Tree} (h : Shows tree argument)
    (before after : List Token) :
    (Tree.useDeclaration before tree after).uses = UseTree.ofTree tree := by
  rw [Tree.useDeclaration, Tree.uses, List.filter_append,
    List.filter_cons_of_pos (by simp [h.isComment_eq_false]), ofTrees_append, ofTrees_leaves,
    UseTree.ofTrees, ofTrees_leaves, List.append_nil, List.nil_append]

/-- A node that is no use declaration names what its children name. -/
lemma uses_node {rule : Rule} (h : rule ≠ .useDeclaration) (children : List Tree) :
    (Tree.node rule children).uses = Tree.usesOfAll children := by
  rw [Tree.uses]
  exact h

/-- A comment is no use declaration. -/
lemma uses_of_isComment {tree : Tree} (h : tree.isComment = true) : tree.uses = [] := by
  cases tree with
  | leaf token => rw [Tree.uses]
  | node rule children => simp [Tree.isComment] at h

/-- Trees one after the other have the use declarations of both. -/
lemma usesOfAll_append (xs ys : List Tree) :
    Tree.usesOfAll (xs ++ ys) = Tree.usesOfAll xs ++ Tree.usesOfAll ys := by
  induction xs with
  | nil => rfl
  | cons x xs ih => rw [List.cons_append, Tree.usesOfAll, Tree.usesOfAll, ih, List.append_assoc]

namespace UseArgument

mutual

/-- No leaf is only a separator. A leaf has the names of a path in it, or it is a star without
anything in front. -/
lemma ne_singleton_empty_of_mem_leaves :
    ∀ {argument : UseArgument} {leaf : List String}, leaf ∈ argument.leaves → leaf ≠ [""]
  | .path p, _, h | .glob p, _, h | .renamed p _, _, h =>
    List.mem_singleton.1 h ▸ p.pieces_ne_singleton_empty
  | .star, _, h => List.mem_singleton.1 h ▸ (List.cons_ne_nil _ _).symm
  | .list _, _, h => ne_singleton_empty_of_mem_leavesOfAll h
  | .group above _, _, h => by
    obtain ⟨leaf, -, rfl⟩ := List.mem_map.1 h
    intro heq
    rcases List.append_eq_singleton_iff.1 heq with ⟨hnil, -⟩ | ⟨hempty, -⟩
    · exact above.pieces_ne_nil hnil
    · exact above.pieces_ne_singleton_empty hempty

/-- The same for the leaves of some arguments. -/
lemma ne_singleton_empty_of_mem_leavesOfAll :
    ∀ {arguments : List UseArgument} {leaf : List String}, leaf ∈ leavesOfAll arguments →
      leaf ≠ [""]
  | [], _, h => absurd h List.not_mem_nil
  | _ :: _, _, h => (List.mem_append.1 h).elim ne_singleton_empty_of_mem_leaves
      ne_singleton_empty_of_mem_leavesOfAll

end

/-- **A use declaration names what its leaves stand for.** For every argument, every tree that the
grammar has for it and every module, resolving the collected paths gives, from left to right, what each
leaf stands for, and the declaration has the results as its targets. A leaf names nothing exactly if it is
a star alone, if only a separator stands in front of its last `self`, or if it leads above the root of the
module. In a module whose name is made of segments, some levels up is the module that is made of the
first segments. -/
theorem targets_eq_leaves {argument : UseArgument} {tree : Tree} (htree : Shows tree argument)
    {module : String} (hmodule : module ≠ "") (before after : List Token) (items : List Entity) :
    let uses := (Tree.useDeclaration before tree after).uses
    (UseTree.pathsOfAll "" uses).map (resolve? module) = argument.leaves.map (meaning? module) ∧
    SourceFile.targets ⟨items, uses⟩ module = argument.leaves.filterMap (meaning? module) ∧
    (∀ leaf ∈ argument.leaves, meaning? module leaf = none ↔ leaf = [] ∨ leaf = ["", "self"] ∨
      Name.ancestor? Name.defaultSeparator module ((steps leaf).count "super") = none) ∧
    ∀ segs, segs ≠ [] → (∀ segment ∈ segs, Name.IsSegment Name.defaultSeparator segment) →
      module = Name.join segs Name.defaultSeparator →
      ∀ level, Name.ancestor? Name.defaultSeparator module level =
        if level < segs.length then
          some (Name.join (segs.take (segs.length - level)) Name.defaultSeparator)
        else none := by
  intro uses
  have hresolved : (UseTree.pathsOfAll "" uses).map (resolve? module) =
      argument.leaves.map (meaning? module) := by
    have hbelow := htree.map_resolve?_pathsOfAll hmodule .nil
    rwa [← uses_useDeclaration htree before after] at hbelow
  refine ⟨hresolved, ?_, fun leaf hleaf => ?_, fun segs hne hsegs hjoin level => ?_⟩
  · have hpresent := congrArg (List.filterMap id) hresolved
    rwa [List.filterMap_map, List.filterMap_map] at hpresent
  · rw [meaning?_eq_none_iff, or_assoc, or_assoc,
      or_iff_right (ne_singleton_empty_of_mem_leaves hleaf)]
  · rw [hjoin, Name.ancestor?_join (by decide) hne hsegs]

/-- A declaration with nested lists, another name, a star, blanks inside a path, a comma behind the last
member, and one leaf that leads above the root. -/
theorem targets_of_nested_lists :
    let argument : UseArgument := .group ⟨false, ["super"], by decide, by decide⟩
      [.renamed ⟨false, ["self"], by decide, by decide⟩ "s",
       .group ⟨false, ["x"], by decide, by decide⟩ [.star],
       .path ⟨false, ["super", "y"], by decide, by decide⟩]
    ∃ tree before after rest,
      Tree.ofText? "pub use super::\x7bself as s, x :: \x7b*\x7d, super::y,\x7d;" =
        some (.node .source (.node .statement [.useDeclaration before tree after] :: rest)) ∧
      Shows tree argument ∧ "crate::graph" ≠ "" ∧
      argument.leaves = [["super", "self"], ["super", "x"], ["super", "super", "y"]] ∧
      SourceFile.targets ⟨[], (Tree.useDeclaration before tree after).uses⟩ "crate::graph" =
        ["crate", "crate::x"] ∧
      Name.ancestor? Name.defaultSeparator "crate::graph" 2 = none := by
  intro argument
  obtain ⟨tree, before, after, rest, htext, htree⟩ : ∃ tree before after rest,
      Tree.ofText? "pub use super::\x7bself as s, x :: \x7b*\x7d, super::y,\x7d;" =
        some (.node .source (.node .statement [.useDeclaration before tree after] :: rest)) ∧
      Shows tree argument := by
    refine ⟨_, [_, _], [_], _, rfl, ?_⟩
    refine @Shows.group _ _ _ [_, _] _ (by decide +kernel) (by decide +kernel) ?_
    refine .mark rfl (.member (.renamed (by decide +kernel) (by decide +kernel)) (.mark rfl
      (.member ?_ (.mark rfl (.member (.path (by decide +kernel)) (.mark rfl (.mark rfl .nil)))))))
    refine @Shows.group _ _ _ [_, _] _ (by decide +kernel) (by decide +kernel) ?_
    exact .mark rfl (.member (.star (by decide +kernel)) (.mark rfl .nil))
  obtain ⟨-, htargets, -, hancestor⟩ :=
    targets_eq_leaves htree (by decide : "crate::graph" ≠ "") before after []
  refine ⟨tree, before, after, rest, htext, htree, by decide, by decide, htargets.trans ?_, ?_⟩
  · decide +kernel
  · exact hancestor ["crate", "graph"] (by decide) (by decide) (by decide) 2

/-- **Names at the end of a path that do not count, and a name that hides where a module ends.** The path
in front of a star is named without its last `self`. A `self` with only a separator in front names
nothing, although it is no star and leads nowhere. And the module above one whose last segment begins
with half a separator is not made of the other segments. -/
theorem last_self_is_dropped :
    let below : UseArgument := .group ⟨false, ["a"], by decide, by decide⟩
      [.glob ⟨false, ["self"], by decide, by decide⟩]
    let global : UseArgument := .path ⟨true, ["self"], by decide, by decide⟩
    let targets := fun text module => (SourceFile.ofText? text).toOption.map (·.targets module)
    (∃ tree before after rest, Tree.ofText? "use a::\x7bself::*\x7d;" =
        some (.node .source (.node .statement [.useDeclaration before tree after] :: rest)) ∧
      Shows tree below) ∧
    below.leaves = [["a", "self"]] ∧ targets "use a::\x7bself::*\x7d;" "crate" = some ["a"] ∧
    (∃ tree before after rest, Tree.ofText? "use ::self;" =
        some (.node .source (.node .statement [.useDeclaration before tree after] :: rest)) ∧
      Shows tree global) ∧
    global.leaves = [["", "self"]] ∧ targets "use ::self;" "crate" = some [] ∧
    "crate:::b" = Name.join ["crate", ":b"] "::" ∧
    targets "use super::x;" "crate:::b" = some ["crate:::x"] := by
  intro below global targets
  refine ⟨⟨_, [_], [_], _, rfl, ?_⟩, by decide, by decide +kernel, ⟨_, [_], [_], _, rfl, ?_⟩, by decide,
    by decide +kernel, by decide, by decide +kernel⟩
  · refine @Shows.group _ _ _ [_, _] _ (by decide +kernel) (by decide +kernel) ?_
    exact .mark rfl (.member (.glob (by decide +kernel)) (.mark rfl .nil))
  · exact .path (by decide +kernel)

end UseArgument

end DepAtlas.Source
