import DepAtlas.Proofs.Source.UseTree

set_option relaxedAutoImplicit false
set_option autoImplicit false

/-!
# Comments in use declarations

A comment is a tree of its own wherever it stands. Beside the argument of a use declaration and beside the
path of a renaming it is passed over. Among the members of a list it is read like a path: the declaration
names all that it names without the comment, and one name more. Behind the path in front of a list it takes
the place of this path, and inside a path it is a part of the text.

## Main definitions

* `DepAtlas.Source.Tree.uncommented` — a tree without the comments in it.
* `DepAtlas.Source.Tree.isTidy` — no comment stands inside a path or behind the path in front of a list.
* `DepAtlas.Source.UseTree.commentPaths` — what the comments in lists are read as.

## Main results

* `DepAtlas.Source.Tree.extends_ofTree` — comments in lists only add paths.
* `DepAtlas.Source.SourceFile.comments_only_add` — what comments do to the targets of a file.
* `DepAtlas.Source.SourceFile.comment_is_named` — comments that are named.
* `DepAtlas.Source.SourceFile.ofBytes?_toUTF8` — a file that is UTF-8 is read like its text.
-/

namespace DepAtlas.Source

/-! ## Trees without comments -/

namespace Tree

mutual

/-- A tree without the comments in it. -/
def uncommented : Tree → Tree
  | leaf token => leaf token
  | node rule children => node rule (uncommentedAll children)

/-- Trees without the comments among them and in them. -/
def uncommentedAll : List Tree → List Tree
  | [] => []
  | tree :: rest =>
    if tree.isComment then uncommentedAll rest else tree.uncommented :: uncommentedAll rest

end

mutual

/-- Whether there is a comment in a tree. -/
def hasComment : Tree → Bool
  | leaf token => token.kind == .comment
  | node _ children => haveComment children

/-- Whether there is a comment in some trees. -/
def haveComment : List Tree → Bool
  | [] => false
  | tree :: rest => tree.hasComment || haveComment rest

end

/-- Whether a tree is a list in braces. -/
def isList : Tree → Bool
  | node .useList _ => true
  | _ => false

mutual

/-- Whether all comments in a piece of a use declaration stand beside paths: none is inside of a
path, and none in front of the list that a path stands for. Comments among the members of a list are
allowed. -/
def isClear : Tree → Bool
  | leaf _ => true
  | node .usePath children | node .useGlob children => !haveComment children
  | node .useRenamed children => children.all fun tree => tree.isComment || !tree.hasComment
  | node .useList children => areClear children
  | node .useGroup children =>
    children.all (fun tree => tree.isList || !tree.hasComment) && areClear children
  | node _ _ => true

/-- Whether all comments in some pieces of a use declaration stand beside paths. -/
def areClear : List Tree → Bool
  | [] => true
  | tree :: rest => tree.isClear && areClear rest

end

mutual

/-- Whether all comments in the use declarations of a tree stand beside paths. -/
def isTidy : Tree → Bool
  | leaf _ => true
  | node .useDeclaration pieces => areClear pieces
  | node _ children => areTidy children

/-- Whether all comments in the use declarations of some trees stand beside paths. -/
def areTidy : List Tree → Bool
  | [] => true
  | tree :: rest => tree.isTidy && areTidy rest

end

/-- Taking comments out of a tree makes no comment of it, and does not make it something else. -/
@[simp] lemma isComment_uncommented (tree : Tree) : tree.uncommented.isComment = tree.isComment := by
  cases tree <;> rfl

/-- Trees without comments are those that are none, each without the comments in it. -/
lemma uncommentedAll_eq (trees : List Tree) :
    uncommentedAll trees = (trees.filter fun tree => !tree.isComment).map uncommented := by
  induction trees with
  | nil => rfl
  | cons tree trees ih =>
    rw [uncommentedAll]
    cases hcomment : tree.isComment <;> simp [hcomment, ih]

mutual

/-- A tree that has no comment is left as it is. -/
lemma uncommented_eq_self : ∀ {tree : Tree}, tree.hasComment = false → tree.uncommented = tree
  | leaf _, _ => rfl
  | node rule _, h => congrArg (node rule) (uncommentedAll_eq_self h)

/-- Trees that have no comments are left as they are. -/
lemma uncommentedAll_eq_self : ∀ {trees : List Tree}, haveComment trees = false →
    uncommentedAll trees = trees
  | [], _ => rfl
  | tree :: rest, h => by
    obtain ⟨htree, hrest⟩ := Bool.or_eq_false_iff.1 h
    have hcomment : tree.isComment = false := by
      cases tree with
      | leaf token => exact htree
      | node rule children => rfl
    rw [uncommentedAll, hcomment, uncommented_eq_self htree, uncommentedAll_eq_self hrest]
    rfl

end

/-- Some of the pieces are clear if all of them are. -/
lemma areClear_filter (keep : Tree → Bool) {trees : List Tree} (h : areClear trees = true) :
    areClear (trees.filter keep) = true := by
  induction trees with
  | nil => rfl
  | cons tree trees ih =>
    obtain ⟨htree, hrest⟩ := Bool.and_eq_true_iff.1 h
    rw [List.filter_cons]
    split
    · exact Bool.and_eq_true_iff.2 ⟨htree, ih hrest⟩
    · exact ih hrest

/-- Dropping the comments among trees first makes no difference. -/
lemma uncommentedAll_filter (trees : List Tree) :
    uncommentedAll (trees.filter fun tree => !tree.isComment) = uncommentedAll trees := by
  rw [uncommentedAll_eq, uncommentedAll_eq, List.filter_filter]
  simp

/-- There is no comment among trees without comments. -/
lemma filter_uncommentedAll (trees : List Tree) :
    (uncommentedAll trees).filter (fun tree => !tree.isComment) = uncommentedAll trees := by
  rw [uncommentedAll_eq, List.filter_map, List.filter_filter]
  simp

end Tree

/-! ## What comments in lists are read as -/

namespace UseTree

/-- The path that a list is read below: what stands last in front of it. For a list behind a path
this is the path, unless a comment stands between the two. -/
def belowFront (above : String) (front : List String) : String :=
  match front.getLast? with
  | some text => below above text
  | none => above

/-- What a group names is what its members name below the path in front of them. -/
lemma paths_group (above : String) (front : List String) (members : List UseTree) :
    (group front members).paths above = pathsOfAll (belowFront above front) members := by
  rw [paths]
  rfl

mutual

/-- The paths that the comments in the lists of a tree are read as, below another path. A comment is
read as a path of one name, which is its text. -/
def commentPaths (above : String) : UseTree → List String
  | path _ | renamed _ _ => []
  | comment text => [below above text]
  | list members => commentPathsOfAll above members
  | group front members => commentPathsOfAll (belowFront above front) members

/-- The paths that the comments in the lists of some trees are read as. -/
def commentPathsOfAll (above : String) : List UseTree → List String
  | [] => []
  | tree :: rest => tree.commentPaths above ++ commentPathsOfAll above rest

end

/-- Comments of trees one after the other are read one after the other. -/
lemma commentPathsOfAll_append (above : String) (xs ys : List UseTree) :
    commentPathsOfAll above (xs ++ ys) = commentPathsOfAll above xs ++ commentPathsOfAll above ys := by
  induction xs with
  | nil => rfl
  | cons x xs ih =>
    rw [List.cons_append, commentPathsOfAll, commentPathsOfAll, ih, List.append_assoc]

end UseTree

/-! ## Lists with something added -/

/-- A list consists of the entries of an old one, in their order, and of some added ones between
them. The added ones are known as well, so that it can be said when nothing changes. -/
structure Extends {α : Type} (old added all : List α) : Prop where
  sublist : old.Sublist all
  perm : all.Perm (old ++ added)

namespace Extends

variable {α β : Type} {old added all old' added' all' : List α}

/-- Nothing is added to a list by itself. -/
lemma refl (old : List α) : Extends old [] old :=
  ⟨.refl old, by rw [List.append_nil]⟩

/-- All entries may be added ones. -/
lemma of_added (added : List α) : Extends [] added added :=
  ⟨List.nil_sublist _, .refl _⟩

/-- Lists that are put together have the entries that both of them add. -/
lemma append (h : Extends old added all) (h' : Extends old' added' all') :
    Extends (old ++ old') (added ++ added') (all ++ all') := by
  refine ⟨h.sublist.append h'.sublist, (h.perm.append h'.perm).trans ?_⟩
  rw [List.append_assoc, List.append_assoc]
  refine List.Perm.append_left old ?_
  rw [← List.append_assoc, ← List.append_assoc]
  exact List.perm_append_comm.append_right added'

/-- A partial mapping may be applied to the old entries, the added ones and all. -/
lemma filterMap (h : Extends old added all) (f : α → Option β) :
    Extends (old.filterMap f) (added.filterMap f) (all.filterMap f) := by
  refine ⟨h.sublist.filterMap f, ?_⟩
  rw [← List.filterMap_append]
  exact h.perm.filterMap f

/-- Nothing is changed exactly if nothing is added. -/
lemma eq_iff (h : Extends old added all) : all = old ↔ added = [] := by
  have hlength : all.length = old.length + added.length := by
    rw [h.perm.length_eq, List.length_append]
  constructor
  · intro heq
    rw [heq] at hlength
    exact List.length_eq_zero_iff.1 (by omega)
  · rintro rfl
    exact (h.sublist.eq_of_length hlength.symm).symm

end Extends

/-! ## Comments in lists only add paths -/

namespace Tree

open UseTree

variable {children : List Tree}

/-- The nodes that stand for use trees. -/
def clauses : List Rule := [.usePath, .useGlob, .useRenamed, .useList, .useGroup]

/-- Other nodes name nothing. -/
lemma ofTree_eq_nil {rule : Rule} (h : rule ∉ clauses) (children : List Tree) :
    ofTree (.node rule children) = [] := by
  unfold ofTree
  split <;> simp_all [clauses]

/-- Comments beside the path of a renaming are passed over, as only the path is looked at. -/
lemma ofTree_renamed_uncommented
    (h : children.all (fun tree => tree.isComment || !tree.hasComment) = true) :
    ofTree (.node .useRenamed (uncommentedAll children)) = ofTree (.node .useRenamed children) := by
  have hfilter : uncommentedAll children = children.filter fun tree => !tree.isComment := by
    rw [uncommentedAll_eq]
    refine (List.map_congr_left fun tree htree => ?_).trans (List.map_id _)
    obtain ⟨hmem, hcomment⟩ := List.mem_filter.1 htree
    have hclear := (Bool.or_eq_true_iff.1 (List.all_eq_true.1 h tree hmem)).resolve_left
      (by simpa using hcomment)
    exact uncommented_eq_self (by simpa using hclear)
  rw [hfilter, ofTree, ofTree, renamedPath?, renamedPath?, newName, newName, List.find?_filter,
    List.filter_filter]
  simp

/-- What may stand in front of a list, or is one, is no comment. -/
lemma isComment_eq_false_of_isList_or {tree : Tree} (h : (tree.isList || !tree.hasComment) = true) :
    tree.isComment = false := by
  cases tree with
  | leaf token => simpa [isList, hasComment, isComment] using h
  | node rule children => rfl

/-- What stands in front of a list is the same without the comments in the list.

**Proof sketch.** Induction along the pieces. A list is no path in front of itself, and all other
pieces have no comments by assumption. -/
lemma filterMap_front?_uncommentedAll
    (h : children.all (fun tree => tree.isList || !tree.hasComment) = true) :
    (uncommentedAll children).filterMap front? = children.filterMap front? := by
  induction children with
  | nil => rfl
  | cons tree children ih =>
    obtain ⟨htree, hrest⟩ := Bool.and_eq_true_iff.1 h
    have hcomment : tree.isComment = false := isComment_eq_false_of_isList_or htree
    have hfront : tree.uncommented.front? = tree.front? := by
      rcases Bool.or_eq_true_iff.1 htree with hlist | hclear
      · unfold isList at hlist
        split at hlist
        · rfl
        · simp at hlist
      · rw [uncommented_eq_self (by simpa using hclear)]
    rw [uncommentedAll, hcomment, if_neg Bool.false_ne_true, List.filterMap_cons, List.filterMap_cons,
      hfront, ih hrest]

/-- Paths that no comment stands in are all that their use trees name. -/
lemma extends_toList_map_path (above : String) (text : Option String) :
    Extends (pathsOfAll above (text.toList.map .path)) (commentPathsOfAll above (text.toList.map .path))
      (pathsOfAll above (text.toList.map .path)) := by
  cases text with
  | none => exact .refl _
  | some text => exact .refl _

/-- A list is a node of this rule. -/
lemma isList_iff {tree : Tree} : tree.isList = true ↔ ∃ children, tree = .node .useList children := by
  unfold isList
  split <;> simp_all

/-- A list stays one without its comments. -/
lemma isList_uncommented (tree : Tree) : tree.uncommented.isList = tree.isList := by
  cases tree with
  | leaf token => rfl
  | node rule children => cases rule <;> rfl

/-- Only lists have members. -/
lemma membersIn_cons_of_not_isList {tree : Tree} (h : tree.isList = false) (rest : List Tree) :
    membersIn (tree :: rest) = membersIn rest := by
  rw [membersIn]
  rintro children rfl
  simp [isList] at h

/-- A comment is read as a path, or as nothing if it has bytes that no character can be made of. So
it adds what it is read as, and nothing else. -/
lemma extends_ofTree_of_isComment {tree : Tree} (above : String) (h : tree.isComment = true) :
    Extends [] (commentPathsOfAll above (ofTree tree)) (pathsOfAll above (ofTree tree)) := by
  cases tree with
  | leaf token =>
    have hkind : (token.kind == .comment) = true := h
    rw [ofTree, if_pos hkind]
    cases (leaf token).shown? with
    | none => exact .refl _
    | some text => exact .of_added _
  | node rule children => simp [isComment] at h

mutual

/-- **Comments in lists only add paths**, and no other comment counts, if none stands inside of a path or in
front of a list.

**Proof sketch.** Induction on the tree. Only the members of a list and those of a list behind a path may
have comments among them that count; below the same path they are read from the same lists. -/
theorem extends_ofTree : ∀ {tree : Tree} (above : String), tree.isClear = true →
    tree.isComment = false → Extends (pathsOfAll above (ofTree tree.uncommented))
      (commentPathsOfAll above (ofTree tree)) (pathsOfAll above (ofTree tree))
  | .leaf token, above, _, hcomment => by
    have hnone : ofTree (.leaf token) = [] := by
      rw [ofTree]
      exact if_neg (by simpa [isComment] using hcomment)
    rw [uncommented, hnone]
    exact .refl _
  | .node rule children, above, hclear, _ => by
    rw [uncommented]
    by_cases hrule : rule ∈ clauses
    · simp only [clauses, List.mem_cons, List.not_mem_nil, or_false] at hrule
      rcases hrule with rfl | rfl | rfl | rfl | rfl
      · rw [uncommentedAll_eq_self (by simpa [isClear] using hclear), ofTree]
        exact extends_toList_map_path above _
      · rw [uncommentedAll_eq_self (by simpa [isClear] using hclear), ofTree]
        exact extends_toList_map_path above _
      · rw [ofTree_renamed_uncommented hclear, ofTree]
        cases renamedPath? children with
        | none => exact .refl _
        | some path => exact .refl _
      · rw [ofTree, ofTree]
        have hmembers := extends_ofTrees above hclear
        simpa [pathsOfAll, paths, commentPathsOfAll, commentPaths] using hmembers
      · obtain ⟨hfront, hmembers⟩ := Bool.and_eq_true_iff.1 hclear
        rw [ofTree, ofTree, filterMap_front?_uncommentedAll hfront]
        have hlist := extends_membersIn
          (belowFront above (children.filterMap front?)) hfront hmembers
        simpa [pathsOfAll, paths_group, commentPathsOfAll, commentPaths] using hlist
    · rw [ofTree_eq_nil hrule, ofTree_eq_nil hrule]
      exact .refl _

/-- The same for the members of a list, where comments may stand. Each of them is read as a path of
its own, so it comes between what the members name. -/
theorem extends_ofTrees : ∀ {trees : List Tree} (above : String), areClear trees = true →
    Extends (pathsOfAll above (ofTrees (uncommentedAll trees)))
      (commentPathsOfAll above (ofTrees trees)) (pathsOfAll above (ofTrees trees))
  | [], above, _ => .refl _
  | tree :: rest, above, h => by
    obtain ⟨htree, hrest⟩ := Bool.and_eq_true_iff.1 h
    have hrests := extends_ofTrees above hrest
    rw [uncommentedAll, ofTrees, pathsOfAll_append, commentPathsOfAll_append]
    cases hcomment : tree.isComment with
    | true =>
      exact Extends.append (extends_ofTree_of_isComment above hcomment) hrests
    | false =>
      rw [if_neg Bool.false_ne_true, ofTrees, pathsOfAll_append]
      exact (extends_ofTree above htree hcomment).append hrests

/-- The same for the members of the list among some pieces.

**Proof sketch.** Induction along the pieces, of which the first one that is a list has the members.
What is not a list has no comments in it. -/
theorem extends_membersIn : ∀ {trees : List Tree} (above : String),
    trees.all (fun tree => tree.isList || !tree.hasComment) = true → areClear trees = true →
    Extends (pathsOfAll above (membersIn (uncommentedAll trees)))
      (commentPathsOfAll above (membersIn trees)) (pathsOfAll above (membersIn trees))
  | [], above, _, _ => .refl _
  | tree :: rest, above, hfront, h => by
    obtain ⟨htree, hrest⟩ := Bool.and_eq_true_iff.1 h
    obtain ⟨hfree, hfront⟩ := Bool.and_eq_true_iff.1 hfront
    have hcomment : tree.isComment = false := isComment_eq_false_of_isList_or hfree
    rw [uncommentedAll, hcomment]
    cases hlist : tree.isList with
    | true =>
      obtain ⟨children, rfl⟩ := isList_iff.1 hlist
      rw [uncommented, if_neg Bool.false_ne_true, membersIn, membersIn]
      exact extends_ofTrees above htree
    | false =>
      rw [if_neg Bool.false_ne_true, membersIn_cons_of_not_isList hlist,
        membersIn_cons_of_not_isList (by rwa [isList_uncommented])]
      exact extends_membersIn above hfront hrest

end

/-! ## Comments in files -/

mutual

/-- Comments only add paths to what the use declarations of a tree name, if it is tidy.

**Proof sketch.** Mutual induction over the trees. Other nodes than use declarations name what their
children name. -/
lemma extends_uses : ∀ {tree : Tree} (above : String), tree.isTidy = true →
    Extends (pathsOfAll above tree.uncommented.uses) (commentPathsOfAll above tree.uses)
      (pathsOfAll above tree.uses)
  | .leaf token, above, _ => by
    rw [uncommented, uses]
    exact .refl _
  | .node rule children, above, h => by
    rw [uncommented]
    by_cases hrule : rule = .useDeclaration
    · subst hrule
      rw [uses, uses, filter_uncommentedAll, ← uncommentedAll_filter]
      rw [isTidy] at h
      exact extends_ofTrees above (areClear_filter _ h)
    · rw [uses_node hrule, uses_node hrule]
      rw [isTidy] at h
      · exact extends_usesOfAll above h
      · exact hrule

/-- The same for the use declarations of some trees, one after the other. -/
lemma extends_usesOfAll : ∀ {trees : List Tree} (above : String), areTidy trees = true →
    Extends (pathsOfAll above (usesOfAll (uncommentedAll trees)))
      (commentPathsOfAll above (usesOfAll trees)) (pathsOfAll above (usesOfAll trees))
  | [], above, _ => .refl _
  | tree :: rest, above, h => by
    obtain ⟨htree, hrest⟩ := Bool.and_eq_true_iff.1 h
    rw [usesOfAll, pathsOfAll_append, commentPathsOfAll_append, uncommentedAll]
    cases hcomment : tree.isComment with
    | true =>
      rw [if_pos rfl, uses_of_isComment hcomment]
      exact extends_usesOfAll above hrest
    | false =>
      rw [if_neg Bool.false_ne_true, usesOfAll, pathsOfAll_append]
      exact (extends_uses above htree).append (extends_usesOfAll above hrest)

end

/-! ## Comments in front of a list -/

/-- Marks are no paths in front of a list. -/
lemma filterMap_front?_marks {tokens : List Token} (h : ∀ token ∈ tokens, token.kind = .mark) :
    (tokens.map leaf).filterMap front? = [] := by
  refine List.filterMap_eq_nil_iff.2 fun tree htree => ?_
  obtain ⟨token, htoken, rfl⟩ := List.mem_map.1 htree
  simp [front?, h token htoken]

/-- The pieces of a list behind a path, with some comments between them. -/
def groupPieces (front : List Tree) (before comments after : List Token) (members : List Tree) :
    List Tree :=
  .node .usePath front :: (before.map leaf ++ (comments.map leaf ++ (after.map leaf ++
    [.node .useList members])))

/-- **The list is read below what stands last in front of it**, be it the path or a comment.

**Proof sketch.** Of the pieces in front of the list only the path and the comments are shown, and
the last of them is what its members are put behind. -/
lemma pathsOfAll_groupPieces {front : List Tree} {before comments after : List Token} {path : String}
    {texts : List String} (hpath : (node .usePath front).shown? = some path)
    (htexts : (comments.map leaf).filterMap front? = texts)
    (hbefore : ∀ token ∈ before, token.kind = .mark) (hafter : ∀ token ∈ after, token.kind = .mark)
    (members : List Tree) (above : String) :
    pathsOfAll above (ofTree (.node .useGroup (groupPieces front before comments after members))) =
      pathsOfAll (below above ((path :: texts).getLast (List.cons_ne_nil _ _))) (ofTrees members) := by
  have hfront : (node .usePath front).front? = some path := hpath
  have hnone : (node .useList members).front? = none := rfl
  have hmembers : membersIn (groupPieces front before comments after members) = ofTrees members := by
    rw [groupPieces, membersIn_cons_of_not_isList rfl, membersIn_leaves_append, membersIn_leaves_append,
      membersIn_leaves_append, membersIn]
  have hfronts : (groupPieces front before comments after members).filterMap front? = path :: texts := by
    rw [groupPieces, List.filterMap_cons_some hfront, List.filterMap_append, List.filterMap_append,
      List.filterMap_append, filterMap_front?_marks hbefore, filterMap_front?_marks hafter, htexts,
      List.filterMap_cons_none hnone, List.filterMap_nil, List.append_nil, List.append_nil,
      List.nil_append]
  rw [ofTree, hmembers, hfronts, pathsOfAll_singleton, paths_group, belowFront,
    List.getLast?_eq_some_getLast (List.cons_ne_nil _ _)]

end Tree

namespace SourceFile

/-- What the comments in lists add to the targets of a file. -/
def commentTargets (f : SourceFile) (module : String) : List String :=
  (UseTree.commentPathsOfAll "" f.uses).filterMap (resolve? module)

/-- **Comments only add targets, or change the path in front of a list.** If no comment stands
inside of a path or in front of the list behind a path, a file has all the targets that it has
without comments, in the same order, and between them those of the comments in lists. So comments do
not count exactly if no comment in a list names anything. A comment behind the path in front of a
list takes the place of this path.

**Proof sketch.** Induction on the trees: each use tree names what it names without comments, and
what its comments are read as comes in between. Resolving the paths keeps this, as it goes path by
path. -/
theorem comments_only_add (module : String) :
    (∀ trees, Tree.areTidy trees = true →
      let f := ofTrees trees
      let bare := ofTrees (Tree.uncommentedAll trees)
      (bare.targets module).Sublist (f.targets module) ∧
      (f.targets module).Perm (bare.targets module ++ f.commentTargets module) ∧
      (f.targets module = bare.targets module ↔ f.commentTargets module = [])) ∧
    ∀ (front members : List Tree) (before after : List Token) (comment : Token) (path text : String),
      (Tree.node .usePath front).shown? = some path →
      comment.kind = .comment → (Tree.leaf comment).shown? = some text →
      (∀ token ∈ before, token.kind = .mark) → (∀ token ∈ after, token.kind = .mark) →
      let group := fun comments =>
        Tree.node .useGroup (Tree.groupPieces front before comments after members)
      ∀ above,
        UseTree.pathsOfAll above (UseTree.ofTree (group [])) =
          UseTree.pathsOfAll (below above path) (UseTree.ofTrees members) ∧
        UseTree.pathsOfAll above (UseTree.ofTree (group [comment])) =
          UseTree.pathsOfAll (below above text) (UseTree.ofTrees members) := by
  constructor
  · intro trees htidy f bare
    have hadded : Extends (bare.targets module) (f.commentTargets module) (f.targets module) :=
      (Tree.extends_usesOfAll "" htidy).filterMap (resolve? module)
    exact ⟨hadded.sublist, hadded.perm, hadded.eq_iff⟩
  · intro front members before after comment path text hpath hcomment htext hbefore hafter group above
    have hfront : ([comment].map Tree.leaf).filterMap Tree.front? = [text] := by
      simp [Tree.front?, hcomment, htext]
    exact ⟨Tree.pathsOfAll_groupPieces hpath rfl hbefore hafter members above,
      Tree.pathsOfAll_groupPieces hpath hfront hbefore hafter members above⟩

/-- A renaming with a comment behind its path, a list with a comment in it, and a comment behind the path
in front of a list. -/
theorem comments_of_two_declarations :
    ∃ trees front before after comment members keyword semicolon rest,
      Tree.ofText? "use super::\x7bx /* b */ as y, /* c */ z\x7d;" = some (.node .source trees) ∧
      Tree.areTidy trees = true ∧
      ((ofTrees trees).targets "crate::graph").Perm
        ((ofTrees (Tree.uncommentedAll trees)).targets "crate::graph" ++ ["crate::/*c*/"]) ∧
      (ofTrees trees).targets "crate::graph" ≠
        (ofTrees (Tree.uncommentedAll trees)).targets "crate::graph" ∧
      let group := Tree.node .useGroup (Tree.groupPieces front before [comment] after members)
      Tree.ofText? "use a::/* c */\x7bb\x7d;" = some (.node .source
        (.node .statement [.node .useDeclaration [keyword, group, semicolon]] :: rest)) ∧
      UseTree.pathsOfAll "" (UseTree.ofTree group) = ["/*c*/::b"] := by
  obtain ⟨trees, htext, htidy, hadded⟩ : ∃ trees,
      Tree.ofText? "use super::\x7bx /* b */ as y, /* c */ z\x7d;" = some (.node .source trees) ∧
      Tree.areTidy trees = true ∧ (ofTrees trees).commentTargets "crate::graph" = ["crate::/*c*/"] :=
    ⟨_, rfl, by decide +kernel, by decide +kernel⟩
  obtain ⟨hlists, hfronts⟩ := comments_only_add "crate::graph"
  obtain ⟨-, hperm, heq⟩ := hlists trees htidy
  rw [hadded] at hperm heq
  refine ⟨trees, _, [_, _], [], _, _, _, _, _, htext, htidy, hperm, by simp [heq], rfl, ?_⟩
  refine (hfronts _ _ [_, _] [] _ "a" "/*c*/" ?_ ?_ ?_ ?_ ?_ "").2.trans ?_
  all_goals decide +kernel

/-- **Comments are named.** A comment in a list is read as a member of it, also one at the end of a line, and
one in which a replacement character is written. A comment behind the path in front of a list hides this
path, and one inside a path becomes a part of its text. Without the comments, each declaration names one
path. -/
theorem comment_is_named :
    let targets := fun text => (SourceFile.ofText? text).toOption.map (·.targets "crate")
    targets "use a::\x7bb\x7d;" = some ["a::b"] ∧
    targets "use a::\x7b/* c */ b\x7d;" = some ["a::/*c*/", "a::b"] ∧
    targets "use a::\x7b/* \uFFFD */ b\x7d;" = some ["a::/*\uFFFD*/", "a::b"] ∧
    targets "use a::\x7bb // c\n\x7d;" = some ["a::b", "a:://c"] ∧
    targets "use a::/* c */\x7bb\x7d;" = some ["/*c*/::b"] ∧
    targets "use a::b;" = some ["a::b"] ∧
    targets "use a::/* c */b;" = some ["a::/*c*/b"] := by
  decide +kernel

/-! ## Stray bytes -/

/-- The glyphs of the bytes of a text are its characters. None of them stands for a stray byte, also where
the text has replacement characters. -/
lemma glyphs_toUTF8 (text : String) : Text.glyphs text.toUTF8 = Text.glyphsOf text := by
  have hvalid : text.toUTF8.IsValidUTF8 := text.isValidUTF8
  have hdecode : Text.decode? text.toUTF8 = some text := by
    rw [Text.decode?, String.fromUTF8?, dif_pos hvalid]
    rfl
  rw [Text.glyphs, hdecode]

/-- **A file that is UTF-8 is read like its text.** -/
theorem ofBytes?_toUTF8 (text : String) : ofBytes? text.toUTF8 = ofText? text := by
  rw [ofBytes?, glyphs_toUTF8, ofText?, Token.ofText]

/-- A comment with a stray byte in it has no text, so it is passed over. -/
example :
    let contents := "use a::\x7b/* ".toUTF8 ++ ⟨#[0xFF]⟩ ++ " */ b\x7d;".toUTF8
    (ofBytes? contents).toOption.map (·.targets "crate") = some ["a::b"] := by
  decide +kernel

end SourceFile

end DepAtlas.Source
