import DepAtlas.Proofs.Source.Reading
import DepAtlas.Proofs.Source.UseTree

set_option relaxedAutoImplicit false
set_option autoImplicit false

/-!
# Modules inside of files

A file is one module. A module with a name and braces inside of it is read, and the use declarations in it
count, but a path that leads up leads up from the module of the file, however many modules stand around its
declaration.

## Main definitions

* `DepAtlas.Source.Item` — use declarations, and modules around them.
* `DepAtlas.Source.IsFile` — the tokens of a file that is made of these.
* `DepAtlas.Source.InModules` — a tree that stands inside of modules among other trees.

## Main results

* `DepAtlas.Source.Spells.finds` — items are read.
* `DepAtlas.Source.IsFile.targets_eq` — what a file of items depends on.
* `DepAtlas.Source.SourceFile.super_starts_at_file` — where `super` leads inside of modules.
-/

namespace DepAtlas.Source

/-! ## Items -/

/-- What a file is made of: use declarations of a path, and modules around such. -/
inductive Item where
  | use (path : PlainPath)
  | module (name : String) (items : List Item)

namespace Item

mutual

/-- The paths of all use declarations in an item, in order. -/
def paths : Item → List PlainPath
  | use path => [path]
  | module _ items => pathsOfAll items

/-- The paths of all use declarations in some items. -/
def pathsOfAll : List Item → List PlainPath
  | [] => []
  | item :: rest => item.paths ++ pathsOfAll rest

end

/-- A use declaration inside of modules, the outermost first. -/
def nested (names : List String) (path : PlainPath) : Item :=
  names.foldr (fun name item => module name [item]) (use path)

/-- A path inside of modules is the only one of the item. -/
lemma paths_nested (names : List String) (path : PlainPath) : (nested names path).paths = [path] := by
  induction names with
  | nil => rfl
  | cons name names ih =>
    rw [nested, List.foldr_cons, paths, pathsOfAll, pathsOfAll, List.append_nil]
    exact ih

end Item

/-! ## Tokens of items -/

/-- The tokens of names behind separators. -/
inductive IsTail : List String → List Token → Prop
  | nil : IsTail [] []
  | cons {name : String} {names : List String} {first second token : Token} {tokens : List Token}
      (hscope : IsScope first second) (hname : IsWord name token) (htail : IsTail names tokens) :
      IsTail (name :: names) (first :: second :: token :: tokens)

/-- The tokens of a path that begins with a name. -/
inductive IsPath : List String → List Token → Prop
  | intro {name : String} {names : List String} {token : Token} {tokens : List Token}
      (hname : IsWord name token) (htail : IsTail names tokens) :
      IsPath (name :: names) (token :: tokens)

mutual

/-- The tokens of an item. This is the grammar of such files as a relation, and independent of the
reader: it says nothing about the order in which alternatives are tried. -/
inductive Spells : Item → List Token → Prop
  | use {path : PlainPath} {keyword semicolon : Token} {tokens : List Token}
      (hkeyword : IsWord "use" keyword) (hlocal : path.isGlobal = false)
      (hpath : IsPath path.names tokens) (hsemicolon : IsMark ';' semicolon) :
      Spells (.use path) (keyword :: (tokens ++ [semicolon]))
  | module {name : String} {items : List Item} {keyword word opening closing : Token}
      {tokens : List Token} (hkeyword : IsWord "mod" keyword) (hname : IsWord name word)
      (hopening : IsMark '\x7b' opening) (hitems : AllSpell items tokens)
      (hclosing : IsMark '\x7d' closing) :
      Spells (.module name items) (keyword :: word :: opening :: (tokens ++ [closing]))

/-- The tokens of some items. -/
inductive AllSpell : List Item → List Token → Prop
  | nil : AllSpell [] []
  | cons {item : Item} {items : List Item} {tokens more : List Token} (hitem : Spells item tokens)
      (hitems : AllSpell items more) : AllSpell (item :: items) (tokens ++ more)

end

/-- The tokens of a whole file. -/
inductive IsFile (items : List Item) : List Token → Prop
  | intro {tokens : List Token} {finish : Token} (hitems : AllSpell items tokens)
      (hfinish : finish.kind = .finish) (htext : finish.text = "") :
      IsFile items (tokens ++ [finish])

/-! ## Reading paths -/

variable {names : List String} {tokens rest : List Token} {stop : Token}

/-- No path goes on with a semicolon. -/
lemma finds_scope_of_semicolon (hstop : IsMark ';' stop) :
    Finds 1 .scope (stop :: rest) none :=
  .of_outlook (by decide) (by decide) hstop.1 hstop.2

/-- The names behind separators are read up to a semicolon.

**Proof sketch.** Induction along the names. Each separator takes two tokens and each name one, so
reading moves on; at the semicolon no separator fits, and repetition ends. -/
lemma IsTail.finds_many (h : IsTail names tokens) (hstop : IsMark ';' stop)
    (hnumbers : AreNumbered (tokens ++ stop :: rest)) :
    Finds (names.length + 4) (.many (.all [.scope, .anyName])) (tokens ++ stop :: rest)
      (some (tokens.map .leaf, stop :: rest)) := by
  induction h with
  | nil => exact (Finds.many_none (.all_cons_none (finds_scope_of_semicolon hstop))).mono (by omega)
  | @cons name names first second token tokens hscope hname _ ih =>
    have hsplit : first :: second :: token :: tokens ++ stop :: rest =
        [first, second, token] ++ (tokens ++ stop :: rest) := rfl
    rw [hsplit] at hnumbers ⊢
    have honce : Finds 4 (.all [.scope, .anyName]) ([first, second, token] ++ (tokens ++ stop :: rest))
        (some ([.leaf first, .leaf second, .leaf token], tokens ++ stop :: rest)) :=
      (Finds.all_cons (.scope hscope hname) (.all_last (.anyName hname))).mono (by decide)
    have hmoved := hasMoved_append (by simp) (by simp) hnumbers
    exact (Finds.many_cons honce hmoved (ih hnumbers.of_append)).mono (by simp)

/-- A path is read up to a semicolon: its first name, and then names behind separators, as many as
there are. -/
lemma IsPath.finds_modulePath (h : IsPath names tokens) (hstop : IsMark ';' stop)
    (hnumbers : AreNumbered (tokens ++ stop :: rest)) :
    Finds (names.length + 8) (.rule .modulePath) (tokens ++ stop :: rest)
      (some (tokens.map .leaf, stop :: rest)) := by
  cases h with
  | @intro name names token tokens hname htail =>
    have hnumbers : AreNumbered ([token] ++ (tokens ++ stop :: rest)) := hnumbers
    have hfirst : Finds 2 (.any [.anyName, .token .metavariable, .all [.scope, .anyName]])
        (token :: (tokens ++ stop :: rest)) (some ([.leaf token], tokens ++ stop :: rest)) :=
      .any_cons (.anyName hname)
    have hall := Finds.all_cons hfirst (.all_last (htail.finds_many hstop hnumbers.of_append))
    exact (Finds.hidden rfl hall).mono (by simp)

/-- A word is no comment as a tree, either. -/
lemma IsWord.not_comment {text : String} {token : Token} (h : IsWord text token) :
    (Tree.leaf token).isComment = false :=
  beq_eq_false_iff_ne.2 h.ne_comment

/-- A path without anything behind it is read as a node. -/
lemma IsPath.finds_usePath (h : IsPath names tokens) (hstop : IsMark ';' stop)
    (hnumbers : AreNumbered (tokens ++ stop :: rest)) :
    Finds (names.length + 10) (.rule .usePath) (tokens ++ stop :: rest)
      (some ([.node .usePath (tokens.map .leaf)], stop :: rest)) := by
  have hpath := h.finds_modulePath hstop hnumbers
  cases h with
  | @intro name names token tokens hname _ =>
    exact (Finds.node rfl hname.not_comment hpath).mono (by omega)

/-- A path and a semicolon are no longer argument, so the clause is the path.

**Proof sketch.** The alternatives in front of a path are renamings, globs and lists. Each of them
begins with a path and needs something else behind it, where the semicolon stands. -/
lemma IsPath.finds_useClause (h : IsPath names tokens) (hstop : IsMark ';' stop)
    (hnumbers : AreNumbered (tokens ++ stop :: rest)) :
    Finds (names.length + 24) (.rule .useClause) (tokens ++ stop :: rest)
      (some ([.node .usePath (tokens.map .leaf)], stop :: rest)) := by
  have hmodulePath := h.finds_modulePath hstop hnumbers
  have husePath := h.finds_usePath hstop hnumbers
  have hscope := @finds_scope_of_semicolon rest stop hstop
  have hmark : ∀ {c : Char}, Finds 1 (.mark c) (tokens ++ stop :: rest) none := by
    cases h with
    | intro hname _ => exact .of_outlook (by decide) rfl hname.1 hname.2
  -- All clauses but a list may begin with a path; they are given up at the semicolon behind it.
  have hglob : Finds (names.length + 16) (.rule .useGlob) (tokens ++ stop :: rest) none := by
    have hfront : Finds (names.length + 12) (.maybe (.all [.maybe (.rule .modulePath), .scope]))
        (tokens ++ stop :: rest) (some ([], tokens ++ stop :: rest)) :=
      (Finds.maybe_none (.all_cons (.any_cons hmodulePath) (.all_cons_none hscope))).mono (by omega)
    exact (Finds.rule .useGlob (.all_cons hfront (.all_cons_none hmark))).mono (by omega)
  have hgroup : Finds (names.length + 16) (.rule .useGroup) (tokens ++ stop :: rest) none := by
    exact (Finds.rule .useGroup (.all_cons (.any_cons husePath) (.all_cons_none hscope))).mono (by omega)
  have hrenamed : Finds (names.length + 16) (.rule .useRenamed) (tokens ++ stop :: rest) none := by
    have has : Finds 1 (.keyword "as") (stop :: rest) none :=
      .of_outlook (by decide) (by decide) hstop.1 hstop.2
    exact (Finds.rule .useRenamed (.all_cons husePath (.all_cons_none has))).mono (by omega)
  have hlist : Finds 16 (.rule .useList) (tokens ++ stop :: rest) none :=
    (Finds.rule .useList (.all_cons_none hmark)).mono (by decide)
  exact (Finds.hidden rfl (.any_cons_none hglob (.any_cons_none hgroup (.any_cons_none hrenamed
    (.any_cons_none hlist (.any_cons husePath)))))).mono (by omega)

/-! ## Reading items -/

/-- A path is known by the text of its tokens.

**Proof sketch.** Induction along the names. The text of a tree leaves gaps out, and names have
none. -/
lemma IsPath.textOfAll (h : IsPath names tokens) (hnames : ∀ name ∈ names, IsName name) :
    Tree.textOfAll (tokens.map .leaf) = (Name.join names Name.defaultSeparator).toList := by
  rw [UsePath.toList_join_eq_spelled]
  have hword : ∀ {name : String} {token : Token}, IsName name → IsWord name token →
      (Tree.leaf token).text = name.toList := by
    intro name token hname hword
    rw [Tree.text, hword.2]
    exact List.filter_eq_self.2 fun c hc => by simp [(hname.2 c hc).2.2.2]
  have hcolon : ∀ {token : Token}, IsMark ':' token → (Tree.leaf token).text = [':'] := by
    intro token htoken
    rw [Tree.text, htoken.2]
    decide
  cases h with
  | @intro name names token tokens hname htail =>
    induction htail generalizing name token with
    | nil =>
      rw [List.map_cons, Tree.textOfAll, hword (hnames name List.mem_cons_self) hname]
      exact List.append_nil _
    | @cons next names first second word tokens hscope hnext _ ih =>
      have hrest := ih hnext fun name hmem => hnames name (List.mem_cons_of_mem _ hmem)
      rw [List.map_cons, List.map_cons, List.map_cons, Tree.textOfAll, Tree.textOfAll, Tree.textOfAll,
        hword (hnames name List.mem_cons_self) hname, hcolon hscope.1, hcolon hscope.2.1, hrest,
        UsePath.spelled_cons (List.cons_ne_nil _ _)]
      rfl

/-- What the use declarations of some paths name. -/
def namedBy (paths : List PlainPath) : List UseTree :=
  paths.map fun path => .path path.text

/-- The tree of a use declaration of a path. -/
def Tree.usePath (keyword : Token) (path : List Token) (semicolon : Token) : Tree :=
  .useDeclaration [keyword] (.node .usePath (path.map leaf)) [semicolon]

/-- A use declaration of a path names the path, below the module that the file is. -/
lemma usesOfAll_usePath {path : PlainPath} (hlocal : path.isGlobal = false)
    (h : IsPath path.names tokens) (keyword semicolon : Token) :
    Tree.usesOfAll [.usePath keyword tokens semicolon] = namedBy [path] := by
  have htext : Tree.textOfAll (tokens.map .leaf) = path.text.toList := by
    rw [PlainPath.text, PlainPath.pieces, hlocal, if_neg Bool.false_ne_true]
    exact h.textOfAll path.isName
  have hshown : (Tree.node .usePath (tokens.map .leaf)).shown? = some path.text :=
    shown?_eq_some htext path.replacement_not_mem
  rw [Tree.usesOfAll, Tree.usesOfAll, Tree.usePath, uses_useDeclaration (.path htext), UseTree.ofTree,
    hshown]
  rfl

/-- No item begins with a visibility here. -/
lemma finds_visibility {text : String} {token : Token} (hword : IsWord text token)
    (h : Form.outlook .word text 8 (.rule .visibility) = .fails) :
    Finds 9 (.maybe (.rule .visibility)) (token :: rest) (some ([], token :: rest)) :=
  Finds.maybe_none (.of_outlook (by decide) h hword.1 hword.2)

/-- A use declaration of a path is read.

**Proof sketch.** The alternatives in front of use declarations begin with other words, so they are
passed over, and the parts of the declaration are read one after the other. -/
lemma IsPath.finds_declaration (h : IsPath names tokens) {keyword semicolon : Token}
    (hkeyword : IsWord "use" keyword) (hsemicolon : IsMark ';' semicolon)
    (hnumbers : AreNumbered (keyword :: (tokens ++ semicolon :: rest))) :
    Finds (names.length + 40) (.rule .declaration) (keyword :: (tokens ++ semicolon :: rest))
      (some ([.usePath keyword tokens semicolon], rest)) := by
  have hclause := h.finds_useClause hsemicolon (@AreNumbered.of_append [keyword] _ hnumbers)
  have hall : Finds (names.length + 30) Rule.useDeclaration.form
      (keyword :: (tokens ++ semicolon :: rest))
      (some ([.leaf keyword, .node .usePath (tokens.map .leaf), .leaf semicolon], rest)) :=
    (Finds.all_cons (finds_visibility hkeyword (by decide)) (.all_cons (.keyword hkeyword)
      (.all_cons hclause (.all_last (.mark hsemicolon))))).mono (by omega)
  have huse : Finds (names.length + 31) (.rule .useDeclaration) (keyword :: (tokens ++ semicolon :: rest))
      (some ([.usePath keyword tokens semicolon], rest)) :=
    .node rfl hkeyword.not_comment hall
  -- The two alternatives in front begin with marks.
  have hany : Finds (names.length + 39) Rule.declaration.form (keyword :: (tokens ++ semicolon :: rest))
      (some ([.usePath keyword tokens semicolon], rest)) :=
    (@Finds.any_drop 20 _ _ _ _ _ _ _ (by decide) 2 (by decide +kernel) hkeyword.1 hkeyword.2
      (.any_cons huse)).mono (by omega)
  exact .hidden rfl hany

/-- A module in a file is read if what stands in its braces is. The fuel for its contents is all
that depends on them. -/
lemma finds_moduleItem {name : String} {keyword word opening closing : Token} {trees : List Tree}
    {fuel : ℕ} (hkeyword : IsWord "mod" keyword) (hname : IsWord name word)
    (hopening : IsMark '\x7b' opening) (hclosing : IsMark '\x7d' closing)
    (hmany : Finds fuel (.many (.any [.rule .declaration, .rule .macroCall]))
      (tokens ++ closing :: rest) (some (trees, closing :: rest))) :
    Finds (fuel + 60) (.rule .declaration)
      (keyword :: word :: opening :: (tokens ++ closing :: rest))
      (some (.leaf keyword :: .leaf word :: .leaf opening :: (trees ++ [.leaf closing]), rest)) := by
  have hsemicolon : Finds 1 (.mark ';') (opening :: (tokens ++ closing :: rest)) none :=
    .of_outlook (by decide) (by decide) hopening.1 hopening.2
  have hbraces : Finds (fuel + 10) (.rule .declarations) (opening :: (tokens ++ closing :: rest))
      (some (.leaf opening :: (trees ++ [.leaf closing]), rest)) :=
    (Finds.hidden rfl (.all_cons (.mark hopening) (.all_cons hmany (.all_last (.mark hclosing))))).mono
      (by omega)
  have hitem : Finds (fuel + 30) (.rule .moduleItem)
      (keyword :: word :: opening :: (tokens ++ closing :: rest))
      (some (.leaf keyword :: .leaf word :: .leaf opening :: (trees ++ [.leaf closing]), rest)) :=
    (Finds.hidden rfl (.all_cons (finds_visibility hkeyword (by decide)) (.all_cons (.keyword hkeyword)
      (.all_cons (.anyName hname) (.all_last (.any_cons_none hsemicolon (.any_cons hbraces))))))).mono
      (by omega)
  -- All eleven alternatives in front begin with other keywords or with marks.
  have hany : Finds (fuel + 59) Rule.declaration.form
      (keyword :: word :: opening :: (tokens ++ closing :: rest))
      (some (.leaf keyword :: .leaf word :: .leaf opening :: (trees ++ [.leaf closing]), rest)) :=
    (@Finds.any_drop 20 _ _ _ _ _ _ _ (by decide) 11 (by decide +kernel) hkeyword.1 hkeyword.2
      (.any_cons hitem)).mono (by omega)
  exact .hidden rfl hany

/-- A path has a token for each of its names at least. -/
lemma IsPath.length_le (h : IsPath names tokens) : names.length ≤ tokens.length := by
  cases h with
  | intro _ htail =>
    rw [List.length_cons, List.length_cons]
    refine Nat.succ_le_succ ?_
    induction htail with
    | nil => exact Nat.le_refl _
    | cons _ _ _ ih =>
      simp only [List.length_cons]
      omega

/-- A form that reads declarations, and finds the same use declarations in them. At the top of a
file there are statements, and inside of modules there are declarations; what is proved about items
holds for both. -/
def ReadsDeclarations (g : Form) : Prop :=
  ∀ {fuel : ℕ} {tokens rest : List Token} {trees : List Tree},
    Finds fuel (.rule .declaration) tokens (some (trees, rest)) →
    ∃ trees', Finds (fuel + 5) g tokens (some (trees', rest)) ∧
      Tree.usesOfAll trees' = Tree.usesOfAll trees

/-- Alternatives that begin with declarations read them. -/
lemma readsDeclarations_any (fs : List Form) : ReadsDeclarations (.any (.rule .declaration :: fs)) :=
  fun h => ⟨_, (Finds.any_cons h).mono (by omega), rfl⟩

/-- An item has tokens. -/
lemma Spells.ne_nil {item : Item} (h : Spells item tokens) : tokens ≠ [] := by
  cases h <;> exact List.cons_ne_nil _ _

/-- No item begins with a closing brace. -/
lemma finds_item_of_closing {closing : Token} (h : IsMark '\x7d' closing) :
    Finds 40 (.any [.rule .declaration, .rule .macroCall]) (closing :: rest) none :=
  .of_outlook (by decide) (by decide +kernel) h.1 h.2

/-- Paths one after the other are named one after the other. -/
lemma namedBy_append (xs ys : List PlainPath) : namedBy (xs ++ ys) = namedBy xs ++ namedBy ys :=
  List.map_append

mutual

/-- **Items are read**, and the use declarations in them name their paths.

**Proof sketch.** Induction on the item. In a module, its items are read one after the other up to the
closing brace, which begins no item. -/
theorem Spells.finds : ∀ {item : Item} {tokens rest : List Token}, Spells item tokens →
    AreNumbered (tokens ++ rest) →
    ∃ trees, Finds (60 * tokens.length) (.rule .declaration) (tokens ++ rest) (some (trees, rest)) ∧
      Tree.usesOfAll trees = namedBy item.paths
  | _, _, rest, @Spells.use path keyword semicolon tokens hkeyword hlocal hpath hsemicolon, hnumbers => by
    rw [List.cons_append, List.append_assoc] at hnumbers ⊢
    have hlength := hpath.length_le
    refine ⟨_, (hpath.finds_declaration hkeyword hsemicolon hnumbers).mono ?_,
      usesOfAll_usePath hlocal hpath keyword semicolon⟩
    simp only [List.length_cons, List.length_append]
    omega
  | _, _, rest, @Spells.module name items keyword word opening closing tokens hkeyword hname hopening
      hitems hclosing, hnumbers => by
    rw [List.cons_append, List.cons_append, List.cons_append, List.append_assoc] at hnumbers ⊢
    obtain ⟨trees, hfinds, huses⟩ := hitems.finds (readsDeclarations_any _) (List.cons_ne_nil _ _)
      (finds_item_of_closing hclosing) (@AreNumbered.of_append [keyword, word, opening] _ hnumbers)
    refine ⟨_, (finds_moduleItem hkeyword hname hopening hclosing hfinds).mono ?_, ?_⟩
    · simp only [List.length_cons, List.length_append]
      omega
    · rw [Item.paths, ← huses]
      simp [Tree.usesOfAll, Tree.uses, usesOfAll_append]

/-- The same for items one after the other, up to something that is no item. The two statements are
proved together, since a module has items in it. -/
theorem AllSpell.finds : ∀ {items : List Item} {tokens rest : List Token} {g : Form},
    AllSpell items tokens → ReadsDeclarations g → rest ≠ [] → Finds 40 g rest none →
    AreNumbered (tokens ++ rest) →
    ∃ trees, Finds (60 * tokens.length + 60) (.many g) (tokens ++ rest) (some (trees, rest)) ∧
      Tree.usesOfAll trees = namedBy (Item.pathsOfAll items)
  | _, _, rest, g, .nil, _, _, hstop, _ =>
    ⟨[], (Finds.many_none hstop).mono (by omega), rfl⟩
  | _, _, rest, g, @AllSpell.cons item items tokens more hitem hitems, hg, hrest, hstop, hnumbers => by
    rw [List.append_assoc] at hnumbers ⊢
    obtain ⟨trees, hfinds, huses⟩ := hitem.finds hnumbers
    obtain ⟨trees, hfinds, hsame⟩ := hg hfinds
    obtain ⟨others, hmany, hothers⟩ := hitems.finds hg hrest hstop hnumbers.of_append
    have hmoved := hasMoved_append hitem.ne_nil (by simp [hrest]) hnumbers
    have hpos := List.length_pos_iff.2 hitem.ne_nil
    refine ⟨trees ++ others, (Finds.many_cons hfinds hmoved hmany).mono ?_, ?_⟩
    · simp only [List.length_append]
      omega
    · rw [usesOfAll_append, hsame, huses, hothers, Item.pathsOfAll, namedBy_append]

end

/-! ## Reading files -/

/-- A statement names what its pieces name. -/
lemma usesOfAll_gather_statement (trees : List Tree) :
    Tree.usesOfAll (Tree.gather .statement trees) = Tree.usesOfAll trees := by
  have hgather : Tree.gather .statement trees = trees.takeWhile Tree.isComment ++
      [.node .statement (trees.dropWhile Tree.isComment)] := by
    rw [Tree.gather, if_pos (by decide), List.span_eq_takeWhile_dropWhile]
  rw [hgather, usesOfAll_append, Tree.usesOfAll, Tree.usesOfAll, List.append_nil,
    uses_node (by decide), ← usesOfAll_append, List.takeWhile_append_dropWhile]

/-- Statements read declarations. -/
lemma readsDeclarations_statement : ReadsDeclarations (.rule .statement) := by
  intro fuel tokens rest trees h
  have hform : Finds (fuel + 1) Rule.statement.form tokens (some (trees, rest)) := .any_cons h
  exact ⟨_, (Finds.rule .statement hform).mono (by omega), usesOfAll_gather_statement trees⟩

/-- **A file of items is read**, and has the use trees of its items.

**Proof sketch.** The tokens of a text are numbered, so reading the items moves on, and all of them
are read up to the end of the text. The fuel grows with the number of the tokens, and no item needs
more than its own tokens allow. -/
theorem IsFile.ofText?_eq {items : List Item} {text : String} (h : IsFile items (Token.ofText text)) :
    ∃ f, SourceFile.ofText? text = .ok f ∧ f.uses = namedBy (Item.pathsOfAll items) := by
  have hnumbers := areNumbered_ofText text
  unfold SourceFile.ofText? SourceFile.ofTokens? readSource readingFuel
  generalize Token.ofText text = tokens at h hnumbers
  cases h with
  | @intro tokens finish hitems hfinish htext =>
    have hstop : Finds 40 (.rule .statement) [finish] none :=
      .of_outlook (by decide) (by decide +kernel) hfinish htext
    obtain ⟨trees, hmany, huses⟩ := hitems.finds readsDeclarations_statement (List.cons_ne_nil _ _) hstop
      hnumbers
    have hsource : Finds (100 * ((tokens ++ [finish]).length + 1)) (.rule .source) (tokens ++ [finish])
        (some (trees ++ [.leaf finish], [])) :=
      (Finds.hidden rfl (.all_cons hmany (.all_last (.ofKind hfinish (by decide))))).mono
        (by simp only [List.length_append, List.length_singleton]; omega)
    simp only [hsource _ (Nat.le_refl _)]
    refine ⟨_, rfl, ?_⟩
    rw [SourceFile.ofTrees]
    simp [usesOfAll_append, huses, Tree.usesOfAll, Tree.uses]

/-! ## What files depend on -/

open UsePath

variable {module : String}

/-- Each path names what its names stand for.

**Proof sketch.** A path stands below the empty one, and resolving it there gives what its names
stand for. -/
lemma targets_namedBy (hmodule : module ≠ "") (items : List Entity) (paths : List PlainPath) :
    SourceFile.targets ⟨items, namedBy paths⟩ module =
      paths.filterMap fun path => meaning? module path.pieces := by
  have hpaths : UseTree.pathsOfAll "" (namedBy paths) = paths.map fun path => below "" path.text := by
    induction paths with
    | nil => rfl
    | cons path paths ih =>
      rw [namedBy, List.map_cons, UseTree.pathsOfAll, UseTree.paths]
      exact congrArg _ ih
  have hresolve : ∀ path : PlainPath, resolve? module (below "" path.text) =
      meaning? module path.pieces := by
    intro path
    have hnil : Name.join [] Name.defaultSeparator = "" := rfl
    have hbelow := IsAbove.nil.resolve?_below hmodule path
    rwa [hnil, List.nil_append] at hbelow
  rw [SourceFile.targets, hpaths, List.filterMap_map]
  refine List.filterMap_congr fun path _ => ?_
  rw [Function.comp_apply, hresolve]

/-- **A file depends on what the paths in it stand for in its own module**, in order, whatever modules
stand around their declarations. -/
theorem IsFile.targets_eq {items : List Item} {text : String} (h : IsFile items (Token.ofText text))
    (hmodule : module ≠ "") : ∃ f, SourceFile.ofText? text = .ok f ∧
      f.targets module =
        (Item.pathsOfAll items).filterMap fun path => meaning? module path.pieces := by
  obtain ⟨f, hf, huses⟩ := h.ofText?_eq
  have htargets := targets_namedBy hmodule f.items (Item.pathsOfAll items)
  rw [← huses] at htargets
  exact ⟨f, hf, htargets⟩

/-! ## Paths that lead up -/

/-- A path some levels up: behind that many `super`. -/
def PlainPath.up (level : ℕ) (path : PlainPath) : PlainPath where
  isGlobal := false
  names := List.replicate level "super" ++ path.names
  names_ne_nil := by simp [path.names_ne_nil]
  isName name hname := by
    rcases List.mem_append.1 hname with hsuper | hpath
    · rw [List.eq_of_mem_replicate hsuper]
      decide
    · exact path.isName name hpath

/-- A path some levels up names what lies below the namespace that many levels around the module.

**Proof sketch.** The pieces of such a path are steps upwards and then its names, none of which is a
step. The steps are taken one by one. -/
lemma meaning?_up {level : ℕ} (hlevel : 0 < level) {path : PlainPath}
    (hordinary : ∀ name ∈ path.names, isStep name = false) :
    meaning? module (path.up level).pieces =
      (Name.ancestor? Name.defaultSeparator module level).map fun around =>
        Name.join (around :: path.names) Name.defaultSeparator := by
  have hpieces : (path.up level).pieces = List.replicate level "super" ++ path.names := rfl
  have hself : withoutSelf (path.up level).pieces = (path.up level).pieces := by
    obtain ⟨front, last, hlast⟩ := (List.eq_nil_or_concat' path.names).resolve_left path.names_ne_nil
    have hne : last ≠ "self" := by
      have hstep := hordinary last (by simp [hlast])
      rintro rfl
      exact absurd hstep (by decide)
    rw [withoutSelf, if_neg]
    rw [hpieces, hlast, ← List.append_assoc, List.getLast?_concat]
    simp [hne]
  have hfirst : path.names.takeWhile isStep = [] ∧ path.names.dropWhile isStep = path.names := by
    obtain ⟨name, rest, hcons⟩ := List.exists_cons_of_ne_nil path.names_ne_nil
    have hstep : ¬ isStep name = true := by simp [hordinary name (by simp [hcons])]
    rw [hcons]
    exact ⟨List.takeWhile_cons_of_neg hstep, List.dropWhile_cons_of_neg hstep⟩
  have hsupers : ∀ name ∈ List.replicate level "super", isStep name = true :=
    fun name hname => by rw [List.eq_of_mem_replicate hname]; rfl
  have hsteps : steps (path.up level).pieces = List.replicate level "super" := by
    rw [steps, hself, hpieces, List.takeWhile_append_of_pos hsupers, hfirst.1, List.append_nil]
  have hremainder : remainder (path.up level).pieces = path.names := by
    have hsolid : path.names ≠ [""] := fun heq => (path.isName "" (by simp [heq])).1 rfl
    rw [remainder, hself, hpieces, List.dropWhile_append_of_pos hsupers, hfirst.2, solid, if_neg hsolid]
  rw [meaning?, hsteps, hremainder, if_neg (by simp; omega), List.count_replicate_self]

/-! ## Declarations inside of modules -/

/-- A tree that stands inside of modules with these names among some trees, the outermost first.
Anything may stand around the modules and around the tree. -/
inductive InModules (tree : Tree) : List String → List Tree → Prop
  | here {trees : List Tree} (hmem : tree ∈ trees) : InModules tree [] trees
  | inside {name : String} {names : List String} {keyword word opening closing : Token}
      {before behindKeyword behindName inner after : List Tree} (hkeyword : IsWord "mod" keyword)
      (hname : IsWord name word) (hopening : IsMark '\x7b' opening) (hclosing : IsMark '\x7d' closing)
      (hcomments : ∀ comment ∈ behindKeyword ++ behindName, comment.isComment = true)
      (hinner : InModules tree names inner) :
      InModules tree (name :: names) (before ++ .leaf keyword :: (behindKeyword ++ .leaf word ::
        (behindName ++ .leaf opening :: (inner ++ .leaf closing :: after))))

/-- What a tree inside of modules names is among what all the trees name. -/
lemma InModules.usesOfAll_eq {tree : Tree} {trees : List Tree} (h : InModules tree names trees) :
    ∃ front back, Tree.usesOfAll trees = front ++ tree.uses ++ back := by
  induction h with
  | here hmem =>
    obtain ⟨before, after, rfl⟩ := List.append_of_mem hmem
    exact ⟨_, _, by rw [usesOfAll_append, Tree.usesOfAll, List.append_assoc]⟩
  | @inside _ _ keyword word opening closing before behindKeyword behindName inner after _ _ _ _ _ _ ih =>
    obtain ⟨front, back, huses⟩ := ih
    refine ⟨Tree.usesOfAll before ++ (Tree.usesOfAll behindKeyword ++
      (Tree.usesOfAll behindName ++ front)), back ++ Tree.usesOfAll after, ?_⟩
    simp [usesOfAll_append, Tree.usesOfAll, Tree.uses, huses]

/-- The path of a declaration inside of modules is among what the file names.

**Proof sketch.** Use declarations are collected from all trees in order, whatever nodes stand
around them. -/
lemma InModules.uses_ofTrees {path : PlainPath} {argument : Tree} {before after : List Token}
    {children trees : List Tree} (h : InModules (.useDeclaration before argument after) names children)
    (hmem : .node .statement children ∈ trees) (hshows : Shows argument (.path path)) :
    ∃ front back, (SourceFile.ofTrees trees).uses = front ++ namedBy [path] ++ back := by
  obtain ⟨above, below, houter⟩ := (InModules.here hmem).usesOfAll_eq
  obtain ⟨front, back, hinner⟩ := h.usesOfAll_eq
  have hpath : UseTree.ofTree argument = namedBy [path] := by
    cases hshows with
    | @path pieces _ hpieces =>
      have hshown : (Tree.node .usePath pieces).shown? = some path.text :=
        shown?_eq_some hpieces path.replacement_not_mem
      rw [UseTree.ofTree, hshown]
      rfl
  refine ⟨above ++ front, back ++ below, ?_⟩
  rw [SourceFile.ofTrees, houter, uses_node (by decide), hinner, uses_useDeclaration hshows, hpath]
  simp

/-- What some trees name among others is among their targets. -/
lemma targets_append (items : List Entity) (xs ys : List UseTree) :
    SourceFile.targets ⟨items, xs ++ ys⟩ module =
      SourceFile.targets ⟨[], xs⟩ module ++ SourceFile.targets ⟨[], ys⟩ module := by
  rw [SourceFile.targets, SourceFile.targets, SourceFile.targets, pathsOfAll_append,
    List.filterMap_append]

/-- The tree of a text is what the text is read as. -/
lemma ofText?_of_tree {text : String} {trees : List Tree}
    (h : Tree.ofText? text = some (.node .source trees)) :
    SourceFile.ofText? text = .ok (.ofTrees trees) := by
  obtain ⟨⟨found, rest⟩, hfound, hnode⟩ := Option.map_eq_some_iff.1 h
  obtain rfl : found = trees := by simpa using hnode
  unfold SourceFile.ofText? SourceFile.ofTokens?
  simp only [hfound]

/-- The names below a module that is made of names are names behind these. -/
lemma join_join_cons {around path : List String} (haround : around ≠ []) (hsolid : around ≠ [""])
    (hpath : path ≠ []) :
    Name.join (Name.join around Name.defaultSeparator :: path) Name.defaultSeparator =
      Name.join (around ++ path) Name.defaultSeparator := by
  have hsome : Name.join around Name.defaultSeparator ≠ "" :=
    mt (Name.join_eq_empty_iff (by decide)).1 (not_or.2 ⟨haround, hsolid⟩)
  rw [← below_join_append hsolid hpath, ← List.singleton_append,
    ← below_join_append (by simpa using hsome) hpath, Name.join_singleton]

/-- What lies below a namespace around a module that is made of segments. The namespace has the
first segments of the module, and there is none if no segment would be left. -/
lemma map_join_ancestor?_join {segs path : List String} {level : ℕ} (hne : segs ≠ [])
    (hsegs : ∀ segment ∈ segs, Name.IsSegment Name.defaultSeparator segment) (hpath : path ≠ []) :
    ((Name.ancestor? Name.defaultSeparator (Name.join segs Name.defaultSeparator) level).map
      fun around => Name.join (around :: path) Name.defaultSeparator) =
        if level < segs.length then
          some (Name.join (segs.take (segs.length - level) ++ path) Name.defaultSeparator)
        else none := by
  rw [Name.ancestor?_join (by decide) hne hsegs]
  split
  · next hshort =>
    have htake : segs.take (segs.length - level) ≠ [] := by
      simp only [ne_eq, List.take_eq_nil_iff, not_or]
      exact ⟨by omega, hne⟩
    have hsolid : segs.take (segs.length - level) ≠ [""] := fun heq =>
      (hsegs "" (List.mem_of_mem_take (heq ▸ List.mem_singleton_self ""))).1 rfl
    exact congrArg some (join_join_cons htake hsolid hpath)
  · rfl

namespace SourceFile

/-- **Inside of modules, `super` starts at the module of the file.** A path some levels up names
what lies below the namespace that many levels around the module of the file, or nothing if there is
none, however many modules stand around its declaration. This holds of a file with nothing but the
modules and the declaration, however it is laid out, and of a declaration inside of modules in any
file that can be read.

**Proof sketch.** Use declarations are collected without the modules around them, so each of them is
resolved in the module of the file. For the first kind of files it is also proved that they can be
read, by induction on the modules. -/
theorem super_starts_at_file (names : List String) {level : ℕ} (hlevel : 0 < level) {path : PlainPath}
    (hordinary : ∀ name ∈ path.names, isStep name = false) (hmodule : module ≠ "") :
    let target := (Name.ancestor? Name.defaultSeparator module level).map fun around =>
      Name.join (around :: path.names) Name.defaultSeparator
    (∀ text, IsFile [.nested names (path.up level)] (Token.ofText text) →
      ∃ f, ofText? text = .ok f ∧ f.targets module = target.toList) ∧
    (∀ text trees children before argument after, Tree.ofText? text = some (.node .source trees) →
      .node .statement children ∈ trees → Shows argument (.path (path.up level)) →
      InModules (.useDeclaration before argument after) names children →
      ∃ f front back, ofText? text = .ok f ∧ f.uses = front ++ namedBy [path.up level] ++ back ∧
        f.targets module =
          targets ⟨[], front⟩ module ++ target.toList ++ targets ⟨[], back⟩ module) ∧
    ∀ segs, segs ≠ [] → (∀ segment ∈ segs, Name.IsSegment Name.defaultSeparator segment) →
      module = Name.join segs Name.defaultSeparator →
      target = if level < segs.length then
          some (Name.join (segs.take (segs.length - level) ++ path.names) Name.defaultSeparator)
        else none := by
  intro target
  have hup : targets ⟨[], namedBy [path.up level]⟩ module = target.toList := by
    have htarget : meaning? module (path.up level).pieces = target := meaning?_up hlevel hordinary
    rw [targets_namedBy hmodule, ← htarget]
    cases hmeaning : meaning? module (path.up level).pieces <;> simp [hmeaning]
  refine ⟨fun text hfile => ?_, ?_, fun segs hne hsegs hjoin => ?_⟩
  · obtain ⟨f, hf, htargets⟩ := hfile.targets_eq hmodule
    refine ⟨f, hf, ?_⟩
    rw [htargets, Item.pathsOfAll, Item.pathsOfAll, List.append_nil, Item.paths_nested,
      ← targets_namedBy hmodule [], hup]
  · intro text trees children before argument after htext hmem hshows hinside
    obtain ⟨front, back, huses⟩ := hinside.uses_ofTrees hmem hshows
    refine ⟨ofTrees trees, front, back, ofText?_of_tree htext, huses, ?_⟩
    have hall : targets ⟨(ofTrees trees).items, (ofTrees trees).uses⟩ module =
        targets ⟨[], front⟩ module ++ target.toList ++ targets ⟨[], back⟩ module := by
      rw [huses, targets_append, targets_append, hup]
    exact hall
  · subst hjoin
    exact map_join_ancestor?_join hne hsegs path.names_ne_nil

/-- A declaration inside of two modules, alone in a file and among other things. One level up from
the module of the file is the root, although the declaration is two modules further down. -/
theorem super_inside_of_two_modules :
    let path : PlainPath := ⟨false, ["x"], by decide, by decide⟩
    let alone := "mod b \x7b\n  mod c \x7b use super::x; \x7d\n\x7d\n"
    let among := "struct S; mod /* n */ b \x7b mod c \x7b use z; use super::x; \x7d \x7d"
    0 < 1 ∧ (∀ name ∈ path.names, isStep name = false) ∧ "crate::a" ≠ "" ∧
    IsFile [.nested ["b", "c"] (path.up 1)] (Token.ofText alone) ∧
    (∃ f, ofText? alone = .ok f ∧ f.targets "crate::a" = ["crate::x"]) ∧
    (∃ trees children before argument after, Tree.ofText? among = some (.node .source trees) ∧
      .node .statement children ∈ trees ∧ Shows argument (.path (path.up 1)) ∧
      InModules (.useDeclaration before argument after) ["b", "c"] children) ∧
    (∃ f front back, ofText? among = .ok f ∧
      f.targets "crate::a" =
        targets ⟨[], front⟩ "crate::a" ++ ["crate::x"] ++ targets ⟨[], back⟩ "crate::a") ∧
    Name.ancestor? Name.defaultSeparator "crate::a" 1 = some "crate" := by
  intro path alone among
  have hfile : IsFile [.nested ["b", "c"] (path.up 1)]
      (Token.ofText "mod b \x7b\n  mod c \x7b use super::x; \x7d\n\x7d\n") := by
    obtain ⟨a, b, c, d, e, f, g, h, i, j, k, l, m, n, o, htokens, ha, hb, hc, hd, he, hf, hg, hh, hi,
        hk, hl, hm, hn, ho⟩ : ∃ a b c d e f g h i j k l m n o,
          Token.ofText "mod b \x7b\n  mod c \x7b use super::x; \x7d\n\x7d\n" =
            [a, b, c, d, e, f, g, h, i, j, k, l, m, n, o] ∧
          IsWord "mod" a ∧ IsWord "b" b ∧ IsMark '\x7b' c ∧ IsWord "mod" d ∧ IsWord "c" e ∧
          IsMark '\x7b' f ∧ IsWord "use" g ∧ IsWord "super" h ∧ IsScope i j ∧ IsWord "x" k ∧
          IsMark ';' l ∧ IsMark '\x7d' m ∧ IsMark '\x7d' n ∧ o.kind = .finish ∧ o.text = "" :=
      ⟨_, _, _, _, _, _, _, _, _, _, _, _, _, _, _, rfl, by decide +kernel⟩
    have huse : Spells (.use (path.up 1)) (g :: ([h, i, j, k] ++ [l])) :=
      .use hg rfl (.intro hh (.cons hi hk .nil)) hl
    have hinner : Spells (.module "c" [.use (path.up 1)])
        (d :: e :: f :: (g :: ([h, i, j, k] ++ [l]) ++ [m])) :=
      .module hd he hf (.cons huse .nil) hm
    rw [htokens]
    exact .intro (.cons (.module ha hb hc (.cons hinner .nil) hn) .nil) ho.1 ho.2
  obtain ⟨first, a, note, b, c, d, e, f, other, g, pieces, h, i, j, finish, htree, ha, hb, hc, hd, he, hf,
      hpieces, hi, hj, hnote⟩ : ∃ first a note b c d e f other g pieces h i j finish,
        Tree.ofText? "struct S; mod /* n */ b \x7b mod c \x7b use z; use super::x; \x7d \x7d" =
          some (.node .source [first, .node .statement [.leaf a, .leaf note, .leaf b, .leaf c, .leaf d,
            .leaf e, .leaf f, other, .useDeclaration [g] (.node .usePath pieces) [h], .leaf i, .leaf j],
            finish]) ∧
        IsWord "mod" a ∧ IsWord "b" b ∧ IsMark '\x7b' c ∧ IsWord "mod" d ∧ IsWord "c" e ∧
        IsMark '\x7b' f ∧ Tree.textOfAll pieces = (path.up 1).text.toList ∧ IsMark '\x7d' i ∧
        IsMark '\x7d' j ∧ (Tree.leaf note).isComment = true :=
    ⟨_, _, _, _, _, _, _, _, _, _, _, _, _, _, _, rfl, by decide +kernel⟩
  have hshows : Shows (.node .usePath pieces) (.path (path.up 1)) := .path hpieces
  have hinner : InModules (.useDeclaration [g] (.node .usePath pieces) [h]) ["c"]
      [.leaf d, .leaf e, .leaf f, other, .useDeclaration [g] (.node .usePath pieces) [h], .leaf i] :=
    @InModules.inside _ _ _ _ _ _ _ [] [] [] [other, _] [] hd he hf hi (by simp) (.here (by simp))
  have hinside : InModules (.useDeclaration [g] (.node .usePath pieces) [h]) ["b", "c"]
      [.leaf a, .leaf note, .leaf b, .leaf c, .leaf d, .leaf e, .leaf f, other,
        .useDeclaration [g] (.node .usePath pieces) [h], .leaf i, .leaf j] :=
    @InModules.inside _ _ _ _ _ _ _ [] [.leaf note] [] [_, _, _, _, _, _] [] ha hb hc hj (by simp [hnote])
      hinner
  have hordinary : ∀ name ∈ path.names, isStep name = false := by decide
  have hmodule : "crate::a" ≠ "" := by decide
  obtain ⟨halone, hamong, -⟩ :=
    super_starts_at_file ["b", "c"] Nat.zero_lt_one hordinary hmodule
  obtain ⟨s, hs, htargets⟩ := halone _ hfile
  obtain ⟨t, front, back, ht, -, hall⟩ := hamong _ _ _ _ _ _ htree (.tail _ (.head _)) hshows hinside
  have htarget : ((Name.ancestor? Name.defaultSeparator "crate::a" 1).map fun around =>
      Name.join (around :: path.names) Name.defaultSeparator).toList = ["crate::x"] := by
    decide +kernel
  rw [htarget] at htargets hall
  exact ⟨Nat.zero_lt_one, hordinary, hmodule, hfile, ⟨s, hs, htargets⟩,
    ⟨_, _, _, _, _, htree, .tail _ (.head _), hshows, hinside⟩, ⟨t, front, back, ht, hall⟩,
    by decide +kernel⟩

/-- **Modules around a declaration do not count.** From inside of a module in a file, `super` leads to what
is around the file and not to the file, and from inside of two it leads there too. -/
theorem super_passes_modules :
    let targets := fun text module => (ofText? text).toOption.map (·.targets module)
    targets "mod b \x7b use super::x; \x7d" "crate::a" = some ["crate::x"] ∧
    targets "mod b \x7b use super::x; \x7d" "crate::a" ≠ some ["crate::a::x"] ∧
    targets "mod b \x7b mod c \x7b use super::x; \x7d \x7d" "crate::a" = some ["crate::x"] ∧
    targets "mod b \x7b mod c \x7b use super::x; \x7d \x7d" "crate::a" ≠ some ["crate::a::b::x"] ∧
    targets "mod b \x7b use super::x; \x7d" "crate" = some [] ∧
    targets "mod b \x7b use super::x; \x7d" "crate" ≠ some ["crate::x"] := by
  decide +kernel

end SourceFile

end DepAtlas.Source
