import DepAtlas.Proofs.Files.Order
import DepAtlas.Proofs.Text.Join

set_option relaxedAutoImplicit false
set_option autoImplicit false

/-!
# Paths with names behind them

A name that an entry of a directory can have is a component of its own, so putting names behind a path
adds components to it, whether the path ends in a slash or not. The place that such a path leads to is the
place of the path with the same names behind it. A path with a slash in front leads on from the root of all
files, so that what lies below the working directory can be spelled in two ways.

## Main definitions

* `DepAtlas.Path.IsName` — a text that an entry of a directory can be named with.
* `DepAtlas.Path.plain` — the components of a path without its leading dot.
* `DepAtlas.Path.startsAtDot` — whether a path has a leading dot.

## Main results

* `DepAtlas.Path.components_eq` — the components of a path from its pieces.
* `DepAtlas.Path.components_foldl_joinName` — the components of a path with names behind it.
* `DepAtlas.Path.components_eq_plain` — only a leading dot counts as a component.
* `DepAtlas.World.place?_intercalate_iff` — the place that names lead to.
* `DepAtlas.World.find?_slash_intercalate` — a path from the root and one from the working directory.
-/

namespace DepAtlas

namespace Path

/-! ## Names -/

/-- A text that an entry of a directory can be named with. An empty piece of a path and the dots
have a meaning of their own, and a slash would separate two names. -/
def IsName (name : List Char) : Prop :=
  name ≠ [] ∧ name ≠ ['.'] ∧ name ≠ ['.', '.'] ∧ '/' ∉ name

/-- Whether a text is such a name can be decided. -/
instance (name : List Char) : Decidable (IsName name) :=
  inferInstanceAs (Decidable (_ ∧ _))

/-- A piece of a path that is a name is a component with this name. -/
lemma ofPiece_of_isName {name : List Char} (h : IsName name) :
    Component.ofPiece name = .normal (String.ofList name) := by
  unfold Component.ofPiece
  split
  · exact absurd rfl h.2.2.1
  · exact absurd rfl h.2.1
  · rfl

/-! ## Pieces -/

variable {path : String}

/-- The pieces of a path have no slashes in them. -/
lemma slash_not_mem_pieces {piece : List Char} (h : piece ∈ pieces path) : '/' ∉ piece := by
  have hfree := (Text.arePieces_splitOn (List.cons_ne_nil '/' []) path.toList).not_occurs piece h
  rwa [List.singleton_infix_iff] at hfree

/-- Pieces without slashes are the pieces of what they are put together to. -/
lemma splitOn_joinWith_slash {texts : List (List Char)} (hne : texts ≠ [])
    (h : ∀ piece ∈ texts, '/' ∉ piece) : Text.splitOn ['/'] (Text.joinWith ['/'] texts) = texts :=
  Text.splitOn_joinWith_of_disjoint (List.cons_ne_nil _ _) hne fun piece hp =>
    List.disjoint_singleton.2 (h piece hp)

/-- The component of the first piece of a path. An empty piece stands in front of the first slash,
so the path begins at the root of all files. -/
def Component.ofFront : List Char → Component
  | [] => .root
  | piece => .ofPiece piece

/-- The components of the pieces behind the first one. Empty pieces and dots do not count there. -/
def counted (pieces : List (List Char)) : List Component :=
  (pieces.filter fun p => !p.isEmpty && p != ['.']).map .ofPiece

/-- **The components of a path**: one for its first piece, and one for every other that counts.

**Proof sketch.** The definition treats an empty path, a path with a slash in front and one with a
dot in front apart. In each of these cases the first piece gives its component. -/
lemma components_eq {front : List Char} {rest : List (List Char)} (h : pieces path = front :: rest)
    (hpath : path ≠ "") : components path = .ofFront front :: counted rest := by
  have hne : ¬ (front = [] ∧ rest = []) := by
    rintro ⟨rfl, rfl⟩
    have hjoin := Text.joinWith_splitOn ['/'] path.toList
    rw [← pieces, h] at hjoin
    exact hpath (String.toList_eq_nil_iff.1 hjoin.symm)
  unfold components
  rw [h]
  split
  · next heq => exact absurd heq (List.cons_ne_nil _ _)
  · next heq =>
    obtain ⟨rfl, rfl⟩ := List.cons.inj heq
    exact absurd ⟨rfl, rfl⟩ hne
  · next heq =>
    obtain ⟨rfl, rfl⟩ := List.cons.inj heq
    rfl
  · next heq =>
    obtain ⟨rfl, rfl⟩ := List.cons.inj heq
    rfl
  · next hroot hdot =>
    cases front with
    | nil => exact (hroot rest rfl).elim
    | cons c cs =>
      have hcounts : c :: cs ≠ ['.'] := fun heq => hdot rest (by rw [heq])
      simp [Component.ofFront, hcounts, counted]

/-- Every path has a first piece, the empty path an empty one. -/
lemma exists_pieces_eq_cons (path : String) : ∃ front rest, pieces path = front :: rest :=
  List.exists_cons_of_ne_nil Text.splitOn_ne_nil

/-- A text without slashes is the one piece of itself. -/
lemma pieces_of_slash_not_mem {name : String} (h : '/' ∉ name.toList) : pieces name = [name.toList] :=
  Text.splitOn_of_not_occurs (List.cons_ne_nil _ _) (by rwa [List.singleton_infix_iff])

/-- The empty path has an empty piece. -/
lemma pieces_empty : pieces "" = [[]] :=
  pieces_of_slash_not_mem (by simp)

/-- The empty path has no components. -/
lemma components_empty : components "" = [] := by
  simp [components, pieces_empty]

/-- The pieces behind a slash come behind those in front of it.

**Proof sketch.** The pieces of both parts, put together with slashes, are the whole path, and no
piece has a slash in it, so cutting gives them back. -/
lemma pieces_append_slash (path more : String) :
    pieces (path ++ "/" ++ more) = pieces path ++ pieces more := by
  have htext : (path ++ "/" ++ more).toList = Text.joinWith ['/'] (pieces path ++ pieces more) := by
    rw [pieces, pieces, Text.joinWith_append Text.splitOn_ne_nil Text.splitOn_ne_nil,
      Text.joinWith_splitOn, Text.joinWith_splitOn, String.toList_append, String.toList_append]
    rfl
  have hfree : ∀ piece ∈ pieces path ++ pieces more, '/' ∉ piece := fun piece hp =>
    (List.mem_append.1 hp).elim slash_not_mem_pieces slash_not_mem_pieces
  rw [pieces, htext, splitOn_joinWith_slash _ hfree]
  exact List.append_ne_nil_of_left_ne_nil Text.splitOn_ne_nil _

/-- The pieces of texts that are put together with slashes are the texts.

**Proof sketch.** Induction along the texts: the slash behind the first one cuts it off. -/
lemma pieces_intercalate {names : List String} (hne : names ≠ []) (h : ∀ n ∈ names, '/' ∉ n.toList) :
    pieces ("/".intercalate names) = names.map String.toList := by
  induction names with
  | nil => exact absurd rfl hne
  | cons name names ih =>
    have hname := pieces_of_slash_not_mem (h name List.mem_cons_self)
    cases names with
    | nil => simpa using hname
    | cons next rest =>
      rw [String.intercalate_cons_cons, pieces_append_slash, hname,
        ih (List.cons_ne_nil _ _) fun n hn => h n (List.mem_cons_of_mem _ hn)]
      rfl

/-! ## A name behind a path -/

/-- A path with a slash in it is not empty. -/
lemma append_slash_ne_empty (path more : String) : path ++ "/" ++ more ≠ "" := fun h => by
  have hlist := congrArg String.toList h
  simp at hlist

/-- A path with a name behind it is a path with a slash in between; the path may have it at its end. -/
lemma exists_joinName_eq (path name : String) :
    ∃ front, joinName path name = front ++ "/" ++ name ∧ (path = front ∨ path = front ++ "/" ++ "") := by
  unfold joinName
  split
  · next hlast =>
    obtain ⟨front, hfront⟩ := List.getLast?_eq_some_iff.1 hlast
    have hpath : path = String.ofList front ++ "/" := String.toList_inj.1 (by simpa using hfront)
    exact ⟨String.ofList front, by rw [hpath], .inr (by rw [hpath]; simp)⟩
  · exact ⟨path, rfl, .inl rfl⟩

/-- A path with a name behind it is not empty. -/
lemma joinName_ne_empty (path name : String) : joinName path name ≠ "" := by
  obtain ⟨front, hjoin, -⟩ := exists_joinName_eq path name
  rw [hjoin]
  exact append_slash_ne_empty front name

/-- Pieces behind pieces are counted one after the other. -/
@[simp] lemma counted_append (xs ys : List (List Char)) :
    counted (xs ++ ys) = counted xs ++ counted ys := by
  simp [counted]

/-- A name counts as one component. -/
lemma counted_name {name : String} (h : IsName name.toList) :
    counted (pieces name) = [.normal name] := by
  have hcounts : (!name.toList.isEmpty && name.toList != ['.']) = true := by
    simp [h.1, h.2.1]
  simp [pieces_of_slash_not_mem h.2.2.2, counted, hcounts, ofPiece_of_isName h]

/-- **A name behind a path is one more component**, whether the path ends with a slash or not.

**Proof sketch.** If it does, the piece behind the last slash is empty and does not count. -/
lemma components_joinName {path name : String} (hpath : path ≠ "") (hname : IsName name.toList) :
    components (joinName path name) = components path ++ [.normal name] := by
  obtain ⟨front, hjoin, hfront⟩ := exists_joinName_eq path name
  obtain ⟨first, rest, hpieces⟩ := exists_pieces_eq_cons front
  have hbehind : ∀ more, components (front ++ "/" ++ more) =
      .ofFront first :: (counted rest ++ counted (pieces more)) := fun more => by
    rw [components_eq (by rw [pieces_append_slash, hpieces, List.cons_append])
      (append_slash_ne_empty front more), counted_append]
  rw [hjoin, hbehind, counted_name hname]
  rcases hfront with rfl | rfl
  · rw [components_eq hpieces hpath, List.cons_append]
  · have hnone : counted (pieces "") = [] := by simp [pieces_empty, counted]
    rw [hbehind, hnone, List.append_nil, List.cons_append]

/-- The components of a path with names behind it are those of the path and one for each name. -/
lemma components_foldl_joinName {path : String} (hpath : path ≠ "") {names : List String}
    (hnames : ∀ n ∈ names, IsName n.toList) :
    components (names.foldl joinName path) = components path ++ names.map .normal := by
  induction names generalizing path with
  | nil => simp
  | cons name names ih =>
    have hname := components_joinName hpath (hnames name List.mem_cons_self)
    rw [List.foldl_cons, ih (joinName_ne_empty path name) fun n hn => hnames n (List.mem_cons_of_mem _ hn),
      hname, List.append_assoc]
    rfl

/-- A name does not end in a slash, so that the next one comes behind a slash of its own. -/
lemma joinName_eq {path : String} (h : path.toList.getLast? ≠ some '/') (name : String) :
    joinName path name = path ++ "/" ++ name :=
  if_neg h

/-- A name does not end in a slash. -/
lemma IsName.getLast?_ne {name : List Char} (h : IsName name) : name.getLast? ≠ some '/' := fun hlast =>
  h.2.2.2 (List.mem_of_getLast? hlast)

/-- Names behind a path that does not end in a slash, written out.

**Proof sketch.** Induction along the names, none of which ends in a slash. -/
lemma foldl_joinName_eq {path : String} (hpath : path.toList.getLast? ≠ some '/') {names : List String}
    (hnames : ∀ n ∈ names, IsName n.toList) :
    names.foldl joinName path = "/".intercalate (path :: names) := by
  induction names generalizing path with
  | nil => simp
  | cons name names ih =>
    have hname := hnames name List.mem_cons_self
    have hlast : (path ++ "/" ++ name).toList.getLast? ≠ some '/' := by
      rw [String.toList_append, List.getLast?_append_of_ne_nil _ hname.1]
      exact hname.getLast?_ne
    rw [List.foldl_cons, joinName_eq hpath, ih hlast fun n hn => hnames n (List.mem_cons_of_mem _ hn),
      String.intercalate_cons_cons]
    cases names with
    | nil => simp
    | cons next rest => simp [String.intercalate_cons_cons, String.append_assoc]

/-! ## The leading dot -/

/-- Whether a path has a leading dot. This is the only dot that counts as a component. -/
def startsAtDot (path : String) : Bool :=
  (components path).head? == some .current

/-- The components of a path without its leading dot. Two paths with the same of them lead to the
same place, but they are level only if both have a leading dot or neither has one. -/
def plain (path : String) : List Component :=
  (components path).filter (· != .current)

/-- Only a dot is the component of the current directory. -/
lemma ofPiece_eq_current_iff {piece : List Char} : Component.ofPiece piece = .current ↔ piece = ['.'] := by
  unfold Component.ofPiece
  split <;> simp_all

/-- Behind the first piece no dot counts. -/
lemma current_not_mem_counted (pieces : List (List Char)) : Component.current ∉ counted pieces := by
  simp only [counted, List.mem_map, List.mem_filter, not_exists, not_and]
  rintro piece ⟨-, hcounts⟩ hcurrent
  simp [ofPiece_eq_current_iff.1 hcurrent] at hcounts

/-- **Only a leading dot counts as a component**, so the components of a path are known from the
others and from whether there is one. -/
lemma components_eq_plain (path : String) :
    components path = (if startsAtDot path then [.current] else []) ++ plain path := by
  by_cases hpath : path = ""
  · simp [hpath, startsAtDot, plain, components_empty]
  obtain ⟨front, rest, hpieces⟩ := exists_pieces_eq_cons path
  have hrest : (counted rest).filter (· != .current) = counted rest :=
    List.filter_eq_self.2 fun c hc => by
      simpa using fun h : c = .current => current_not_mem_counted rest (h ▸ hc)
  simp only [startsAtDot, plain, components_eq hpieces hpath, List.head?_cons, List.filter_cons, hrest]
  by_cases hfront : Component.ofFront front = .current <;> simp [hfront]

/-- Two spellings of one path differ neither in their leading dots nor behind them. -/
lemma same_iff {a b : String} : Same a b ↔ startsAtDot a = startsAtDot b ∧ plain a = plain b := by
  constructor
  · intro h
    rw [startsAtDot, startsAtDot, plain, plain, show components a = components b from h]
    exact ⟨rfl, rfl⟩
  · rintro ⟨hdot, hplain⟩
    rw [Same, components_eq_plain a, components_eq_plain b, hdot, hplain]

/-- A path has a leading dot exactly if this is its first piece.

**Proof sketch.** The first component is that of the first piece, and of all pieces only a dot is
the component of the current directory. -/
lemma startsAtDot_eq {path : String} {front : List Char} {rest : List (List Char)}
    (h : pieces path = front :: rest) : startsAtDot path = (front == ['.']) := by
  by_cases hpath : path = ""
  · subst hpath
    obtain ⟨rfl, rfl⟩ := List.cons.inj (h.symm.trans pieces_empty)
    simp [startsAtDot, components_empty]
  have hcurrent : Component.ofFront front = .current ↔ front = ['.'] := by
    cases front with
    | nil => simp [Component.ofFront]
    | cons c cs => exact ofPiece_eq_current_iff
  rw [startsAtDot, components_eq h hpath, List.head?_cons, Bool.eq_iff_iff]
  simpa using hcurrent

/-- A name behind a path is no leading dot and takes none away. -/
lemma startsAtDot_joinName {path : String} (hpath : path ≠ "") (name : String) :
    startsAtDot (joinName path name) = startsAtDot path := by
  obtain ⟨front, hjoin, hfront⟩ := exists_joinName_eq path name
  obtain ⟨first, rest, hpieces⟩ := exists_pieces_eq_cons front
  have hbehind : ∀ more, startsAtDot (front ++ "/" ++ more) = (first == ['.']) := fun more =>
    startsAtDot_eq (by rw [pieces_append_slash, hpieces, List.cons_append])
  rw [hjoin, hbehind]
  rcases hfront with rfl | rfl
  · exact (startsAtDot_eq hpieces).symm
  · exact (hbehind "").symm

/-- Names behind a path are no leading dot either, and take none away. -/
lemma startsAtDot_foldl_joinName {path : String} (hpath : path ≠ "") (names : List String) :
    startsAtDot (names.foldl joinName path) = startsAtDot path := by
  induction names generalizing path with
  | nil => rfl
  | cons name names ih =>
    rw [List.foldl_cons, ih (joinName_ne_empty path name), startsAtDot_joinName hpath]

end Path

/-! ## The place of names -/

namespace FileTree

/-- What is at a place behind a place is looked up in what is at the first one. -/
lemma at?_append (t : FileTree) (place names : List String) :
    t.at? (place ++ names) = (t.at? place).bind fun u => u.at? names := by
  induction place generalizing t with
  | nil => rfl
  | cons name place ih =>
    rw [List.cons_append, at?, at?]
    cases t.child? name with
    | none => rfl
    | some u => exact ih u

/-- Only a directory has something below it. -/
lemma isDirectory_of_at?_cons {t u : FileTree} {name : String} {rest : List String}
    (h : t.at? (name :: rest) = some u) : t.isDirectory = true := by
  cases t with
  | file contents => simp [at?, child?, entries] at h
  | directory entries => rfl

end FileTree

namespace World

open DepAtlas.Path (IsName)

variable {files : FileTree} {place names : List String}

/-- A name leads from a directory to the entry of this name, and from anything else nowhere. -/
lemma walk?_cons_name {name : String} (h : IsName name.toList) (rest : List (List Char)) :
    walk? files place (name.toList :: rest) =
      if (files.at? place).any FileTree.isDirectory then walk? files (place ++ [name]) rest else none := by
  rw [walk?, String.ofList_toList]
  exacts [h.1, h.2.1, h.2.2.1]

/-- Names lead to the place that they are behind, if they lead anywhere.

**Proof sketch.** Induction along the names, each of which leads one step down. -/
lemma eq_of_walk?_names (hnames : ∀ n ∈ names, IsName n.toList) {target : List String}
    (h : walk? files place (names.map String.toList) = some target) : target = place ++ names := by
  induction names generalizing place with
  | nil => simpa [walk?] using h.symm
  | cons name names ih =>
    rw [List.map_cons, walk?_cons_name (hnames name List.mem_cons_self)] at h
    split at h
    · simpa using ih (fun n hn => hnames n (List.mem_cons_of_mem _ hn)) h
    · exact nomatch h

/-- **Names lead to a place where something is.**

**Proof sketch.** Induction along the names. Something is behind the place that was reached so far,
so it is a directory, and the next name leads on from it. -/
lemma walk?_names (hnames : ∀ n ∈ names, IsName n.toList) {u : FileTree}
    (h : files.at? (place ++ names) = some u) :
    walk? files place (names.map String.toList) = some (place ++ names) := by
  induction names generalizing place with
  | nil => simp [walk?]
  | cons name names ih =>
    obtain ⟨t, ht, hu⟩ := Option.bind_eq_some_iff.1 ((files.at?_append place (name :: names)).symm.trans h)
    have hdirectory : (files.at? place).any FileTree.isDirectory = true := by
      simpa [ht] using FileTree.isDirectory_of_at?_cons hu
    rw [List.append_cons] at h
    rw [List.map_cons, walk?_cons_name (hnames name List.mem_cons_self), if_pos hdirectory,
      ih (fun n hn => hnames n (List.mem_cons_of_mem _ hn)) h, ← List.append_cons]

/-- Names lead to what is at the place that they are behind, and to nothing else.

**Proof sketch.** If something is there, everything on the way to it is a directory. -/
lemma walk?_names_iff (hnames : ∀ n ∈ names, IsName n.toList) {target : List String} {u : FileTree} :
    walk? files place (names.map String.toList) = some target ∧ files.at? target = some u ↔
      target = place ++ names ∧ files.at? target = some u := by
  constructor
  · rintro ⟨hwalk, hu⟩
    exact ⟨eq_of_walk?_names hnames hwalk, hu⟩
  · rintro ⟨rfl, hu⟩
    exact ⟨walk?_names hnames hu, hu⟩

/-- What a path that is put together from names leads to: what is at the place behind the working
directory. -/
lemma place?_intercalate_iff (w : World) (hne : names ≠ []) (hnames : ∀ n ∈ names, IsName n.toList)
    {target : List String} {u : FileTree} :
    w.place? ("/".intercalate names) = some target ∧ w.files.at? target = some u ↔
      target = w.workingDirectory ++ names ∧ w.files.at? target = some u := by
  have hplace : w.place? ("/".intercalate names) =
      walk? w.files w.workingDirectory (names.map String.toList) := by
    obtain ⟨name, rest, rfl⟩ := List.exists_cons_of_ne_nil hne
    have hname := hnames name List.mem_cons_self
    rw [place?, Path.pieces_intercalate hne fun n hn => (hnames n hn).2.2.2, List.map_cons]
    split
    · next heq => exact absurd heq (List.cons_ne_nil _ _)
    · next heq => exact absurd (List.cons.inj heq).1 hname.1
    · next heq => exact absurd (List.cons.inj heq).1 hname.1
    · rfl
  rw [hplace]
  exact walk?_names_iff hnames

/-- What names with a slash in front lead to: what is at the place behind the root of all files. The
working directory does not matter. -/
lemma place?_slash_intercalate_iff (w : World) (hne : names ≠ []) (hnames : ∀ n ∈ names, IsName n.toList)
    {target : List String} {u : FileTree} :
    w.place? ("/" ++ "/".intercalate names) = some target ∧ w.files.at? target = some u ↔
      target = names ∧ w.files.at? target = some u := by
  have hpieces : Path.pieces ("/" ++ "/".intercalate names) = [] :: names.map String.toList := by
    have hfront := Path.pieces_append_slash "" ("/".intercalate names)
    rw [Path.pieces_empty, Path.pieces_intercalate hne fun n hn => (hnames n hn).2.2.2] at hfront
    exact hfront
  have hplace : w.place? ("/" ++ "/".intercalate names) =
      walk? w.files [] (names.map String.toList) := by
    rw [place?, hpieces]
    split
    · next heq => exact absurd heq (List.cons_ne_nil _ _)
    · next heq => exact absurd (List.map_eq_nil_iff.1 (List.cons.inj heq).2) hne
    · next heq => rw [(List.cons.inj heq).2]
    · next hroot => exact absurd rfl (hroot _)
  rw [hplace]
  exact walk?_names_iff hnames

/-- **A path from the root leads where the path from the working directory does.** Names behind the
working directory may be spelled from there on, or with the names of the directories around it and a
slash in front. Both spellings lead to the same thing, or neither leads anywhere. -/
theorem find?_slash_intercalate (w : World) (hdirectory : ∀ n ∈ w.workingDirectory, IsName n.toList)
    (hne : names ≠ []) (hnames : ∀ n ∈ names, IsName n.toList) :
    w.find? ("/" ++ "/".intercalate (w.workingDirectory ++ names)) = w.find? ("/".intercalate names) := by
  have hboth : ∀ n ∈ w.workingDirectory ++ names, IsName n.toList := fun n hn =>
    (List.mem_append.1 hn).elim (hdirectory n) (hnames n)
  have hfound : ∀ (path : String) (u : FileTree), w.find? path = some u ↔
      ∃ target, w.place? path = some target ∧ w.files.at? target = some u :=
    fun _ _ => Option.bind_eq_some_iff
  refine Option.ext fun u => ?_
  rw [hfound, hfound]
  refine exists_congr fun target => ?_
  rw [place?_slash_intercalate_iff w (List.append_ne_nil_of_right_ne_nil _ hne) hboth,
    place?_intercalate_iff w hne hnames]

/-- A dot leads to the working directory, if it is a directory. The working directory of a world may
be missing from its files, and then nothing can be reached from it. -/
lemma place?_dot_iff (w : World) {target : List String} {u : FileTree} :
    w.place? "." = some target ∧ w.files.at? target = some u ↔
      target = w.workingDirectory ∧ w.files.at? target = some u ∧ u.isDirectory = true := by
  have hplace : w.place? "." =
      if (w.files.at? w.workingDirectory).any FileTree.isDirectory then some w.workingDirectory
      else none := by
    rw [place?, Path.pieces_of_slash_not_mem (by decide)]
    rfl
  rw [hplace]
  constructor
  · rintro ⟨hdot, hu⟩
    obtain ⟨hdirectory, htarget⟩ := Option.ite_none_right_eq_some.1 hdot
    obtain rfl := Option.some.inj htarget
    rw [hu] at hdirectory
    exact ⟨rfl, hu, hdirectory⟩
  · rintro ⟨rfl, hu, hdirectory⟩
    rw [hu, Option.any_some, if_pos hdirectory]
    exact ⟨rfl, rfl⟩

end World

end DepAtlas
