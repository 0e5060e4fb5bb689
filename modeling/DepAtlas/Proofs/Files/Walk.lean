import DepAtlas.Proofs.Files.Names
import DepAtlas.Proofs.Files.Tree

set_option relaxedAutoImplicit false
set_option autoImplicit false

/-!
# What is found below a path

Walking a tree finds each file below it once, at the path that the names on the way to it make, unless
something on the way is left out. Where there is no ignore file nothing is left out.

## Main definitions

* `DepAtlas.FileTree.isProper` — whether the entries of each directory have names of their own.
* `DepAtlas.FileTree.hasIgnoreFile` — whether some file says what is left out.
* `DepAtlas.FileTree.IsKept` — nothing on the way to a place is left out.
* `DepAtlas.Found.below` — what is found below some names.

## Main results

* `DepAtlas.FileTree.mem_walkTree_iff` — what is found in a tree.
* `DepAtlas.FileTree.isIgnored_eq_false` — without ignore files nothing is left out.
* `DepAtlas.World.mem_walk_iff` — what is found below a path.
-/

namespace DepAtlas

namespace FileTree

/-! ## Proper trees -/

mutual

/-- Whether the entries of each directory in a tree have names, and each a name of its own. No other
trees come from a file system; in a list of entries, two could have one name. -/
def isProper : FileTree → Bool
  | .file _ => true
  | .directory entries => areProper entries

/-- Whether the entries of a directory have names, each a name of its own, and are proper trees. -/
def areProper : List (String × FileTree) → Bool
  | [] => true
  | (name, t) :: rest =>
    decide (Path.IsName name.toList) && (rest.all fun e => e.1 != name) && t.isProper && areProper rest

end

/-- Induction on a tree: over the entries of its directories. -/
@[elab_as_elim]
lemma entriesInduction {P : FileTree → Prop} (file : ∀ contents, P (.file contents))
    (directory : ∀ entries, (∀ e ∈ entries, P e.2) → P (.directory entries)) : ∀ t, P t
  | .file contents => file contents
  | .directory entries => directory entries fun e _ => entriesInduction file directory e.2
termination_by t => sizeOf t
decreasing_by
  have hlt := List.sizeOf_lt_of_mem ‹e ∈ entries›
  have hentry : sizeOf e.2 < sizeOf e := by
    cases e
    simp only [Prod.mk.sizeOf_spec]
    omega
  simp only [FileTree.directory.sizeOf_spec]
  omega

variable {entries : List (String × FileTree)}

/-- Entries are proper if each has a name and is a proper tree, and no two have one name. -/
lemma areProper_iff : areProper entries = true ↔
    (∀ e ∈ entries, Path.IsName e.1.toList ∧ e.2.isProper = true) ∧ (entries.map Prod.fst).Nodup := by
  induction entries with
  | nil => simp [areProper]
  | cons e rest ih =>
    obtain ⟨name, t⟩ := e
    simp only [areProper, Bool.and_eq_true, decide_eq_true_eq, ih, List.all_eq_true, bne_iff_ne,
      List.forall_mem_cons, List.map_cons, List.nodup_cons, List.mem_map, not_exists, not_and]
    tauto

/-- In a proper directory each entry is found under its name.

**Proof sketch.** Induction along the entries: the first one with the name is found, and there is no
other one. -/
lemma child?_eq_some_iff (h : (entries.map Prod.fst).Nodup) {name : String} {t : FileTree} :
    (directory entries).child? name = some t ↔ (name, t) ∈ entries := by
  induction entries with
  | nil => simp [child?, FileTree.entries]
  | cons e rest ih =>
    obtain ⟨first, u⟩ := e
    obtain ⟨hfirst, hrest⟩ := List.nodup_cons.1 h
    have ih := ih hrest
    simp only [child?, FileTree.entries] at ih ⊢
    by_cases hname : first = name
    · subst hname
      have hnot : (first, t) ∉ rest := fun hmem => hfirst (List.mem_map.2 ⟨_, hmem, rfl⟩)
      simp [hnot, eq_comm]
    · simp [hname, Ne.symm hname, ih]

/-- The entry that is found under a name is one of the directory. -/
lemma mem_entries_of_child? {t u : FileTree} {name : String} (h : t.child? name = some u) :
    (name, u) ∈ t.entries := by
  obtain ⟨⟨other, v⟩, hfind, rfl⟩ := Option.map_eq_some_iff.1 h
  have hname : other = name := by simpa using List.find?_some hfind
  exact hname ▸ List.mem_of_find?_eq_some hfind

/-- An entry of a proper tree has a name and is proper. -/
lemma isProper_child? {t u : FileTree} (h : t.isProper = true) {name : String}
    (hu : t.child? name = some u) : Path.IsName name.toList ∧ u.isProper = true := by
  cases t with
  | file contents => exact nomatch hu
  | directory entries => exact (areProper_iff.1 h).1 _ (mem_entries_of_child? hu)

/-- What is at a place of a proper tree is proper, and there are only names on the way to it. -/
lemma isProper_at? {t u : FileTree} (h : t.isProper = true) {place : List String}
    (hu : t.at? place = some u) : (∀ n ∈ place, Path.IsName n.toList) ∧ u.isProper = true := by
  induction place generalizing t with
  | nil =>
    obtain rfl := Option.some.inj hu
    exact ⟨fun n hn => absurd hn List.not_mem_nil, h⟩
  | cons name rest ih =>
    obtain ⟨v, hv, hu⟩ := Option.bind_eq_some_iff.1 hu
    obtain ⟨hname, hv⟩ := isProper_child? h hv
    obtain ⟨hrest, hu⟩ := ih hv hu
    exact ⟨List.forall_mem_cons.2 ⟨hname, hrest⟩, hu⟩

/-- The file at a place behind a place is looked up in what is at the first one. -/
lemma file?_append (t : FileTree) (place names : List String) :
    t.file? (place ++ names) = (t.at? place).bind fun u => u.file? names := by
  rw [file?, seen?, at?_append]
  cases t.at? place <;> rfl

/-- What a file is below is there. -/
lemma exists_at?_of_file? {t : FileTree} {place names : List String}
    (h : (t.file? (place ++ names)).isSome = true) :
    ∃ u, t.at? place = some u ∧ (u.file? names).isSome = true := by
  rw [file?_append] at h
  cases hu : t.at? place with
  | none => simp [hu] at h
  | some u => exact ⟨u, rfl, by simpa [hu] using h⟩

/-- The names on the way to a file of a proper tree are names. -/
lemma isName_of_file? {t : FileTree} (h : t.isProper = true) {place : List String}
    (hfile : (t.file? place).isSome = true) : ∀ n ∈ place, Path.IsName n.toList := by
  rw [← List.append_nil place] at hfile
  obtain ⟨u, hu, -⟩ := exists_at?_of_file? hfile
  exact (isProper_at? h hu).1

/-! ## What is left out -/

/-- Nothing on the way from a tree to a place below it is left out. The tree is at a place among all
files, because the rules for leaving something out may come from directories around it. The place of
the tree itself is not asked about: what a walk starts at is never left out. -/
def IsKept (all : FileTree) (place : List String) (t : FileTree) (names : List String) : Prop :=
  ∀ front, front ≠ [] → front <+: names → ∀ u, t.at? front = some u →
    all.isIgnored (place ++ front) u.isDirectory = false

/-- Nothing is left out on no way at all. -/
lemma isKept_nil (all : FileTree) (place : List String) (t : FileTree) : IsKept all place t [] :=
  fun _ hne hfront => absurd (List.prefix_nil.1 hfront) hne

/-- Nothing is left out on the way if the entry at the beginning is not, and nothing is on the way
from there.

**Proof sketch.** A place on the way is the entry itself or behind it, and what is there is the same
whether it is looked up in the tree or in the entry. -/
lemma isKept_cons_iff {all t u : FileTree} {place : List String} {name : String} {rest : List String}
    (hu : t.child? name = some u) : IsKept all place t (name :: rest) ↔
      all.isIgnored (place ++ [name]) u.isDirectory = false ∧ IsKept all (place ++ [name]) u rest := by
  have hat : ∀ front, t.at? (name :: front) = u.at? front := fun front => by simp [at?, hu]
  constructor
  · intro h
    refine ⟨h [name] (List.cons_ne_nil _ _) (by simp) u (hat []), fun front hne hfront v hv => ?_⟩
    rw [← List.append_cons]
    exact h (name :: front) (List.cons_ne_nil _ _) (List.cons_prefix_cons.2 ⟨rfl, hfront⟩) v
      ((hat front).trans hv)
  · rintro ⟨hname, hrest⟩ front hne hfront v hv
    obtain ⟨first, front, rfl⟩ := List.exists_cons_of_ne_nil hne
    obtain ⟨rfl, hbelow⟩ := List.cons_prefix_cons.1 hfront
    rw [hat] at hv
    by_cases hnil : front = []
    · subst hnil
      obtain rfl := Option.some.inj hv
      exact hname
    · rw [List.append_cons]
      exact hrest front hnil hbelow v hv

/-- Whether some file says what is left out. -/
def hasIgnoreFile (t : FileTree) : Bool :=
  t.files.any fun (place, _) => IgnoreKind.all.any fun kind => kind.place.isSuffixOf place

/-- The files of some entries are those of each. -/
lemma mem_filesOf_iff {f : List String × ByteArray} :
    f ∈ filesOf entries ↔ ∃ e ∈ entries, ∃ g ∈ e.2.files, (e.1 :: g.1, g.2) = f := by
  induction entries with
  | nil => simp [filesOf]
  | cons e rest ih => simp [filesOf, ih]

/-- A file that is at a place is among the files of the tree.

**Proof sketch.** Induction on the place, with the entries of each directory searched for its next
name. -/
lemma mem_files_of_file? {t : FileTree} {place : List String} {contents : ByteArray}
    (h : t.file? place = some contents) : (place, contents) ∈ t.files := by
  induction place generalizing t with
  | nil =>
    cases t with
    | file old =>
      obtain rfl : old = contents := by simpa [file?, contents?] using h
      simp [files]
    | directory entries => simp [file?, contents?] at h
  | cons name rest ih =>
    rw [file?_cons] at h
    obtain ⟨u, hu, hfile⟩ := Option.bind_eq_some_iff.1 h
    cases t with
    | file old => simp at hu
    | directory entries =>
      exact mem_filesOf_iff.2 ⟨_, mem_entries_of_child? hu, _, ih hfile, rfl⟩

/-- Without an ignore file there are no rules. -/
lemma rulesAt_eq_nil {t : FileTree} (h : t.hasIgnoreFile = false) (kind : IgnoreKind)
    (folder : List String) : t.rulesAt kind folder = [] := by
  unfold rulesAt
  split
  · next contents hat =>
    have hfile : t.file? (folder ++ kind.place) = some contents := by
      simp [file?, seen?, hat, contents?]
    have hnone := List.any_eq_false.1 h _ (mem_files_of_file? hfile)
    have hkind : kind ∈ IgnoreKind.all := by cases kind <;> decide
    exact absurd (List.any_eq_true.2 ⟨kind, hkind, by simp⟩) hnone
  · rfl

/-- **Without ignore files nothing is left out.** -/
theorem isIgnored_eq_false {t : FileTree} (h : t.hasIgnoreFile = false) (place : List String)
    (isDirectory : Bool) : t.isIgnored place isDirectory = false := by
  have hverdict : ∀ kind outer, t.verdictOf kind isDirectory outer = none := by
    intro kind outer
    induction outer with
    | nil => rfl
    | cons folder outer ih => simp [verdictOf, rulesAt_eq_nil h, verdict?, ih]
  have hnone : ∀ kinds : List IgnoreKind, kinds.findSome? (fun kind =>
      t.verdictOf kind isDirectory (above place)) = none := fun kinds =>
    List.findSome?_eq_none_iff.2 fun kind _ => hverdict kind _
  simp [isIgnored, hnone]

/-- Without ignore files nothing on any way is left out. -/
lemma isKept_of_hasIgnoreFile {all : FileTree} (h : all.hasIgnoreFile = false) (place : List String)
    (t : FileTree) (names : List String) : IsKept all place t names :=
  fun front _ _ u _ => isIgnored_eq_false h (place ++ front) u.isDirectory

end FileTree

/-! ## Walking a tree -/

namespace Found

/-- What is found at an entry of a directory. A find has two paths, one from where the source was
named and one from where the walk began, and the name comes behind both. -/
def enter (f : Found) (name : String) : Found :=
  ⟨joinName f.path name, joinRelative f.relative name⟩

/-- What is found below some names: the names are entered one after the other. -/
def below (f : Found) (names : List String) : Found :=
  names.foldl enter f

/-- The path of what is found below some names has them behind it. -/
@[simp] lemma path_below (f : Found) (names : List String) :
    (f.below names).path = names.foldl joinName f.path := by
  induction names generalizing f with
  | nil => rfl
  | cons name names ih => exact ih (f.enter name)

end Found

namespace FileTree

variable {all : FileTree} {place : List String} {here f : Found}

/-- What is found in a directory is found in one of its entries that is not left out.

**Proof sketch.** Induction along the entries. -/
lemma mem_walkEntries_iff {entries : List (String × FileTree)} :
    f ∈ walkEntries all place here entries ↔
      ∃ e ∈ entries, all.isIgnored (place ++ [e.1]) e.2.isDirectory = false ∧
        f ∈ walkTree all (place ++ [e.1]) (here.enter e.1) e.2 := by
  induction entries with
  | nil => simp [walkEntries]
  | cons e rest ih =>
    obtain ⟨name, t⟩ := e
    rw [walkEntries, List.mem_append, ih]
    simp only [List.exists_mem_cons_iff]
    refine or_congr_left ?_
    cases all.isIgnored (place ++ [name]) t.isDirectory <;> simp [Found.enter]

/-- What is found in a tree is below it, at some names behind the place where the walk is. -/
lemma exists_eq_below_of_mem_walkTree {t : FileTree} (h : f ∈ walkTree all place here t) :
    ∃ names, f = here.below names := by
  induction t using entriesInduction generalizing place here with
  | file contents => exact ⟨[], List.mem_singleton.1 h⟩
  | directory entries ih =>
    obtain ⟨e, he, -, hf⟩ := mem_walkEntries_iff.1 h
    obtain ⟨names, rfl⟩ := ih e he hf
    exact ⟨e.1 :: names, rfl⟩

/-- **What is found in a tree**: its files, without those that something on the way to is left out.

**Proof sketch.** Induction on the tree. A file of a directory is one of the entry that its first name is
the name of, and in a proper tree there is one such entry. -/
theorem mem_walkTree_iff {t : FileTree} (ht : t.isProper = true) :
    f ∈ walkTree all place here t ↔
      ∃ names, (t.file? names).isSome = true ∧ IsKept all place t names ∧ f = here.below names := by
  induction t using entriesInduction generalizing place here with
  | file contents =>
    have honly : ∀ names, ((file contents).file? names).isSome = true ↔ names = [] := fun names => by
      cases names with
      | nil => simp [file?, contents?]
      | cons name rest => simp [file?_cons]
    simp only [walkTree, List.mem_singleton, honly, exists_eq_left, isKept_nil, true_and]
    rfl
  | directory entries ih =>
    obtain ⟨hbelow, hnodup⟩ := areProper_iff.1 ht
    have hchild : ∀ e ∈ entries, (directory entries).child? e.1 = some e.2 := fun e he =>
      (child?_eq_some_iff hnodup).2 he
    rw [walkTree, mem_walkEntries_iff]
    constructor
    · rintro ⟨e, he, hopen, hf⟩
      obtain ⟨names, hfile, hkept, rfl⟩ := (ih e he (hbelow e he).2).1 hf
      refine ⟨e.1 :: names, ?_, (isKept_cons_iff (hchild e he)).2 ⟨hopen, hkept⟩, rfl⟩
      rwa [file?_cons, hchild e he]
    · rintro ⟨names, hfile, hkept, rfl⟩
      cases names with
      | nil => simp [file?, contents?] at hfile
      | cons name rest =>
        obtain ⟨contents, hcontents⟩ := Option.isSome_iff_exists.1 hfile
        rw [file?_cons] at hcontents
        obtain ⟨u, hu, hcontents⟩ := Option.bind_eq_some_iff.1 hcontents
        have hmem := (child?_eq_some_iff hnodup).1 hu
        obtain ⟨hopen, hkept⟩ := (isKept_cons_iff hu).1 hkept
        exact ⟨(name, u), hmem, hopen, (ih _ hmem (hbelow _ hmem).2).2
          ⟨rest, Option.isSome_iff_exists.2 ⟨contents, hcontents⟩, hkept, rfl⟩⟩

end FileTree

/-! ## Walking from a path -/

namespace World

variable {w : World} {root : String} {f : Found}

/-- Walking from a path goes through what the path leads to, if it leads anywhere. -/
lemma mem_walk : f ∈ w.walk root ↔ ∃ place t, (w.place? root = some place ∧ w.files.at? place = some t) ∧
    f ∈ walkTree w.files place ⟨root, ""⟩ t := by
  unfold walk
  cases hplace : w.place? root with
  | none => simp
  | some place =>
    cases hat : w.files.at? place with
    | none => simp [hat]
    | some t => simp [hat]

/-- What is found below a path has it in front. -/
lemma exists_path_eq_of_mem_walk (h : f ∈ w.walk root) :
    ∃ names : List String, f.path = names.foldl joinName root := by
  obtain ⟨place, t, -, hf⟩ := mem_walk.1 h
  obtain ⟨names, rfl⟩ := FileTree.exists_eq_below_of_mem_walkTree hf
  exact ⟨names, Found.path_below _ _⟩

/-- **What is found below a path**: the files below the place it leads to, without those that
something on the way to is left out. With a path that leads nowhere nothing is found. -/
theorem mem_walk_iff (hproper : w.files.isProper = true) : f ∈ w.walk root ↔
    ∃ place t, (w.place? root = some place ∧ w.files.at? place = some t) ∧
      ∃ names, (w.files.file? (place ++ names)).isSome = true ∧
        FileTree.IsKept w.files place t names ∧ f = Found.below ⟨root, ""⟩ names := by
  rw [mem_walk]
  refine exists_congr fun place => exists_congr fun t => and_congr_right fun ⟨_, hat⟩ => ?_
  rw [FileTree.mem_walkTree_iff (FileTree.isProper_at? hproper hat).2]
  refine exists_congr fun names => ?_
  rw [FileTree.file?_append, hat, Option.bind_some]

end World

end DepAtlas
