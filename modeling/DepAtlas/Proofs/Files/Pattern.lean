import DepAtlas.Proofs.Files.Sources
import DepAtlas.Proofs.Glob.Front
import Mathlib.Data.List.TakeWhile

set_option relaxedAutoImplicit false
set_option autoImplicit false

/-!
# What a pattern of sources stands for

A pattern is compared with the paths below the directory in front of its first wildcard, in the spelling
that walking from this directory gives them. If the directory is named in the pattern, these are the paths
from the working directory on. If the first name has a wildcard, they have a dot in front, and the
pattern is compared with it.

## Main definitions

* `DepAtlas.frontNames` — the names in front of the first wildcard of a pattern.
* `DepAtlas.World.HasFile` — a file at a place below the working directory.
* `DepAtlas.World.Selects` — locating a source gives exactly some files.

## Main results

* `DepAtlas.literalFront_eq` — the directory in front of the first wildcard.
* `DepAtlas.World.mem_walk_names_iff`, `DepAtlas.World.mem_walk_dot_iff` — what is found from it on.
* `DepAtlas.frontNames_prefix_of_accepts` — what a pattern matches lies below its directory.
* `DepAtlas.World.pattern_selects` — the files that a pattern stands for.
-/

namespace DepAtlas

open DepAtlas.Path (IsName Same)

variable {pattern : String} {names front : List String}

/-! ## Names put together -/

/-- The characters of a path that is put together from names are those of the names, with slashes in
between. -/
lemma toList_intercalate_slash (hne : names ≠ []) (hnames : ∀ n ∈ names, '/' ∉ n.toList) :
    ("/".intercalate names).toList = Text.joinWith ['/'] (names.map String.toList) := by
  rw [← Path.pieces_intercalate hne hnames, Path.pieces, Text.joinWith_splitOn]

/-- A path that is put together from names is not empty. -/
lemma intercalate_ne_empty (hne : names ≠ []) (hnames : ∀ n ∈ names, IsName n.toList) :
    "/".intercalate names ≠ "" := fun hempty => by
  have hpieces := Path.pieces_intercalate hne fun n hn => (hnames n hn).2.2.2
  obtain ⟨first, rest, rfl⟩ := List.exists_cons_of_ne_nil hne
  rw [hempty, Path.pieces_empty, List.map_cons] at hpieces
  exact (hnames first List.mem_cons_self).1 (List.cons.inj hpieces).1.symm

/-- Names behind names. -/
lemma foldl_joinName_intercalate (hfront : ∀ n ∈ front, IsName n.toList) (hne : front ≠ [])
    (hnames : ∀ n ∈ names, IsName n.toList) :
    names.foldl joinName ("/".intercalate front) = "/".intercalate (front ++ names) := by
  obtain ⟨first, rest, rfl⟩ := List.exists_cons_of_ne_nil hne
  obtain ⟨hfirst, hrest⟩ := List.forall_mem_cons.1 hfront
  rw [← Path.foldl_joinName_eq hfirst.getLast?_ne hrest, ← List.foldl_append,
    Path.foldl_joinName_eq hfirst.getLast?_ne (List.forall_mem_append.2 ⟨hrest, hnames⟩), List.cons_append]

/-- Paths from one directory on have the names behind it in common, or they differ. So no file below
a directory is listed in two spellings. -/
lemma eq_of_same_foldl_joinName {root : String} (hroot : root ≠ "") {names others : List String}
    (hnames : ∀ n ∈ names, IsName n.toList) (hothers : ∀ n ∈ others, IsName n.toList)
    (h : Same (names.foldl joinName root) (others.foldl joinName root)) : names = others := by
  rw [Same, Path.components_foldl_joinName hroot hnames, Path.components_foldl_joinName hroot hothers,
    List.append_cancel_left_eq] at h
  exact List.map_injective_iff.2 (fun _ _ heq => Path.Component.normal.inj heq) h

/-! ## The directory in front of a pattern -/

/-- The names in front of the first wildcard of a pattern. They are the directory that is walked for
it; a pattern that begins with a wildcard has none, and the working directory is walked. -/
def frontNames (pattern : String) : List String :=
  ((Path.pieces pattern).takeWhile fun piece => !hasWildcard (String.ofList piece)).map String.ofList

/-- The names in front of the first wildcard are names if all pieces of the pattern are. -/
lemma isName_of_mem_frontNames (hnames : ∀ piece ∈ Path.pieces pattern, IsName piece) :
    ∀ n ∈ frontNames pattern, IsName n.toList := by
  intro n hn
  obtain ⟨piece, hpiece, rfl⟩ := List.mem_map.1 hn
  rw [String.toList_ofList]
  exact hnames piece ((List.takeWhile_sublist _).subset hpiece)

/-- A path of names has these as its components.

**Proof sketch.** None of the pieces is empty or a dot, so all of them count, the first one as well
as the others. -/
lemma components_of_names (hnames : ∀ piece ∈ Path.pieces pattern, IsName piece) :
    Path.components pattern = (Path.pieces pattern).map fun piece => .normal (String.ofList piece) := by
  have hpattern : pattern ≠ "" := by
    rintro rfl
    exact absurd rfl (hnames [] (by simp [Path.pieces_empty])).1
  obtain ⟨first, rest, hpieces⟩ := Path.exists_pieces_eq_cons pattern
  rw [hpieces] at hnames ⊢
  obtain ⟨hfirst, hrest⟩ := List.forall_mem_cons.1 hnames
  have hcounted : Path.counted rest = rest.map fun piece => .normal (String.ofList piece) := by
    rw [Path.counted, List.filter_eq_self.2 fun piece hp => by simp [(hrest piece hp).1, (hrest piece hp).2.1]]
    exact List.map_congr_left fun piece hp => Path.ofPiece_of_isName (hrest piece hp)
  rw [Path.components_eq hpieces hpattern, hcounted, List.map_cons]
  obtain ⟨c, cs, rfl⟩ := List.exists_cons_of_ne_nil hfirst.1
  rw [Path.Component.ofFront, Path.ofPiece_of_isName hfirst]
  exact List.cons_ne_nil _ _

/-- The directory in front of the first wildcard has the names in front of it, or is the working
directory. -/
lemma literalFront_eq (hnames : ∀ piece ∈ Path.pieces pattern, IsName piece) :
    literalFront pattern =
      if frontNames pattern = [] then "." else "/".intercalate (frontNames pattern) := by
  have htaken : ((Path.components pattern).takeWhile fun c => !hasWildcard c.text) =
      (frontNames pattern).map Path.Component.normal := by
    rw [components_of_names hnames, List.takeWhile_map, frontNames, List.map_map]
    rfl
  unfold literalFront
  simp only [htaken]
  cases hfront : frontNames pattern with
  | nil => rfl
  | cons first rest =>
    rw [if_neg (List.cons_ne_nil _ _)]
    simp [Path.Component.text, Function.comp_def]

/-- Behind the names in front of the first wildcard, a pattern goes on with a slash.

**Proof sketch.** The pieces of the pattern are those without a wildcard at its beginning and the
ones behind them. The first part is not empty by assumption, and the second one is not, because the
wildcard has to be in one of its pieces. -/
lemma exists_toList_eq_front (hwild : hasWildcard pattern = true) (hfront : frontNames pattern ≠ []) :
    ∃ rest, pattern.toList =
      Text.joinWith ['/'] ((frontNames pattern).map String.toList) ++ '/' :: rest := by
  have hpieces : ((Path.pieces pattern).takeWhile fun piece => !hasWildcard (String.ofList piece)) ++
      (Path.pieces pattern).dropWhile (fun piece => !hasWildcard (String.ofList piece)) =
        Path.pieces pattern := List.takeWhile_append_dropWhile
  have hnames : (frontNames pattern).map String.toList =
      (Path.pieces pattern).takeWhile fun piece => !hasWildcard (String.ofList piece) := by
    simp [frontNames, Function.comp_def]
  have htaken : (frontNames pattern).map String.toList ≠ [] := by simpa using hfront
  have hdropped :
      (Path.pieces pattern).dropWhile (fun piece => !hasWildcard (String.ofList piece)) ≠ [] := by
    -- a wildcard is in one of the pieces, since it is no slash
    intro hnone
    obtain ⟨c, hc, hcwild⟩ := List.any_eq_true.1 hwild
    rw [← Text.joinWith_splitOn ['/'] pattern.toList] at hc
    rcases Text.mem_joinWith hc with hslash | ⟨piece, hpiece, hc⟩
    · rw [List.mem_singleton.1 hslash] at hcwild
      exact absurd hcwild (by decide)
    · have hplain := List.dropWhile_eq_nil_iff.1 hnone piece hpiece
      have hpiecewild : hasWildcard (String.ofList piece) = true :=
        List.any_eq_true.2 ⟨c, by rwa [String.toList_ofList], hcwild⟩
      rw [hpiecewild] at hplain
      exact nomatch hplain
  have hpattern := (Text.joinWith_splitOn ['/'] pattern.toList).symm
  rw [← Path.pieces, ← hpieces, ← hnames, Text.joinWith_append htaken hdropped, List.append_assoc,
    List.singleton_append] at hpattern
  exact ⟨_, hpattern⟩

/-- In front of the first wildcard each character stands for itself, unless one is escaped.

**Proof sketch.** A character there is a slash or in one of the names, and no name in front has any
character of a wildcard. -/
lemma isPlain_of_mem_front (hescape : ∀ n ∈ frontNames pattern, '\\' ∉ n.toList) :
    ∀ c ∈ Text.joinWith ['/'] ((frontNames pattern).map String.toList), Glob.IsPlain c := by
  intro c hc
  rcases Text.mem_joinWith hc with hslash | ⟨text, htext, hc⟩
  · rw [List.mem_singleton.1 hslash]
    decide
  · obtain ⟨n, hn, rfl⟩ := List.mem_map.1 htext
    have hnot := hescape n hn
    obtain ⟨piece, hpiece, rfl⟩ := List.mem_map.1 hn
    have hplain := List.mem_takeWhile_imp hpiece
    simp only [hasWildcard, Bool.not_eq_true', List.any_eq_false, Bool.or_eq_true, beq_iff_eq,
      not_or] at hplain
    obtain ⟨⟨⟨hstar, hquestion⟩, hbracket⟩, hopen⟩ := hplain c hc
    have hnotescape : c ≠ '\\' := fun heq => hnot (heq ▸ hc)
    simp [Glob.IsPlain, hstar, hquestion, hbracket, hopen, hnotescape]

/-- Names that are put together to a path below a directory begin with those of the directory.

**Proof sketch.** Both are cut at their slashes again, and the slash at the end of the first sees to
it that its last name is not only the beginning of one. -/
lemma prefix_of_intercalate_prefix (hfront : ∀ n ∈ front, IsName n.toList) (hne : front ≠ [])
    (hnames : ∀ n ∈ names, IsName n.toList)
    (h : Text.joinWith ['/'] (front.map String.toList) ++ ['/'] <+: ("/".intercalate names).toList) :
    front <+: names := by
  have hslash : ∀ {names : List String}, (∀ n ∈ names, IsName n.toList) → ∀ n ∈ names, '/' ∉ n.toList :=
    fun hnames n hn => (hnames n hn).2.2.2
  have hnonempty : names ≠ [] := by
    rintro rfl
    simp at h
  obtain ⟨rest, hrest⟩ := h
  rw [← toList_intercalate_slash hne (hslash hfront)] at hrest
  have hpath : "/".intercalate names = "/".intercalate front ++ "/" ++ String.ofList rest :=
    String.toList_inj.1 (by simp [← hrest])
  have hpieces := congrArg Path.pieces hpath
  rw [Path.pieces_append_slash, Path.pieces_intercalate hnonempty (hslash hnames),
    Path.pieces_intercalate hne (hslash hfront)] at hpieces
  have hprefix : front.map String.toList <+: names.map String.toList := ⟨_, hpieces.symm⟩
  simpa [Function.comp_def] using hprefix.map String.ofList

/-- **What a pattern matches lies below the directory in front of its first wildcard**, if this directory
is named and no character of its name is escaped. -/
theorem frontNames_prefix_of_accepts (hpieces : ∀ piece ∈ Path.pieces pattern, IsName piece)
    (hwild : hasWildcard pattern = true) (hfront : frontNames pattern ≠ [])
    (hescape : ∀ n ∈ frontNames pattern, '\\' ∉ n.toList) {g : Glob}
    (hread : Selection.pattern? pattern = some g) (hnames : ∀ n ∈ names, IsName n.toList)
    (h : g.accepts ("/".intercalate names) = true) : frontNames pattern <+: names := by
  obtain ⟨rest, hpattern⟩ := exists_toList_eq_front hwild hfront
  exact prefix_of_intercalate_prefix (isName_of_mem_frontNames hpieces) hfront hnames
    (Glob.prefix_of_accepts hpattern (isPlain_of_mem_front hescape) hread h)

/-! ## What is found below the directory -/

namespace World

variable {w : World} {f : Found}

/-- A file at a place below the working directory, given by the names on the way to it. -/
def HasFile (w : World) (names : List String) : Prop :=
  (w.files.file? (w.workingDirectory ++ names)).isSome = true

/-- Whether there is such a file can be decided by looking it up. -/
instance (w : World) (names : List String) : Decidable (w.HasFile names) :=
  inferInstanceAs (Decidable (_ = true))

/-- The names on the way to a file are names, if all entries of directories are named properly. -/
lemma isName_of_hasFile (hproper : w.files.isProper = true) (h : w.HasFile names) :
    ∀ n ∈ names, IsName n.toList := fun n hn =>
  FileTree.isName_of_file? hproper h n (List.mem_append_right _ hn)

/-- **What is found below a directory with a name**, where nothing is left out: the files at all
places behind the one that the names lead to, each at the path that goes on from there. -/
lemma mem_walk_names_iff (hproper : w.files.isProper = true) (hignore : w.files.hasIgnoreFile = false)
    (hne : front ≠ []) (hfront : ∀ n ∈ front, IsName n.toList) :
    f ∈ w.walk ("/".intercalate front) ↔
      ∃ names, w.HasFile (front ++ names) ∧ f = Found.below ⟨"/".intercalate front, ""⟩ names := by
  rw [mem_walk_iff hproper]
  constructor
  · rintro ⟨place, t, hplace, names, hfile, -, rfl⟩
    obtain ⟨rfl, -⟩ := (w.place?_intercalate_iff hne hfront).1 hplace
    exact ⟨names, by rwa [HasFile, ← List.append_assoc], rfl⟩
  · rintro ⟨names, hfile, rfl⟩
    rw [HasFile, ← List.append_assoc] at hfile
    obtain ⟨t, ht, -⟩ := FileTree.exists_at?_of_file? hfile
    exact ⟨_, t, (w.place?_intercalate_iff hne hfront).2 ⟨rfl, ht⟩, names, hfile,
      FileTree.isKept_of_hasIgnoreFile hignore _ t names, rfl⟩

/-- **What is found below a dot**, where nothing is left out: all files below the working directory,
each at its path with a dot in front.

**Proof sketch.** The dot leads to the working directory, and what is found there is known from
walking. A file is not the working directory itself, so it has a name at least. -/
lemma mem_walk_dot_iff (hproper : w.files.isProper = true) (hignore : w.files.hasIgnoreFile = false) :
    f ∈ w.walk "." ↔ ∃ names, names ≠ [] ∧ w.HasFile names ∧ f = Found.below ⟨".", ""⟩ names := by
  rw [mem_walk_iff hproper]
  constructor
  · rintro ⟨place, t, hplace, names, hfile, -, rfl⟩
    obtain ⟨rfl, ht, hdirectory⟩ := w.place?_dot_iff.1 hplace
    refine ⟨names, ?_, hfile, rfl⟩
    rintro rfl
    rw [FileTree.file?_append, ht, Option.bind_some] at hfile
    cases t with
    | file contents => exact nomatch hdirectory
    | directory entries => simp [FileTree.file?, FileTree.contents?] at hfile
  · rintro ⟨names, hne, hfile, rfl⟩
    obtain ⟨t, ht, hbelow⟩ := FileTree.exists_at?_of_file? hfile
    obtain ⟨name, rest, rfl⟩ := List.exists_cons_of_ne_nil hne
    have hdirectory : t.isDirectory = true := by
      cases t with
      | file contents => simp [FileTree.file?_cons] at hbelow
      | directory entries => rfl
    exact ⟨_, t, w.place?_dot_iff.2 ⟨rfl, ht, hdirectory⟩, name :: rest, hfile,
      FileTree.isKept_of_hasIgnoreFile hignore _ t _, rfl⟩

/-! ## The files that a pattern stands for -/

/-- Locating a source gives exactly the paths that are described, and fails exactly if there are
none. Nothing restricts what is found. -/
def Selects (w : World) (source : String) (described : String → Prop) : Prop :=
  match w.locate ⟨[], []⟩ [source] with
  | .ok files => files ≠ [] ∧ ∀ p, p ∈ files ↔ described p
  | .error e => e = .noFiles source ∧ ∀ p, ¬ described p

/-- Paths may be described in another way. -/
lemma Selects.congr {source : String} {described described' : String → Prop}
    (h : w.Selects source described) (hiff : ∀ p, described p ↔ described' p) :
    w.Selects source described' := by
  rwa [← funext fun p => propext (hiff p)]

/-- A source selects what it stands for, if it stands for no path in two spellings. Otherwise only
one of the spellings would be listed. -/
lemma selects_of_contributes {source : String} {described : String → Prop}
    (hknown : ¬ w.IsUnknown source) (hspelling : ∀ p q, described p → described q → Same p q → p = q)
    (h : ∀ p, w.Contributes ⟨[], []⟩ source p ↔ described p) : w.Selects source described := by
  unfold Selects
  cases hlocate : w.locate ⟨[], []⟩ [source] with
  | ok files =>
    obtain ⟨-, hne, paths, rfl, hmem⟩ := exists_of_locate_eq_ok hlocate
    simp only [List.mem_singleton, exists_eq_left, h] at hmem
    refine ⟨hne, fun p => ?_⟩
    rw [mem_sortedPaths_iff fun p hp q hq => hspelling p q ((hmem p).1 hp) ((hmem q).1 hq), hmem]
  | error e =>
    rcases of_locate_eq_error hlocate with ⟨other, hother, hunknown⟩ | ⟨he, hnone⟩
    · exact absurd (List.mem_singleton.1 hother ▸ hunknown) hknown
    · exact ⟨he, fun p hp => hnone source (List.mem_singleton_self _) p ((h p).2 hp)⟩

/-- What a pattern stands for, where nothing restricts it. -/
lemma contributes_pattern_iff {g : Glob} (hwild : hasWildcard pattern = true)
    (hread : Selection.pattern? pattern = some g) {p : String} :
    w.Contributes ⟨[], []⟩ pattern p ↔ ∃ f ∈ w.walk (literalFront pattern),
      isSource f.path = true ∧ g.accepts f.path = true ∧ f.path = p := by
  have htakes : ∀ f : Found, Selection.takes ⟨[], []⟩ f = isSource f.path := fun f => by
    cases hname : Path.fileName? f.path <;> simp [Selection.takes, Globs.accept, hname]
  simp [Contributes, hwild, hread, htakes]

/-- A pattern selects the files below its directory that it matches, at paths that begin with the
directory. Which files there are is a matter of the directory, so that this is said for any
description of them. -/
lemma selects_below {g : Glob} (hwild : hasWildcard pattern = true)
    (hread : Selection.pattern? pattern = some g) (hroot : literalFront pattern ≠ "")
    {places : List String → Prop} (hplaces : ∀ names, places names → ∀ n ∈ names, IsName n.toList)
    (hwalk : ∀ f, f ∈ w.walk (literalFront pattern) ↔
      ∃ names, places names ∧ f = Found.below ⟨literalFront pattern, ""⟩ names)
    {described : String → Prop}
    (hdescribed : ∀ p, described p ↔ ∃ names, places names ∧
      p = names.foldl joinName (literalFront pattern) ∧ isSource p = true ∧ g.accepts p = true) :
    w.Selects pattern described := by
  refine selects_of_contributes (by simp [IsUnknown, hwild, hread]) (fun p q hp hq hsame => ?_) fun p => ?_
  · obtain ⟨names, hnames, rfl, -⟩ := (hdescribed p).1 hp
    obtain ⟨others, hothers, rfl, -⟩ := (hdescribed q).1 hq
    rw [eq_of_same_foldl_joinName hroot (hplaces _ hnames) (hplaces _ hothers) hsame]
  · rw [contributes_pattern_iff hwild hread, hdescribed]
    constructor
    · rintro ⟨f, hf, hsource, haccepts, rfl⟩
      obtain ⟨names, hnames, rfl⟩ := (hwalk f).1 hf
      exact ⟨names, hnames, Found.path_below _ _, hsource, haccepts⟩
    · rintro ⟨names, hnames, rfl, hsource, haccepts⟩
      have hpath := Found.path_below ⟨literalFront pattern, ""⟩ names
      exact ⟨_, (hwalk _).2 ⟨names, hnames, rfl⟩, by rwa [hpath], by rwa [hpath], hpath⟩

section Selected

variable {g : Glob} (hproper : w.files.isProper = true) (hignore : w.files.hasIgnoreFile = false)
  (hpieces : ∀ piece ∈ Path.pieces pattern, IsName piece) (hwild : hasWildcard pattern = true)
  (hread : Selection.pattern? pattern = some g)

include hproper hignore hpieces hwild hread

/-- What a pattern selects that names a directory in front of its first wildcard.

**Proof sketch.** What is walked are the places behind the named directory, and the path of a file
begins with the same names, so that it is the path from the working directory. -/
lemma selects_below_names (hne : frontNames pattern ≠ []) :
    w.Selects pattern fun p => ∃ names, w.HasFile names ∧ frontNames pattern <+: names ∧
      p = "/".intercalate names ∧ isSource p = true ∧ g.accepts p = true := by
  have hfront := isName_of_mem_frontNames hpieces
  have hroot : literalFront pattern = "/".intercalate (frontNames pattern) := by
    rw [literalFront_eq hpieces, if_neg hne]
  have hplaces : ∀ names, w.HasFile (frontNames pattern ++ names) → ∀ n ∈ names, IsName n.toList :=
    fun names hfile n hn => isName_of_hasFile hproper hfile n (List.mem_append_right _ hn)
  have hjoin : ∀ names, w.HasFile (frontNames pattern ++ names) →
      names.foldl joinName (literalFront pattern) = "/".intercalate (frontNames pattern ++ names) :=
    fun names hfile => by rw [hroot, foldl_joinName_intercalate hfront hne (hplaces names hfile)]
  refine selects_below hwild hread (hroot ▸ intercalate_ne_empty hne hfront) hplaces (fun f => ?_)
    fun p => ?_
  · rw [hroot]
    exact mem_walk_names_iff hproper hignore hne hfront
  · constructor
    · rintro ⟨-, hfile, ⟨names, rfl⟩, rfl, hselected⟩
      exact ⟨names, hfile, (hjoin names hfile).symm, hselected⟩
    · rintro ⟨names, hfile, rfl, hselected⟩
      exact ⟨_, hfile, List.prefix_append _ _, hjoin names hfile, hselected⟩

/-- What a pattern selects whose first name has a wildcard.

**Proof sketch.** What is walked is the working directory, under the path of a dot. All paths have
the dot in front, and it is these that the pattern is compared with. -/
lemma selects_below_dot (hnil : frontNames pattern = []) :
    w.Selects pattern fun p => ∃ names, w.HasFile names ∧ p = "./" ++ "/".intercalate names ∧
      isSource p = true ∧ g.accepts p = true := by
  have hroot : literalFront pattern = "." := by rw [literalFront_eq hpieces, if_pos hnil]
  have hjoin : ∀ names, names ≠ [] → w.HasFile names →
      names.foldl joinName (literalFront pattern) = "./" ++ "/".intercalate names := by
    intro names hne hfile
    obtain ⟨first, rest, rfl⟩ := List.exists_cons_of_ne_nil hne
    rw [hroot, Path.foldl_joinName_eq (by decide) (isName_of_hasFile hproper hfile),
      String.intercalate_cons_cons]
    rfl
  have hplaces : ∀ names, names ≠ [] ∧ w.HasFile names → ∀ n ∈ names, IsName n.toList :=
    fun names hnames => isName_of_hasFile hproper hnames.2
  refine selects_below hwild hread (hroot ▸ by decide) hplaces (fun f => ?_) fun p => ?_
  · simp only [hroot, and_assoc]
    exact mem_walk_dot_iff hproper hignore
  · constructor
    · rintro ⟨names, hfile, rfl, hsource, haccepts⟩
      have hne : names ≠ [] := by
        rintro rfl
        exact absurd hsource (by decide +kernel)
      exact ⟨names, ⟨hne, hfile⟩, (hjoin names hne hfile).symm, hsource, haccepts⟩
    · rintro ⟨names, ⟨hne, hfile⟩, rfl, hselected⟩
      exact ⟨names, hfile, hjoin names hne hfile, hselected⟩

/-- **The files that a pattern stands for.** If it names a directory in front of its first wildcard, they
are the source files whose path from the working directory it matches, all of which are below this
directory; where a character of the name is escaped, only those that are below count. If its first name
has a wildcard, they are the source files whose path with a dot in front it matches.

**Proof sketch.** Walking finds exactly the files below the directory, each at one path, which begins with
the directory. What a pattern matches begins with the plain characters in front of its first wildcard. -/
theorem pattern_selects :
    (frontNames pattern ≠ [] → (∀ n ∈ frontNames pattern, '\\' ∉ n.toList) →
      w.Selects pattern fun p => ∃ names, w.HasFile names ∧ p = "/".intercalate names ∧
        isSource p = true ∧ g.accepts p = true) ∧
    (frontNames pattern ≠ [] →
      w.Selects pattern fun p => ∃ names, w.HasFile names ∧ frontNames pattern <+: names ∧
        p = "/".intercalate names ∧ isSource p = true ∧ g.accepts p = true) ∧
    (frontNames pattern = [] →
      w.Selects pattern fun p => ∃ names, w.HasFile names ∧ p = "./" ++ "/".intercalate names ∧
        isSource p = true ∧ g.accepts p = true) := by
  refine ⟨fun hne hescape => ?_, selects_below_names hproper hignore hpieces hwild hread,
    selects_below_dot hproper hignore hpieces hwild hread⟩
  refine (selects_below_names hproper hignore hpieces hwild hread hne).congr fun p => ?_
  constructor
  · rintro ⟨names, hfile, -, hselected⟩
    exact ⟨names, hfile, hselected⟩
  · rintro ⟨names, hfile, rfl, hsource, haccepts⟩
    exact ⟨names, hfile, frontNames_prefix_of_accepts hpieces hwild hne hescape hread
      (isName_of_hasFile hproper hfile) haccepts, rfl, hsource, haccepts⟩

end Selected

/-- A pattern that names a directory, and goes on in it at any depth. A file below that is no source
file is not located. -/
theorem pattern_selects_at_any_depth :
    let w : World := { files := .directory [("src", .directory [("a.rs", .file "".toUTF8),
      ("b", .directory [("c.rs", .file "".toUTF8)]), ("notes.md", .file "".toUTF8)])] }
    ∃ g, Selection.pattern? "src/**/*.rs" = some g ∧
      (w.Selects "src/**/*.rs" fun p => ∃ names, w.HasFile names ∧ p = "/".intercalate names ∧
        isSource p = true ∧ g.accepts p = true) ∧
      w.locate ⟨[], []⟩ ["src/**/*.rs"] = .ok ["src/a.rs", "src/b/c.rs"] := by
  intro w
  obtain ⟨g, hread⟩ := Option.isSome_iff_exists.1
    (show (Selection.pattern? "src/**/*.rs").isSome = true by decide +kernel)
  have hpieces : ∀ piece ∈ Path.pieces "src/**/*.rs", IsName piece := by decide +kernel
  have hfront : frontNames "src/**/*.rs" = ["src"] := by decide +kernel
  have hproper : w.files.isProper = true := by decide +kernel
  have hignore : w.files.hasIgnoreFile = false := by decide +kernel
  have hselects := (pattern_selects hproper hignore hpieces (by decide +kernel) hread).1
    (by simp [hfront]) (by simp [hfront])
  have hfound : ["src/**/*.rs"].mapM (w.locateSource ⟨[], []⟩) = .ok [["src/a.rs", "src/b/c.rs"]] := by
    decide +kernel
  have hsorted : sortedPaths ["src/a.rs", "src/b/c.rs"] = ["src/a.rs", "src/b/c.rs"] :=
    sortedPaths_eq (by decide +kernel) (by decide +kernel) fun _ => Iff.rfl
  refine ⟨g, hread, hselects, ?_⟩
  rw [locate_eq, hfound]
  simp [Except.bind, hsorted]

/-- A pattern whose first name has a wildcard does not find the file in the working directory that it
matches. -/
theorem wildcard_in_first_name_misses :
    let w : World := { files := .directory [("ab.rs", .file "".toUTF8)] }
    w.locate ⟨[], []⟩ ["a*.rs"] = .error (.noFiles "a*.rs") ∧ w.HasFile ["ab.rs"] ∧
      isSource "ab.rs" = true ∧
      ∃ g, Selection.pattern? "a*.rs" = some g ∧ g.accepts ("/".intercalate ["ab.rs"]) = true := by
  intro w
  have hmatches : (Selection.pattern? "a*.rs").any (fun g => g.accepts "ab.rs") = true := by
    decide +kernel
  obtain ⟨g, hread, haccepts⟩ := (Option.any_eq_true _ _).1 hmatches
  exact ⟨by decide +kernel, by decide +kernel, by decide +kernel, g, hread, haccepts⟩

end World

end DepAtlas
