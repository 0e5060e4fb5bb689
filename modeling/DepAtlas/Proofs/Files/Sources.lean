import DepAtlas.Proofs.Files.Walk
import Mathlib.Data.Fintype.Card
import Mathlib.Data.List.Pairwise

set_option relaxedAutoImplicit false
set_option autoImplicit false

/-!
# Sources as sets of files

What a list of sources stands for is the union of what each of them stands for alone, in path order.
Neither the order of the sources nor their repetition counts. Two spellings of one path count as one path,
but not a path with a leading dot and the path without it.

## Main definitions

* `DepAtlas.World.Contributes` — what one source stands for.
* `DepAtlas.World.IsUnknown` — a source that cannot stand for anything.
* `DepAtlas.World.sourceFiles` — the source files of some sources under patterns that restrict them.
* `DepAtlas.originOf` — the path that what a source stands for begins with.

## Main results

* `DepAtlas.World.locating_is_union` — locating is a union of sources that is monotone in the patterns.
* `DepAtlas.World.located_twice_iff` — a file is located twice exactly if sources with a leading dot and
  sources without one stand for it.
-/

namespace DepAtlas

/-! ## Lists of results -/

section Results

variable {α β ε : Type} {f : α → Except ε β} {xs : List α} {ys : List β}

/-- If a function gives a value for every element of a list, these are the values in the same order.

**Proof sketch.** Induction along the list, with the first failure ending it. -/
lemma forall₂_of_mapM_eq_ok (h : xs.mapM f = .ok ys) : List.Forall₂ (fun x y => f x = .ok y) xs ys := by
  induction xs generalizing ys with
  | nil =>
    obtain rfl : [] = ys := Except.ok.inj h
    exact .nil
  | cons x xs ih =>
    rw [List.mapM_cons] at h
    cases hx : f x with
    | error e => simp [hx, bind, Except.bind] at h
    | ok y =>
      cases hxs : xs.mapM f with
      | error e => simp [hx, hxs, bind, Except.bind] at h
      | ok rest =>
        obtain rfl : y :: rest = ys := by simpa [hx, hxs, bind, Except.bind, pure, Except.pure] using h
        exact .cons hx (ih hxs)

/-- If a list is given up with an error, the function gave it for one of the elements.

**Proof sketch.** Induction along the list: the first element gives the error, or the others do. -/
lemma exists_of_mapM_eq_error {e : ε} (h : xs.mapM f = .error e) : ∃ x ∈ xs, f x = .error e := by
  induction xs with
  | nil => exact nomatch h
  | cons x xs ih =>
    rw [List.mapM_cons] at h
    cases hx : f x with
    | error e' =>
      obtain rfl : e' = e := by simpa [hx, bind, Except.bind] using h
      exact ⟨x, List.mem_cons_self, hx⟩
    | ok y =>
      cases hxs : xs.mapM f with
      | error e' =>
        obtain rfl : e' = e := by simpa [hx, hxs, bind, Except.bind] using h
        obtain ⟨x', hx', hf⟩ := ih hxs
        exact ⟨x', List.mem_cons_of_mem _ hx', hf⟩
      | ok rest => simp [hx, hxs, bind, Except.bind, pure, Except.pure] at h

/-- A partial function that is defined on all of a list gives the list of its values, and otherwise
none. -/
lemma mapM_eq_ite (g : α → Option β) (xs : List α) :
    xs.mapM g = if ∀ x ∈ xs, g x ≠ none then some (xs.filterMap g) else none := by
  induction xs with
  | nil => simp
  | cons x xs ih =>
    rw [List.mapM_cons, ih]
    cases hx : g x with
    | none => exact (if_neg fun h => h x List.mem_cons_self hx).symm
    | some y =>
      have hall : (∀ u ∈ x :: xs, g u ≠ none) ↔ ∀ u ∈ xs, g u ≠ none := by simp [hx]
      rw [List.filterMap_cons_some hx]
      simp only [hall]
      split <;> rfl

end Results

/-! ## Patterns that restrict -/

namespace Selection

/-- The pattern that a text is the notation of, where it stands by itself. The patterns that
restrict what is found are read like this, and so are those among the sources. -/
def pattern? (text : String) : Option Glob :=
  Glob.read? Glob.standalone text

/-- The selection of two lists of patterns, without those that cannot be read. -/
def ofTexts (includes excludes : List String) : Selection :=
  ⟨includes.filterMap pattern?, excludes.filterMap pattern?⟩

/-- Restricting patterns are read if all of them can be, and one that cannot is an error, wherever
it stands among the others. -/
lemma readGlobs?_eq (texts : List String) :
    readGlobs? texts = if ∀ t ∈ texts, pattern? t ≠ none then .ok (texts.filterMap pattern?)
      else .error .badGlob := by
  have hmapM : texts.mapM (Glob.read? Glob.standalone) =
      if ∀ t ∈ texts, pattern? t ≠ none then some (texts.filterMap pattern?) else none :=
    mapM_eq_ite pattern? texts
  rw [readGlobs?, hmapM]
  split <;> simp_all

/-- Patterns restrict what is found if all of them can be read. -/
lemma ofPatterns?_eq (includes excludes : List String) :
    ofPatterns? includes excludes =
      if ∀ t ∈ includes ++ excludes, pattern? t ≠ none then .ok (ofTexts includes excludes)
      else .error .badGlob := by
  simp only [ofPatterns?, readGlobs?_eq, List.forall_mem_append]
  split <;> split <;> simp_all [bind, Except.bind, pure, Except.pure, ofTexts]

end Selection

namespace Path

/-- A path is in a list, in some spelling. -/
def Among (p : String) (paths : List String) : Prop :=
  ∃ q ∈ paths, Same q p

end Path

/-- The path that what a source stands for begins with. -/
def originOf (source : String) : String :=
  if hasWildcard source then literalFront source else source

/-! ## What a source stands for -/

namespace World

open DepAtlas.Path (Same Among)

variable {w : World} {s : Selection} {source p : String} {sources files : List String}

/-- What one source stands for: a pattern for the files below the directory in front of its first wildcard
that it matches, a directory for the files below it, and a file for itself. Only source files count, and
only those that are taken. -/
def Contributes (w : World) (s : Selection) (source p : String) : Prop :=
  if hasWildcard source then
    ∃ g, Selection.pattern? source = some g ∧
      ∃ f ∈ w.walk (literalFront source), s.takes f = true ∧ g.accepts f.path = true ∧ f.path = p
  else if w.isDirectory source then ∃ f ∈ w.walk source, s.takes f = true ∧ f.path = p
  else w.isFile source = true ∧ isSource source = true ∧ p = source

/-- A source that cannot stand for anything: a pattern that cannot be read, or neither a pattern nor
a directory nor a file. Whether something is found for it does not matter here. -/
def IsUnknown (w : World) (source : String) : Prop :=
  if hasWildcard source then Selection.pattern? source = none
  else w.isDirectory source = false ∧ w.isFile source = false

/-- **What a source stands for is found, if it can stand for anything.**

**Proof sketch.** A source with wildcards is a pattern, whatever is in the file tree; the others are
told apart by what they lead to, with directories first. -/
lemma locateSource_spec (w : World) (s : Selection) (source : String) :
    match w.locateSource s source with
    | .ok found => ¬ w.IsUnknown source ∧ ∀ p, p ∈ found ↔ w.Contributes s source p
    | .error _ => w.IsUnknown source := by
  by_cases hwild : hasWildcard source = true
  · simp only [locateSource, IsUnknown, Contributes, hwild, if_true]
    rw [Selection.readGlobs?_eq]
    cases hread : Selection.pattern? source with
    | none => simp [hread, bind, Except.bind]
    | some g =>
      simp [hread, bind, Except.bind, pure, Except.pure, Globs.accept, and_assoc]
  · by_cases hdirectory : w.isDirectory source = true
    · simp [locateSource, IsUnknown, Contributes, hwild, hdirectory, and_assoc]
    · by_cases hfile : w.isFile source = true
      · by_cases hsource : isSource source = true <;>
          simp [locateSource, IsUnknown, Contributes, hwild, hdirectory, hfile, hsource]
      · simp [locateSource, IsUnknown, hwild, hdirectory, hfile]

/-- A source file has the extension of source files, whether it was named itself or found below a
directory or by a pattern. -/
lemma isSource_of_contributes (h : w.Contributes s source p) : isSource p = true := by
  have htakes : ∀ f : Found, s.takes f = true → isSource f.path = true := fun f hf => by
    simp only [Selection.takes, Bool.and_eq_true] at hf
    exact hf.1.1
  unfold Contributes at h
  split at h
  · obtain ⟨g, -, f, -, hf, -, rfl⟩ := h
    exact htakes f hf
  · split at h
    · obtain ⟨f, -, hf, rfl⟩ := h
      exact htakes f hf
    · obtain ⟨-, hsource, rfl⟩ := h
      exact hsource

/-- If something is found for each of some sources, each can stand for something, and it is what they stand
for. -/
lemma known_and_mem_flatten_iff {found : List (List String)}
    (h : List.Forall₂ (fun source paths => w.locateSource s source = .ok paths) sources found) :
    (∀ source ∈ sources, ¬ w.IsUnknown source) ∧
      ∀ p, p ∈ found.flatten ↔ ∃ source ∈ sources, w.Contributes s source p := by
  induction h with
  | nil => simp
  | @cons source paths sources found hsource _ ih =>
    have hspec := w.locateSource_spec s source
    rw [hsource] at hspec
    refine ⟨List.forall_mem_cons.2 ⟨hspec.1, ih.1⟩, fun p => ?_⟩
    rw [List.flatten_cons, List.mem_append, hspec.2, ih.2, List.exists_mem_cons_iff]

/-- What is located is in order what is found, if something is. -/
lemma locate_eq (w : World) (s : Selection) (sources : List String) :
    w.locate s sources = (sources.mapM (w.locateSource s)).bind fun found =>
      if sortedPaths found.flatten = [] then .error (.noFiles (sources.headD ""))
      else .ok (sortedPaths found.flatten) := by
  refine congrArg (Except.bind _) (funext fun found => ?_)
  unfold sortedPaths
  dsimp only
  split
  · next hnil => rw [hnil, if_pos rfl]
  · next hne => exact (if_neg hne).symm

/-- **What is located is the union of what the sources stand for, in order.**

**Proof sketch.** Sources are located one after the other, and what is found for them is put in one
list before it is sorted. So neither the order of the sources nor repetitions among them matter for
what is in it. -/
lemma exists_of_locate_eq_ok (h : w.locate s sources = .ok files) :
    (∀ source ∈ sources, ¬ w.IsUnknown source) ∧ files ≠ [] ∧ ∃ paths, files = sortedPaths paths ∧
      ∀ p, p ∈ paths ↔ ∃ source ∈ sources, w.Contributes s source p := by
  rw [locate_eq] at h
  cases hfound : sources.mapM (w.locateSource s) with
  | error e => simp [hfound, Except.bind] at h
  | ok found =>
    obtain ⟨hknown, hmem⟩ := known_and_mem_flatten_iff (forall₂_of_mapM_eq_ok hfound)
    simp only [hfound, Except.bind] at h
    split at h
    · exact nomatch h
    · next hne =>
      obtain rfl := Except.ok.inj h
      exact ⟨hknown, hne, found.flatten, rfl, hmem⟩

/-- **Locating fails if a source cannot stand for anything, or if there is nothing to find.**

**Proof sketch.** An error comes from one of the sources, which is then unknown, or from a list that
is empty although all sources are known. Sorting loses no path, so nothing was found for any of
them. -/
lemma of_locate_eq_error {e : LocateError} (h : w.locate s sources = .error e) :
    (∃ source ∈ sources, w.IsUnknown source) ∨ e = .noFiles (sources.headD "") ∧
      ∀ source ∈ sources, ∀ p, ¬ w.Contributes s source p := by
  rw [locate_eq] at h
  cases hfound : sources.mapM (w.locateSource s) with
  | error e =>
    obtain ⟨source, hsource, hfails⟩ := exists_of_mapM_eq_error hfound
    have hspec := w.locateSource_spec s source
    rw [hfails] at hspec
    exact .inl ⟨source, hsource, hspec⟩
  | ok found =>
    obtain ⟨-, hmem⟩ := known_and_mem_flatten_iff (forall₂_of_mapM_eq_ok hfound)
    simp only [hfound, Except.bind] at h
    split at h
    · next hnil =>
      obtain rfl := Except.error.inj h
      rw [sortedPaths_eq_nil_iff] at hnil
      exact .inr ⟨rfl, fun source hsource p hp => by
        simpa [hnil] using (hmem p).2 ⟨source, hsource, hp⟩⟩
    · exact nomatch h

/-- The source files of some sources under the patterns that restrict them. The patterns are read
before anything is located. -/
def sourceFiles (w : World) (includes excludes sources : List String) :
    Except LocateError (List String) := do
  w.locate (← Selection.ofPatterns? includes excludes) sources

variable {includes excludes : List String}

/-- With patterns that can be read, source files are located under the selection of them. -/
lemma sourceFiles_eq_ok_iff : w.sourceFiles includes excludes sources = .ok files ↔
    (∀ t ∈ includes ++ excludes, Selection.pattern? t ≠ none) ∧
      w.locate (.ofTexts includes excludes) sources = .ok files := by
  rw [sourceFiles, Selection.ofPatterns?_eq]
  split <;> simp_all [bind, Except.bind]

/-- Source files are found where the patterns can be read and each source can stand for something, if
something is found for one of them. -/
lemma exists_sourceFiles_eq_ok (hread : ∀ t ∈ includes ++ excludes, Selection.pattern? t ≠ none)
    (hknown : ∀ source ∈ sources, ¬ w.IsUnknown source) (hsource : source ∈ sources)
    (hp : w.Contributes (.ofTexts includes excludes) source p) :
    ∃ files, w.sourceFiles includes excludes sources = .ok files := by
  cases h : w.locate (.ofTexts includes excludes) sources with
  | ok files => exact ⟨files, sourceFiles_eq_ok_iff.2 ⟨hread, h⟩⟩
  | error e =>
    rcases of_locate_eq_error h with ⟨other, hother, hunknown⟩ | ⟨-, hnone⟩
    · exact absurd hunknown (hknown other hother)
    · exact absurd hp (hnone source hsource p)

/-- What is in the source files is what a source stands for, in some spelling. -/
lemma among_sourceFiles_iff (h : w.sourceFiles includes excludes sources = .ok files) :
    Among p files ↔ ∃ source ∈ sources, ∃ q,
      w.Contributes (.ofTexts includes excludes) source q ∧ Same q p := by
  obtain ⟨-, -, paths, rfl, hmem⟩ := exists_of_locate_eq_ok (sourceFiles_eq_ok_iff.1 h).2
  constructor
  · rintro ⟨q, hq, hqp⟩
    obtain ⟨source, hsource, hcontributes⟩ := (hmem q).1 (mem_of_mem_sortedPaths hq)
    exact ⟨source, hsource, q, hcontributes, hqp⟩
  · rintro ⟨source, hsource, q, hcontributes, hqp⟩
    obtain ⟨r, hr, hrq⟩ := exists_same_mem_sortedPaths ((hmem q).2 ⟨source, hsource, hcontributes⟩)
    exact ⟨r, hr, hrq.trans hqp⟩

/-- Each source that something is found for could have been given alone: what is located is the
union of what is located for the single sources. -/
lemma among_sourceFiles_iff_alone (h : w.sourceFiles includes excludes sources = .ok files) :
    Among p files ↔ ∃ source ∈ sources, ∃ alone,
      w.sourceFiles includes excludes [source] = .ok alone ∧ Among p alone := by
  obtain ⟨hread, hlocate⟩ := sourceFiles_eq_ok_iff.1 h
  obtain ⟨hknown, -⟩ := exists_of_locate_eq_ok hlocate
  rw [among_sourceFiles_iff h]
  refine exists_congr fun source => and_congr_right fun hsource => ?_
  constructor
  · rintro ⟨q, hcontributes, hqp⟩
    obtain ⟨alone, halone⟩ := exists_sourceFiles_eq_ok hread
      (List.forall_mem_singleton.2 (hknown source hsource)) (List.mem_singleton_self _) hcontributes
    exact ⟨alone, halone,
      (among_sourceFiles_iff halone).2 ⟨source, List.mem_singleton_self _, q, hcontributes, hqp⟩⟩
  · rintro ⟨alone, halone, hp⟩
    obtain ⟨other, hother, q, hcontributes, hqp⟩ := (among_sourceFiles_iff halone).1 hp
    obtain rfl := List.mem_singleton.1 hother
    exact ⟨q, hcontributes, hqp⟩

/-- When no source files are found: a pattern cannot be read, or a source cannot stand for anything,
or there is nothing to find for any of them.

**Proof sketch.** In all other cases the source files are known to exist, and in each of these the
success of locating would give a contradiction. -/
lemma sourceFiles_eq_error_iff : (∃ e, w.sourceFiles includes excludes sources = .error e) ↔
    (∃ t ∈ includes ++ excludes, Selection.pattern? t = none) ∨
      (∃ source ∈ sources, w.IsUnknown source) ∨
      ∀ source ∈ sources, ∀ p, ¬ w.Contributes (.ofTexts includes excludes) source p := by
  cases h : w.sourceFiles includes excludes sources with
  | ok files =>
    obtain ⟨hread, hlocate⟩ := sourceFiles_eq_ok_iff.1 h
    obtain ⟨hknown, hne, paths, rfl, hmem⟩ := exists_of_locate_eq_ok hlocate
    obtain ⟨p, hp⟩ := List.exists_mem_of_ne_nil _ hne
    obtain ⟨source, hsource, hcontributes⟩ := (hmem p).1 (mem_of_mem_sortedPaths hp)
    refine ⟨fun ⟨_, he⟩ => (nomatch he), ?_⟩
    rintro (⟨t, ht, hnone⟩ | ⟨other, hother, hunknown⟩ | hnone)
    · exact absurd hnone (hread t ht)
    · exact absurd hunknown (hknown other hother)
    · exact absurd hcontributes (hnone source hsource p)
  | error e =>
    refine ⟨fun _ => ?_, fun _ => ⟨e, rfl⟩⟩
    by_contra hall
    simp only [not_or, not_exists, not_and, not_forall, not_not] at hall
    obtain ⟨hread, hknown, source, hsource, p, hcontributes⟩ := hall
    obtain ⟨files, hfiles⟩ := exists_sourceFiles_eq_ok hread hknown hsource hcontributes
    exact nomatch h.symm.trans hfiles

/-- The same sources in another order, or more often, have the same source files. If no path is
there in two spellings, they are also spelled the same. -/
lemma sourceFiles_congr {sources' : List String} (hsources : ∀ x, x ∈ sources' ↔ x ∈ sources)
    (h : w.sourceFiles includes excludes sources = .ok files) :
    ∃ files', w.sourceFiles includes excludes sources' = .ok files' ∧
      files'.map Path.components = files.map Path.components ∧
      ((∀ x ∈ sources, ∀ y ∈ sources, ∀ p q, w.Contributes (.ofTexts includes excludes) x p →
        w.Contributes (.ofTexts includes excludes) y q → Same p q → p = q) → files' = files) := by
  obtain ⟨hread, hlocate⟩ := sourceFiles_eq_ok_iff.1 h
  obtain ⟨hknown, hne, paths, rfl, hmem⟩ := exists_of_locate_eq_ok hlocate
  obtain ⟨p, hp⟩ := List.exists_mem_of_ne_nil _ hne
  obtain ⟨source, hsource, hcontributes⟩ := (hmem p).1 (mem_of_mem_sortedPaths hp)
  obtain ⟨files', hfiles'⟩ := exists_sourceFiles_eq_ok hread
    (fun x hx => hknown x ((hsources x).1 hx)) ((hsources source).2 hsource) hcontributes
  obtain ⟨-, -, paths', rfl, hmem'⟩ := exists_of_locate_eq_ok (sourceFiles_eq_ok_iff.1 hfiles').2
  have hsame : ∀ q, q ∈ paths' ↔ q ∈ paths := fun q => by simp only [hmem, hmem', hsources]
  have hto : ∀ q ∈ paths', ∃ r ∈ paths, Same r q := fun q hq => ⟨q, (hsame q).1 hq, .refl q⟩
  have hfrom : ∀ q ∈ paths, ∃ r ∈ paths', Same r q := fun q hq => ⟨q, (hsame q).2 hq, .refl q⟩
  refine ⟨_, hfiles', map_components_sortedPaths_congr hto hfrom, fun hspelling => ?_⟩
  refine sortedPaths_congr hto hfrom fun q hq r hr hqr => ?_
  obtain ⟨x, hx, hq⟩ := (hmem' q).1 hq
  obtain ⟨y, hy, hr⟩ := (hmem r).1 hr
  exact hspelling x ((hsources x).1 hx) y hy q r hq hr hqr

/-! ## More patterns -/

/-- If more files are taken, a source stands for more. A file that is named itself is taken in any
case. -/
lemma Contributes.mono {s' : Selection} (htakes : ∀ f, s.takes f = true → s'.takes f = true)
    (h : w.Contributes s source p) : w.Contributes s' source p := by
  unfold Contributes at h ⊢
  split
  · next hwild =>
    rw [if_pos hwild] at h
    obtain ⟨g, hg, f, hf, htaken, hrest⟩ := h
    exact ⟨g, hg, f, hf, htakes f htaken, hrest⟩
  · next hwild =>
    rw [if_neg hwild] at h
    split
    · next hdirectory =>
      rw [if_pos hdirectory] at h
      obtain ⟨f, hf, htaken, hrest⟩ := h
      exact ⟨f, hf, htakes f htaken, hrest⟩
    · next hdirectory => rwa [if_neg hdirectory] at h

/-- If more files are taken, none goes, and locating does not begin to fail.

**Proof sketch.** The sources are the same and each stands for more than before, so there is still
something to find. -/
lemma exists_sourceFiles_of_takes {includes' excludes' : List String}
    (h : w.sourceFiles includes excludes sources = .ok files)
    (hread : ∀ t ∈ includes' ++ excludes', Selection.pattern? t ≠ none)
    (htakes : ∀ f, (Selection.ofTexts includes excludes).takes f = true →
      (Selection.ofTexts includes' excludes').takes f = true) :
    ∃ more, w.sourceFiles includes' excludes' sources = .ok more ∧ ∀ p ∈ files, Among p more := by
  obtain ⟨-, hlocate⟩ := sourceFiles_eq_ok_iff.1 h
  obtain ⟨hknown, hne, paths, hfiles, hmem⟩ := exists_of_locate_eq_ok hlocate
  have hcontributes : ∀ p ∈ files, ∃ source ∈ sources,
      w.Contributes (.ofTexts includes' excludes') source p := fun p hp => by
    obtain ⟨source, hsource, hp⟩ := (hmem p).1 (mem_of_mem_sortedPaths (hfiles ▸ hp))
    exact ⟨source, hsource, hp.mono htakes⟩
  obtain ⟨p, hp⟩ := List.exists_mem_of_ne_nil _ hne
  obtain ⟨source, hsource, hp⟩ := hcontributes p hp
  obtain ⟨more, hmore⟩ := exists_sourceFiles_eq_ok hread hknown hsource hp
  refine ⟨more, hmore, fun q hq => (among_sourceFiles_iff hmore).2 ?_⟩
  obtain ⟨source, hsource, hq⟩ := hcontributes q hq
  exact ⟨source, hsource, q, hq, .refl q⟩

end World

namespace Selection

/-- More patterns match more. -/
lemma accept_mono {globs globs' : List Glob} (h : globs ⊆ globs') {path : String}
    (hpath : Globs.accept globs path = true) : Globs.accept globs' path = true := by
  obtain ⟨g, hg, hpath⟩ := List.any_eq_true.1 hpath
  exact List.any_eq_true.2 ⟨g, h hg, hpath⟩

variable {includes excludes others : List Glob} {f : Found}

/-- With fewer patterns that exclude, more files are taken. A file that none of the patterns matches
is matched by none of some of them. -/
lemma takes_of_excludes_subset (hsubset : others ⊆ excludes) (h : takes ⟨includes, excludes⟩ f = true) :
    takes ⟨includes, others⟩ f = true := by
  simp only [takes, Bool.and_eq_true, Bool.not_eq_true', Bool.or_eq_false_iff] at h ⊢
  obtain ⟨⟨hsource, ⟨hrelative, hpath⟩, hname⟩, hincluded⟩ := h
  have hnot : ∀ path, Globs.accept excludes path = false → Globs.accept others path = false :=
    fun path hfalse => Bool.eq_false_iff.2 fun htrue =>
      Bool.eq_false_iff.1 hfalse (accept_mono hsubset htrue)
  refine ⟨⟨hsource, ⟨hnot _ hrelative, hnot _ hpath⟩, ?_⟩, hincluded⟩
  cases hfile : Path.fileName? f.path with
  | none => rfl
  | some name =>
    rw [hfile] at hname
    exact hnot name hname

/-- With more patterns that include, more files are taken, if there was one before. Without any
pattern that includes all files are taken, so the first one takes files away. -/
lemma takes_of_includes_subset (hne : includes ≠ []) (hsubset : includes ⊆ others)
    (h : takes ⟨includes, excludes⟩ f = true) : takes ⟨others, excludes⟩ f = true := by
  simp only [takes, Bool.and_eq_true, Bool.or_eq_true, List.isEmpty_iff, hne, false_or] at h ⊢
  exact ⟨h.1, h.2.imp (fun hrelative => .inr (accept_mono hsubset hrelative)) (accept_mono hsubset)⟩

/-- More texts of patterns give more patterns. -/
lemma filterMap_pattern?_subset {texts texts' : List String} (h : texts ⊆ texts') :
    texts.filterMap pattern? ⊆ texts'.filterMap pattern? := fun g hg => by
  obtain ⟨t, ht, hread⟩ := List.mem_filterMap.1 hg
  exact List.mem_filterMap.2 ⟨t, h ht, hread⟩

end Selection

namespace World

open DepAtlas.Path (Same Among)

/-- **Locating is a union of sources.** It fails exactly if a pattern cannot be read, a source cannot stand
for anything, or there is nothing to find. If not, the paths of source files come strictly increasing, and
they are what the sources stand for, each alone; sources in another order, or given repeatedly, have the
same paths, in the same spelling if none is found in two. Fewer patterns that exclude take no file away,
and neither do more patterns that include, if there was one before. -/
theorem locating_is_union (w : World) (includes excludes sources : List String) :
    ((∃ e, w.sourceFiles includes excludes sources = .error e) ↔
      (∃ t ∈ includes ++ excludes, Selection.pattern? t = none) ∨
      (∃ source ∈ sources, w.IsUnknown source) ∨
      ∀ source ∈ sources, ∀ p, ¬ w.Contributes (.ofTexts includes excludes) source p) ∧
    ∀ files, w.sourceFiles includes excludes sources = .ok files →
      (files.Pairwise fun a b => Path.compare a b = .lt) ∧
      (∀ p ∈ files, Path.extension? p = some "rs") ∧
      (∀ p ∈ files, ∃ source ∈ sources, w.Contributes (.ofTexts includes excludes) source p) ∧
      (∀ p, Among p files ↔ ∃ source ∈ sources, ∃ q,
        w.Contributes (.ofTexts includes excludes) source q ∧ Same q p) ∧
      (∀ p, Among p files ↔ ∃ source ∈ sources, ∃ alone,
        w.sourceFiles includes excludes [source] = .ok alone ∧ Among p alone) ∧
      (∀ sources', (∀ x, x ∈ sources' ↔ x ∈ sources) →
        ∃ files', w.sourceFiles includes excludes sources' = .ok files' ∧
          files'.map Path.components = files.map Path.components ∧
          ((∀ x ∈ sources, ∀ y ∈ sources, ∀ p q, w.Contributes (.ofTexts includes excludes) x p →
            w.Contributes (.ofTexts includes excludes) y q → Same p q → p = q) → files' = files)) ∧
      (∀ fewer, fewer ⊆ excludes →
        ∃ more, w.sourceFiles includes fewer sources = .ok more ∧ ∀ p ∈ files, Among p more) ∧
      ∀ includes', includes ≠ [] → includes ⊆ includes' →
        (∀ t ∈ includes', Selection.pattern? t ≠ none) →
          ∃ more, w.sourceFiles includes' excludes sources = .ok more ∧ ∀ p ∈ files, Among p more := by
  refine ⟨sourceFiles_eq_error_iff, fun files h => ?_⟩
  obtain ⟨hread, hlocate⟩ := sourceFiles_eq_ok_iff.1 h
  obtain ⟨-, -, paths, hfiles, hmem⟩ := exists_of_locate_eq_ok hlocate
  obtain ⟨hincludes, hexcludes⟩ := List.forall_mem_append.1 hread
  have hcontributes : ∀ p ∈ files, ∃ source ∈ sources,
      w.Contributes (.ofTexts includes excludes) source p := fun p hp =>
    (hmem p).1 (mem_of_mem_sortedPaths (hfiles ▸ hp))
  refine ⟨hfiles ▸ pairwise_sortedPaths paths, fun p hp => ?_, hcontributes,
    fun p => among_sourceFiles_iff h, fun p => among_sourceFiles_iff_alone h,
    fun sources' hsources => sourceFiles_congr hsources h, fun fewer hfewer => ?_,
    fun includes' hne hmore hread' => ?_⟩
  · obtain ⟨source, -, hp⟩ := hcontributes p hp
    simpa [isSource] using isSource_of_contributes hp
  · refine exists_sourceFiles_of_takes h
      (List.forall_mem_append.2 ⟨hincludes, fun t ht => hexcludes t (hfewer ht)⟩) fun f => ?_
    exact Selection.takes_of_excludes_subset (Selection.filterMap_pattern?_subset hfewer)
  · refine exists_sourceFiles_of_takes h (List.forall_mem_append.2 ⟨hread', hexcludes⟩) fun f => ?_
    refine Selection.takes_of_includes_subset ?_ (Selection.filterMap_pattern?_subset hmore)
    obtain ⟨t, ht⟩ := List.exists_mem_of_ne_nil _ hne
    obtain ⟨g, hg⟩ := Option.ne_none_iff_exists'.1 (hincludes t ht)
    exact List.ne_nil_of_mem (List.mem_filterMap.2 ⟨t, ht, hg⟩)

/-- A directory and a pattern that overlap, with a pattern of each kind that restricts. The pattern starts
at the root of all files, so its files are listed under their full paths. -/
theorem locating_overlapping_sources :
    let w : World := { workingDirectory := ["home"], files := .directory [("home", .directory
      [("src", .directory [("a.rs", .file "".toUTF8), ("b.rs", .file "".toUTF8),
        ("c.rs", .file "".toUTF8), ("notes.md", .file "".toUTF8)])])] }
    let files := ["/home/src/a.rs", "src/a.rs", "src/b.rs"]
    w.sourceFiles ["**/src/*"] ["*/c.rs"] ["src", "src/a*", "/home/src/a*"] = .ok files ∧
      (files.Pairwise fun a b => Path.compare a b = .lt) ∧
      (∃ files', w.sourceFiles ["**/src/*"] ["*/c.rs"] ["/home/src/a*", "src/a*", "src", "src"] =
          .ok files' ∧
        files'.map Path.components = files.map Path.components) ∧
      (∃ more, w.sourceFiles ["**/src/*"] [] ["src", "src/a*", "/home/src/a*"] = .ok more ∧
        ∀ p ∈ files, Among p more) ∧
      ∃ more, w.sourceFiles ["**/src/*", "*.rs"] ["*/c.rs"] ["src", "src/a*", "/home/src/a*"] = .ok more ∧
        ∀ p ∈ files, Among p more := by
  intro w files
  have hfound : ["src", "src/a*", "/home/src/a*"].mapM (w.locateSource (.ofTexts ["**/src/*"] ["*/c.rs"])) =
      .ok [["src/a.rs", "src/b.rs"], ["src/a.rs"], ["/home/src/a.rs"]] := by decide +kernel
  have hsorted : sortedPaths ["src/a.rs", "src/b.rs", "src/a.rs", "/home/src/a.rs"] = files :=
    sortedPaths_eq (by decide +kernel) (by decide +kernel) (by simp [files]; tauto)
  have hread : ∀ t ∈ ["**/src/*", "*.rs", "*/c.rs"], Selection.pattern? t ≠ none := by
    simp only [← Option.isSome_iff_ne_none]
    decide +kernel
  have hok : w.sourceFiles ["**/src/*"] ["*/c.rs"] ["src", "src/a*", "/home/src/a*"] = .ok files := by
    refine sourceFiles_eq_ok_iff.2 ⟨fun t ht => hread t (by simp at ht ⊢; tauto), ?_⟩
    rw [locate_eq, hfound]
    simp [Except.bind, hsorted]
  obtain ⟨hincreasing, -, -, -, -, hagain, hfewer, hmore⟩ :=
    (locating_is_union w ["**/src/*"] ["*/c.rs"] ["src", "src/a*", "/home/src/a*"]).2 files hok
  obtain ⟨files', hfiles', hsame, -⟩ :=
    hagain ["/home/src/a*", "src/a*", "src", "src"] (by simp; tauto)
  exact ⟨hok, hincreasing, ⟨files', hfiles', hsame⟩, hfewer [] (List.nil_subset _),
    hmore ["**/src/*", "*.rs"] (List.cons_ne_nil _ _) (by simp)
      fun t ht => hread t (by simp at ht ⊢; tauto)⟩

/-! ## Files that are located twice -/

open DepAtlas.Path (startsAtDot plain)

variable {w : World} {s : Selection} {source p root : String} {sources files : List String} {f : Found}

/-- Something is found only below a path that is not empty. -/
lemma ne_empty_of_mem_walk (h : f ∈ w.walk root) : root ≠ "" := by
  rintro rfl
  obtain ⟨place, t, ⟨hplace, -⟩, -⟩ := mem_walk.1 h
  simp [place?, Path.pieces_empty] at hplace

/-- What is found below a path has a leading dot if the path has one. -/
lemma startsAtDot_of_mem_walk (h : f ∈ w.walk root) : startsAtDot f.path = startsAtDot root := by
  obtain ⟨names, hpath⟩ := exists_path_eq_of_mem_walk h
  rw [hpath]
  exact Path.startsAtDot_foldl_joinName (ne_empty_of_mem_walk h) names

/-- What a source stands for has a leading dot if its beginning has one. This is all in which the
spellings of one path can differ. -/
lemma startsAtDot_of_contributes (h : w.Contributes s source p) :
    startsAtDot p = startsAtDot (originOf source) := by
  unfold Contributes at h
  rw [originOf]
  split at h
  · next hwild =>
    obtain ⟨g, -, f, hf, -, -, rfl⟩ := h
    rw [if_pos hwild, startsAtDot_of_mem_walk hf]
  · next hwild =>
    rw [if_neg hwild]
    split at h
    · obtain ⟨f, hf, -, rfl⟩ := h
      exact startsAtDot_of_mem_walk hf
    · rw [h.2.2]

/-- **When a file is located twice.** No path is listed in two spellings. Paths that agree after
removing dots differ in a leading dot, so a file is listed twice at most, and it is exactly if
sources with a leading dot and sources without one stand for it.

**Proof sketch.** What is listed is strictly increasing, so no two of the paths have the same
components. A path has its leading dot from the source that stands for it. -/
theorem located_twice_iff (h : w.locate s sources = .ok files) :
    (files.Pairwise fun a b => ¬ Same a b) ∧
      (∀ a ∈ files, ∀ b ∈ files, a ≠ b → plain a = plain b → startsAtDot a ≠ startsAtDot b) ∧
      (∀ p, (files.filter fun a => plain a = plain p).length ≤ 2) ∧
      (¬ (files.map plain).Nodup ↔ ∃ x ∈ sources, ∃ y ∈ sources, ∃ p q,
        w.Contributes s x p ∧ w.Contributes s y q ∧ plain p = plain q ∧
          startsAtDot (originOf x) ≠ startsAtDot (originOf y)) := by
  obtain ⟨-, -, paths, hfiles, hmem⟩ := exists_of_locate_eq_ok h
  have hpairwise : files.Pairwise fun a b => ¬ Same a b :=
    hfiles ▸ pairwise_not_same_sortedPaths paths
  have hnodup : files.Nodup := hpairwise.imp fun {a b} hnot (heq : a = b) => hnot (heq ▸ .refl a)
  have hsymm : Std.Symm fun a b => ¬ Same a b := ⟨fun _ _ hnot hsame => hnot hsame.symm⟩
  have hdot : ∀ a ∈ files, ∀ b ∈ files, a ≠ b → plain a = plain b → startsAtDot a ≠ startsAtDot b :=
    fun a ha b hb hne hplain heq => hpairwise.forall ha hb hne (Path.same_iff.2 ⟨heq, hplain⟩)
  refine ⟨hpairwise, hdot, fun p => ?_, ?_⟩
  · have hmapped : ((files.filter fun a => plain a = plain p).map startsAtDot).Nodup := by
      refine (List.nodup_map_iff_inj_on (hnodup.filter _)).2 fun a ha b hb heq => ?_
      simp only [List.mem_filter, decide_eq_true_eq] at ha hb
      by_contra hne
      exact hdot a ha.1 b hb.1 hne (ha.2.trans hb.2.symm) heq
    simpa using hmapped.length_le_card
  · rw [List.nodup_map_iff_inj_on hnodup]
    constructor
    · intro htwice
      push Not at htwice
      obtain ⟨a, ha, b, hb, hplain, hne⟩ := htwice
      obtain ⟨x, hx, hax⟩ := (hmem a).1 (mem_of_mem_sortedPaths (hfiles ▸ ha))
      obtain ⟨y, hy, hby⟩ := (hmem b).1 (mem_of_mem_sortedPaths (hfiles ▸ hb))
      refine ⟨x, hx, y, hy, a, b, hax, hby, hplain, ?_⟩
      rw [← startsAtDot_of_contributes hax, ← startsAtDot_of_contributes hby]
      exact hdot a ha b hb hne hplain
    · rintro ⟨x, hx, y, hy, p, q, hp, hq, hplain, hne⟩ hinjective
      obtain ⟨a, ha, hap⟩ := exists_same_mem_sortedPaths ((hmem p).2 ⟨x, hx, hp⟩)
      obtain ⟨b, hb, hbq⟩ := exists_same_mem_sortedPaths ((hmem q).2 ⟨y, hy, hq⟩)
      obtain ⟨hdotp, hplainp⟩ := Path.same_iff.1 hap
      obtain ⟨hdotq, hplainq⟩ := Path.same_iff.1 hbq
      have heq : a = b := hinjective a (hfiles ▸ ha) b (hfiles ▸ hb)
        (hplainp.trans (hplain.trans hplainq.symm))
      rw [← startsAtDot_of_contributes hp, ← startsAtDot_of_contributes hq, ← hdotp, ← hdotq, heq] at hne
      exact hne rfl

/-- A directory and a pattern that begin alike stand for one file, and locate it once. Both begin
with a dot, so that the two finds are spellings of one path. -/
theorem located_once_by_like_sources :
    let w : World := { files := .directory [("src", .directory [("lib.rs", .file "".toUTF8)])] }
    w.locate ⟨[], []⟩ ["./src", "./src/l*"] = .ok ["./src/lib.rs"] ∧
      (["./src/lib.rs"].map plain).Nodup := by
  intro w
  have hfound : ["./src", "./src/l*"].mapM (w.locateSource ⟨[], []⟩) =
      .ok [["./src/lib.rs"], ["./src/lib.rs"]] := by decide +kernel
  have hsorted : sortedPaths ["./src/lib.rs", "./src/lib.rs"] = ["./src/lib.rs"] :=
    sortedPaths_eq (by decide +kernel) (List.pairwise_singleton _ _) (by simp)
  have hok : w.locate ⟨[], []⟩ ["./src", "./src/l*"] = .ok ["./src/lib.rs"] := by
    rw [locate_eq, hfound]
    simp [Except.bind, hsorted]
  refine ⟨hok, ?_⟩
  have halike : ∀ x ∈ ["./src", "./src/l*"], startsAtDot (originOf x) = true := by decide +kernel
  have htwice := (located_twice_iff hok).2.2.2
  by_contra hnot
  obtain ⟨x, hx, y, hy, -, -, -, -, -, hne⟩ := htwice.1 hnot
  exact hne ((halike x hx).trans (halike y hy).symm)

/-- The same directory with and without a leading dot: its file is located twice. Sorting puts the
path with the dot first, since it begins with a component that names nothing. -/
theorem located_twice_by_leading_dot :
    let w : World := { files := .directory [("src", .directory [("lib.rs", .file "".toUTF8)])] }
    w.locate ⟨[], []⟩ ["src", "./src"] = .ok ["./src/lib.rs", "src/lib.rs"] ∧
      plain "./src/lib.rs" = plain "src/lib.rs" := by
  intro w
  have hfound : ["src", "./src"].mapM (w.locateSource ⟨[], []⟩) =
      .ok [["src/lib.rs"], ["./src/lib.rs"]] := by decide +kernel
  have hsorted : sortedPaths ["src/lib.rs", "./src/lib.rs"] = ["./src/lib.rs", "src/lib.rs"] :=
    sortedPaths_eq (by decide +kernel) (by decide +kernel) (by simp [or_comm])
  refine ⟨?_, by decide +kernel⟩
  rw [locate_eq, hfound]
  simp [Except.bind, hsorted]

end World

end DepAtlas
