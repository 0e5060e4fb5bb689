import DepAtlas.Proofs.Name.Hierarchy
import DepAtlas.Source.Module

set_option relaxedAutoImplicit false
set_option autoImplicit false

/-!
# Files with the same module

The name of a module has a segment for each directory between the source directory and the file, and one
for the file itself, unless the file stands for its directory. So a file falls together with the other
files that stand for the same directory, and with the file beside the directory that has its name, and
with no other file.

## Main definitions

* `DepAtlas.Source.FilePlace` — the place of a source file below a source directory.
* `DepAtlas.Source.FilePlace.IsAt` — a path leads to a place.
* `DepAtlas.Source.FilePlace.IsBeside` — a file beside the directory that another file stands for.

## Main results

* `DepAtlas.Source.FilePlace.moduleName_eq` — the name of the module of a file.
* `DepAtlas.Source.FilePlace.modulePath_eq_iff` — which files have the same module.
* `DepAtlas.Source.FilePlace.same_module_iff` — the same for paths.
* `DepAtlas.Source.FilePlace.nested_lib_has_no_segment` — files that fall together and should not.
-/

namespace DepAtlas.Source

/-- The place of a source file below a source directory: the directories that lead to it from there, and
its name without the ending. -/
@[ext]
structure FilePlace where
  directories : List String
  stem : String
deriving DecidableEq, Repr

namespace FilePlace

variable {base : List Path.Component} {p q path : String} {f g : FilePlace}

/-- A path leads to a place below the last directory `src` on its way. The names have no hyphen,
which does not show in the name of a module, and no colon, which would not be told from a separator
there. -/
structure IsAt (f : FilePlace) (base : List Path.Component) (path : String) : Prop where
  components_eq : Path.components path =
    base ++ ("src" :: f.directories ++ [f.stem ++ ".rs"]).map .normal
  src_not_mem : "src" ∉ f.directories
  plain : ∀ name ∈ f.stem :: f.directories, name ≠ "" ∧ '-' ∉ name.toList ∧ ':' ∉ name.toList

/-- A file that stands for its directory. -/
def StandsForDirectory (f : FilePlace) : Prop :=
  f.stem = "mod" ∨ f.stem = "lib" ∨ f.stem = "main"

/-- Whether a file stands for its directory can be decided by its name. -/
instance (f : FilePlace) : Decidable f.StandsForDirectory :=
  inferInstanceAs (Decidable (_ ∨ _))

/-- The segments of the module of a file below the root. -/
def modulePath (f : FilePlace) : List String :=
  f.directories ++ if f.StandsForDirectory then [] else [f.stem]

/-- A file beside the directory that another file stands for, with the name of the directory. Both
are files that a module of this name may have, and a crate has one of them at most. -/
def IsBeside (f g : FilePlace) : Prop :=
  ¬ f.StandsForDirectory ∧ g.StandsForDirectory ∧ g.directories = f.directories ++ [f.stem]

/-! ## The segments of a file -/

/-- The names at the end of a path are at the end of its names. -/
lemma exists_plainComponents_eq {names : List String}
    (h : Path.components path = base ++ names.map .normal) :
    ∃ front, plainComponents path = front ++ names := by
  rw [plainComponents, h, List.filterMap_append, List.filterMap_map]
  exact ⟨_, congrArg _ List.filterMap_some⟩

/-- What stands behind the last `src` does not depend on what is in front of it. -/
lemma belowSource_append {names : List String} (h : "src" ∉ names) (front : List String) :
    belowSource (front ++ "src" :: names) = names := by
  have hbehind : ∀ name ∈ names.reverse, (name != "src") = true := fun name hname => by
    have hne : name ≠ "src" := fun heq => h (heq ▸ List.mem_reverse.1 hname)
    simpa using hne
  have hreverse : (front ++ "src" :: names).reverse = names.reverse ++ "src" :: front.reverse := by
    simp
  rw [belowSource, if_pos (by simp), hreverse, List.takeWhile_append_of_pos hbehind,
    List.takeWhile_cons_of_neg (by simp), List.append_nil, List.reverse_reverse]

/-- The directories on the way give a segment each, and the file at its end gives one or none. -/
lemma moduleSegments_concat (directories : List String) (file : String) :
    moduleSegments (directories ++ [file]) =
      directories.map directorySegment ++ (fileSegment? file).toList := by
  induction directories with
  | nil => rfl
  | cons directory directories ih =>
    have hrest : moduleSegments (directory :: (directories ++ [file])) =
        directorySegment directory :: moduleSegments (directories ++ [file]) := by
      cases directories <;> rfl
    rw [List.cons_append, hrest, ih]
    rfl

/-- A name without hyphens is its own segment. -/
lemma directorySegment_eq_self {name : String} (h : '-' ∉ name.toList) :
    directorySegment name = name := by
  have hkept : name.toList.map (fun c => if c == '-' then '_' else c) = name.toList.map id := by
    refine List.map_congr_left fun c hc => ?_
    have hne : c ≠ '-' := fun heq => h (heq ▸ hc)
    simp [hne]
  rw [directorySegment, hkept, List.map_id, String.ofList_toList]

/-- A file gives a segment unless it stands for its directory, and the segment is its name. -/
lemma fileSegment?_eq (h : '-' ∉ f.stem.toList) :
    fileSegment? (f.stem ++ ".rs") = if f.StandsForDirectory then none else some f.stem := by
  have hstem : (Text.beforeSuffix? ".rs".toList (f.stem ++ ".rs").toList).getD
      (f.stem ++ ".rs").toList = f.stem.toList := by
    simp [Text.beforeSuffix?]
  have hstands : ["mod", "lib", "main"].contains f.stem = true ↔ f.StandsForDirectory := by
    simp [StandsForDirectory]
  rw [fileSegment?, hstem, String.ofList_toList, directorySegment_eq_self h]
  exact if_congr hstands rfl rfl

/-- No source file is called like the source directory. -/
lemma append_ne_src (stem : String) : stem ++ ".rs" ≠ "src" := fun heq => by
  have hlast := congrArg (fun s => s.toList.getLast?) heq
  simp at hlast

/-- **The name of the module of a file** has a segment for each directory, and one for the file
unless it stands for its directory.

**Proof sketch.** Of the path only what stands behind the last `src` counts, and these are the
directories and the file of the place. -/
lemma moduleName_eq (h : f.IsAt base path) :
    moduleName path = Name.join ("crate" :: f.modulePath) Name.defaultSeparator := by
  obtain ⟨front, hfront⟩ := exists_plainComponents_eq h.components_eq
  have hhyphen : ∀ name ∈ f.stem :: f.directories, '-' ∉ name.toList := fun name hname =>
    (h.plain name hname).2.1
  have hsrc : "src" ∉ f.directories ++ [f.stem ++ ".rs"] := by
    simpa [h.src_not_mem] using (append_ne_src f.stem).symm
  have hdirectories : f.directories.map directorySegment = f.directories.map id :=
    List.map_congr_left fun name hname =>
      directorySegment_eq_self (hhyphen name (List.mem_cons_of_mem _ hname))
  rw [moduleName, hfront, List.cons_append, belowSource_append hsrc, moduleSegments_concat,
    hdirectories, List.map_id, fileSegment?_eq (hhyphen f.stem List.mem_cons_self), modulePath]
  split <;> rfl

/-! ## Which files fall together -/

/-- All segments of the module of a file are apart from the separator, because names have no colon.
So the module gives back its segments. -/
lemma isPlain_of_mem_modulePath (h : f.IsAt base path) :
    ∀ name ∈ "crate" :: f.modulePath, Name.IsPlain Name.defaultSeparator name := by
  have hname : ∀ name ∈ f.stem :: f.directories, Name.IsPlain Name.defaultSeparator name := by
    intro name hmem
    obtain ⟨hsolid, -, hcolon⟩ := h.plain name hmem
    exact Name.isPlain_of_colon_not_mem hsolid hcolon
  intro name hmem
  rcases List.mem_cons.1 hmem with rfl | hmem
  · decide
  · rcases List.mem_append.1 hmem with hdirectory | hstem
    · exact hname name (List.mem_cons_of_mem _ hdirectory)
    · split at hstem
      · exact absurd hstem List.not_mem_nil
      · exact hname name (List.mem_singleton.1 hstem ▸ List.mem_cons_self)

/-- **Files have the same module** if they are one file, if they stand for one directory, or if one is
beside the directory that the other one stands for. -/
lemma modulePath_eq_iff : f.modulePath = g.modulePath ↔
    f = g ∨ (f.StandsForDirectory ∧ g.StandsForDirectory ∧ f.directories = g.directories) ∨
      f.IsBeside g ∨ g.IsBeside f := by
  unfold modulePath IsBeside
  -- only if neither stands for its directory does the last segment of both belong to the file
  by_cases hf : f.StandsForDirectory <;> by_cases hg : g.StandsForDirectory
  · have hdirectories : f = g → f.directories = g.directories := congrArg _
    simp [hf, hg, or_iff_right_of_imp hdirectories]
  · have hne : f ≠ g := fun heq => hg (heq ▸ hf)
    simp [hf, hg, hne]
  · have hne : f ≠ g := fun heq => hf (heq ▸ hg)
    simp [hf, hg, hne, eq_comm]
  · simp [hf, hg, List.append_singleton_inj, FilePlace.ext_iff]

/-- A file that stands for a directory below the source directory is called `mod`, unless it is called like
the root of a crate. -/
lemma StandsForDirectory.stem_eq_mod (h : f.StandsForDirectory)
    (hroot : f.stem ≠ "lib" ∧ f.stem ≠ "main") : f.stem = "mod" := by
  rcases h with h | h | h
  · exact h
  · exact absurd h hroot.1
  · exact absurd h hroot.2

/-- Where only files right in the source directory are called like the root of a crate, files that fall
together are such files or stand beside each other. -/
lemma roots_or_beside (hne : f ≠ g) (h : f.modulePath = g.modulePath)
    (hf : f.directories ≠ [] → f.stem ≠ "lib" ∧ f.stem ≠ "main")
    (hg : g.directories ≠ [] → g.stem ≠ "lib" ∧ g.stem ≠ "main") :
    (f.directories = [] ∧ g.directories = [] ∧ f.StandsForDirectory ∧ g.StandsForDirectory) ∨
      (g.stem = "mod" ∧ g.directories = f.directories ++ [f.stem]) ∨
      (f.stem = "mod" ∧ f.directories = g.directories ++ [g.stem]) := by
  rcases modulePath_eq_iff.1 h with heq | ⟨hf', hg', hdirs⟩ | ⟨-, hg', hdirs⟩ | ⟨-, hf', hdirs⟩
  · exact absurd heq hne
  · by_cases hroot : f.directories = []
    · exact .inl ⟨hroot, hdirs ▸ hroot, hf', hg'⟩
    · have hstem : f.stem = g.stem :=
        (hf'.stem_eq_mod (hf hroot)).trans (hg'.stem_eq_mod (hg (hdirs ▸ hroot))).symm
      exact absurd (FilePlace.ext hdirs hstem) hne
  · exact .inr (.inl ⟨hg'.stem_eq_mod (hg (by simp [hdirs])), hdirs⟩)
  · exact .inr (.inr ⟨hf'.stem_eq_mod (hf (by simp [hdirs])), hdirs⟩)

/-- Paths below one source directory are spellings of one path if they lead to one place. -/
lemma IsAt.components_eq_iff (hp : f.IsAt base p) (hq : g.IsAt base q) :
    Path.components p = Path.components q ↔ f = g := by
  have hnormal : ∀ x y, Path.Component.normal x = .normal y → x = y := fun _ _ h =>
    Path.Component.normal.inj h
  rw [hp.components_eq, hq.components_eq, List.append_right_inj, List.map_inj_right hnormal,
    List.append_singleton_inj, FilePlace.ext_iff]
  simp [← String.toList_inj]

/-- **Which files have the same module.** The name of the module is made of the directories below the
source directory and of the name of the file, unless this is `mod`, `lib` or `main`. Two paths below one
source directory have the same module if they are spellings of one path, if both stand for the same
directory, or if one is beside the directory that the other one stands for. So if below the source
directory no file in another directory is called `lib` or `main`, then different files with the same
module are roots of the crate, or one is beside the directory of the other one, which is called `mod`. -/
theorem same_module_iff (hp : f.IsAt base p) (hq : g.IsAt base q) :
    moduleName p = Name.join ("crate" :: f.directories ++
      if f.stem = "mod" ∨ f.stem = "lib" ∨ f.stem = "main" then [] else [f.stem])
        Name.defaultSeparator ∧
    (moduleName p = moduleName q ↔ Path.components p = Path.components q ∨
      (f.StandsForDirectory ∧ g.StandsForDirectory ∧ f.directories = g.directories) ∨
        f.IsBeside g ∨ g.IsBeside f) ∧
    ((f.directories ≠ [] → f.stem ≠ "lib" ∧ f.stem ≠ "main") →
      (g.directories ≠ [] → g.stem ≠ "lib" ∧ g.stem ≠ "main") →
      Path.components p ≠ Path.components q → moduleName p = moduleName q →
        (f.directories = [] ∧ g.directories = [] ∧ f.StandsForDirectory ∧ g.StandsForDirectory) ∨
        (g.stem = "mod" ∧ g.directories = f.directories ++ [f.stem]) ∨
        (f.stem = "mod" ∧ f.directories = g.directories ++ [g.stem])) := by
  have hsame : moduleName p = moduleName q ↔ f.modulePath = g.modulePath := by
    rw [moduleName_eq hp, moduleName_eq hq, Name.join_inj_of_isPlain (by decide)
      (isPlain_of_mem_modulePath hp) (isPlain_of_mem_modulePath hq), List.cons_inj_right]
  refine ⟨moduleName_eq hp, ?_, fun hf hg hne heq => ?_⟩
  · rw [hsame, hp.components_eq_iff hq, modulePath_eq_iff]
  · exact roots_or_beside (mt (hp.components_eq_iff hq).2 hne) (hsame.1 heq) hf hg

/-- A file and the file for the directory beside it, below a source directory in another one.
Slashes and dots that do not count make no difference. -/
theorem same_module_beside_directory :
    let base : List Path.Component := [.current, .normal "src", .normal "tools"]
    let f : FilePlace := ⟨["a"], "lib_b"⟩
    let g : FilePlace := ⟨["a", "lib_b"], "mod"⟩
    f.IsAt base "./src/tools//src/a/lib_b.rs" ∧ g.IsAt base "./src/tools/src/a/./lib_b/mod.rs" ∧
      moduleName "./src/tools//src/a/lib_b.rs" = "crate::a::lib_b" ∧
      moduleName "./src/tools//src/a/lib_b.rs" = moduleName "./src/tools/src/a/./lib_b/mod.rs" := by
  intro base f g
  have hp : f.IsAt base "./src/tools//src/a/lib_b.rs" :=
    ⟨by decide +kernel, by decide, by decide⟩
  have hq : g.IsAt base "./src/tools/src/a/./lib_b/mod.rs" :=
    ⟨by decide +kernel, by decide, by decide⟩
  obtain ⟨hname, hsame, -⟩ := same_module_iff hp hq
  exact ⟨hp, hq, hname.trans (by decide),
    hsame.2 (.inr (.inr (.inl ⟨by decide, by decide, by decide⟩)))⟩

/-- **Files that fall together and should not.** The root of a crate is a file `lib` or `main` right in the
source directory. In another directory a file of this name is a file like any other, but it gets no
segment of its own, and so it falls together with the file that stands for the directory. -/
theorem nested_lib_has_no_segment :
    FilePlace.IsAt ⟨["a"], "lib"⟩ [] "src/a/lib.rs" ∧ FilePlace.IsAt ⟨["a"], "mod"⟩ [] "src/a/mod.rs" ∧
      FilePlace.IsAt ⟨["a"], "main"⟩ [] "src/a/main.rs" ∧
      moduleName "src/a/lib.rs" = "crate::a" ∧ moduleName "src/a/mod.rs" = "crate::a" ∧
      moduleName "src/a/main.rs" = "crate::a" ∧
      Name.join ["crate", "a", "lib"] Name.defaultSeparator = "crate::a::lib" := by
  refine ⟨⟨?_, ?_, ?_⟩, ⟨?_, ?_, ?_⟩, ⟨?_, ?_, ?_⟩, ?_, ?_, ?_, ?_⟩
  all_goals decide +kernel

end FilePlace

end DepAtlas.Source
