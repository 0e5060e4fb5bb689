import DepAtlas.Files.World
import Mathlib.Data.List.Basic

set_option relaxedAutoImplicit false
set_option autoImplicit false

/-!
# What access to files changes

A tree is seen as a function from places: nothing, a directory, or a file with its contents is at a
place. Writing a file changes what is seen at one place, and making directories changes no file.

## Main definitions

* `DepAtlas.FileTree.seen?` — what is at a place.
* `DepAtlas.FileTree.file?` — the contents of the file at a place.
* `DepAtlas.World.SameFiles` — worlds that differ in directories at most.

## Main results

* `DepAtlas.FileTree.put?_eq_some` — how a file gets into a directory.
* `DepAtlas.FileTree.seen?_put?` — what is seen after a file is written.
* `DepAtlas.FileTree.file?_withDirectory?` — the files after directories are made.
* `DepAtlas.World.read?_of_write?_eq_some` — a file that was written can be read.
* `DepAtlas.World.sameFiles_makeDirectory` — making a directory changes no file.
-/

namespace DepAtlas

namespace FileTree

/-! ## What is at a place -/

/-- What is at a place: nothing, a directory (`some none`), or a file with its contents. It is all
that a command can find out about a place, so two trees that show the same at all places are the
same to it. -/
def seen? (t : FileTree) (place : List String) : Option (Option ByteArray) :=
  (t.at? place).map contents?

/-- The contents of the file at a place. -/
def file? (t : FileTree) (place : List String) : Option ByteArray :=
  (t.seen? place).join

/-- At the place of a tree itself the tree is seen. -/
@[simp] lemma seen?_nil (t : FileTree) : t.seen? [] = some t.contents? := rfl

/-- Behind a name, what is seen in the entry of this name is seen. -/
lemma seen?_cons (t : FileTree) (name : String) (rest : List String) :
    t.seen? (name :: rest) = (t.child? name).bind fun u => u.seen? rest := by
  cases h : t.child? name <;> simp [seen?, at?, h]

/-- The file at a place behind a name is the one in the entry of this name. -/
lemma file?_cons (t : FileTree) (name : String) (rest : List String) :
    t.file? (name :: rest) = (t.child? name).bind fun u => u.file? rest := by
  cases h : t.child? name <;> simp [file?, seen?_cons, h]

/-- A file has no entries. -/
@[simp] lemma child?_file (contents : ByteArray) (name : String) :
    (file contents).child? name = none := rfl

/-- An empty directory has no entries. -/
@[simp] lemma child?_empty (name : String) : empty.child? name = none := rfl

/-- No file is in an empty directory. -/
@[simp] lemma file?_empty (place : List String) : empty.file? place = none := by
  cases place with
  | nil => rfl
  | cons name rest => rw [file?_cons, child?_empty, Option.bind_none]

/-- A directory is at a place if that is what is seen there. -/
lemma any_isDirectory_at?_iff {t : FileTree} {place : List String} :
    (t.at? place).any isDirectory = true ↔ t.seen? place = some none := by
  cases h : t.at? place with
  | none => simp [seen?, h]
  | some u => cases u <;> simp [seen?, h, isDirectory, contents?]

/-- The entries of a directory after one of them is replaced or added: the new one is found under
its name, and under other names nothing changes.

**Proof sketch.** Induction along the entries. Whether one of them has the name of the new one, or
the name that is asked for, are separate questions at each step. -/
lemma child?_putEntry (name : String) (new : FileTree) (entries : List (String × FileTree))
    (other : String) :
    (directory (putEntry name new entries)).child? other =
      if other = name then some new else (directory entries).child? other := by
  induction entries with
  | nil =>
    by_cases h : other = name
    · simp [putEntry, child?, FileTree.entries, h]
    · simp [putEntry, child?, FileTree.entries, h, Ne.symm h]
  | cons entry rest ih =>
    obtain ⟨first, t⟩ := entry
    simp only [child?, FileTree.entries] at ih ⊢
    by_cases hname : first = name
    · subst hname
      by_cases h : other = first
      · simp [putEntry, h]
      · simp [putEntry, h, Ne.symm h]
    · by_cases h : first = other
      · subst h
        simp [putEntry, hname]
      · simp [putEntry, hname, h, ih]

/-! ## Writing a file -/

/-- How a file gets into a directory: one entry is replaced or added. Either it is the file itself, and was
no directory before, or it is a tree that the file was written in. -/
lemma put?_eq_some {contents : ByteArray} {place : List String} {t t' : FileTree}
    (h : t.put? contents place = some t') :
    ∃ entries name rest new, t = directory entries ∧ place = name :: rest ∧
      t' = directory (putEntry name new entries) ∧
      ((rest = [] ∧ new = file contents ∧
          ∀ below, (directory entries).child? name ≠ some (directory below)) ∨
        ∃ u, (directory entries).child? name = some u ∧ u.put? contents rest = some new) := by
  match place, t with
  | [], _ => simp [put?] at h
  | _ :: _, file old => simp [put?] at h
  | [name], directory entries =>
    simp only [put?] at h
    split at h
    · exact nomatch h
    · next hchild =>
      exact ⟨entries, name, [], file contents, rfl, rfl, (Option.some.inj h).symm, .inl ⟨rfl, rfl, hchild⟩⟩
  | name :: second :: rest, directory entries =>
    simp only [put?, Option.bind_eq_bind, Option.bind_eq_some_iff, Option.some.injEq] at h
    obtain ⟨u, hu, new, hnew, rfl⟩ := h
    exact ⟨entries, name, second :: rest, new, rfl, rfl, rfl, .inr ⟨u, hu, hnew⟩⟩

/-- **A file that is written is seen at its place, and nothing else is seen to change.**

**Proof sketch.** Induction on the place. One entry of the directory is replaced or added. If it is the
file, nothing was seen below it before, as there was no directory; if not, the induction says what is seen
in it. -/
theorem seen?_put? {contents : ByteArray} {place : List String} {t t' : FileTree}
    (h : t.put? contents place = some t') (other : List String) :
    t'.seen? other = if other = place then some (some contents) else t.seen? other := by
  induction place generalizing t t' other with
  | nil => simp [put?] at h
  | cons name rest ih =>
    obtain ⟨entries, _, _, new, rfl, hplace, rfl, hnew⟩ := put?_eq_some h
    obtain ⟨rfl, rfl⟩ := List.cons.inj hplace
    have hbelow : ∀ others, new.seen? others = if others = rest then some (some contents)
        else ((directory entries).child? name).bind fun u => u.seen? others := by
      intro others
      obtain ⟨rfl, rfl, hnone⟩ | ⟨u, hu, hput⟩ := hnew
      · cases others with
        | nil => simp [contents?]
        | cons second others =>
          cases hu : (directory entries).child? name with
          | none => simp [seen?_cons]
          | some u =>
            cases u with
            | file old => simp [seen?_cons]
            | directory below => exact absurd hu (hnone below)
      · simp [hu, ih hput others]
    cases other with
    | nil => simp [contents?]
    | cons first others =>
      rw [seen?_cons, child?_putEntry, seen?_cons]
      by_cases hfirst : first = name
      · subst hfirst
        simp [hbelow others]
      · simp [hfirst]

/-- Where a file is written, no directory was seen: a file replaces a file, or is new.

**Proof sketch.** Induction on the place, with the two ways in which a file gets into a directory. -/
lemma seen?_ne_directory_of_put? {contents : ByteArray} {place : List String} {t t' : FileTree}
    (h : t.put? contents place = some t') : t.seen? place ≠ some none := by
  induction place generalizing t t' with
  | nil => simp [put?] at h
  | cons name rest ih =>
    obtain ⟨entries, _, _, new, rfl, hplace, -, hnew⟩ := put?_eq_some h
    obtain ⟨rfl, rfl⟩ := List.cons.inj hplace
    rw [seen?_cons]
    obtain ⟨rfl, -, hnone⟩ | ⟨u, hu, hput⟩ := hnew
    · cases hu : (directory entries).child? name with
      | none => simp
      | some u =>
        cases u with
        | file old => simp [contents?]
        | directory below => exact absurd hu (hnone below)
    · simpa [hu] using ih hput

/-- Writing a file changes the file at its place and no other. -/
lemma file?_put? {contents : ByteArray} {place : List String} {t t' : FileTree}
    (h : t.put? contents place = some t') (other : List String) :
    t'.file? other = if other = place then some contents else t.file? other := by
  rw [file?, seen?_put? h]
  split <;> simp [file?]

/-- Writing a file makes no directory and replaces none. -/
lemma any_isDirectory_put? {contents : ByteArray} {place : List String} {t t' : FileTree}
    (h : t.put? contents place = some t') (other : List String) :
    (t'.at? other).any isDirectory = (t.at? other).any isDirectory := by
  rw [Bool.eq_iff_iff, any_isDirectory_at?_iff, any_isDirectory_at?_iff, seen?_put? h]
  by_cases hother : other = place
  · simp [hother, seen?_ne_directory_of_put? h]
  · simp [hother]

/-! ## Making directories -/

/-- **Making directories changes no file.**

**Proof sketch.** Induction on the place. The entry that is replaced was made from the one that was there,
or from an empty directory, which has no files. -/
theorem file?_withDirectory? {place : List String} {t t' : FileTree}
    (h : t.withDirectory? place = some t') (other : List String) : t'.file? other = t.file? other := by
  induction place generalizing t t' other with
  | nil =>
    cases t with
    | file old => simp [withDirectory?] at h
    | directory entries => rw [← Option.some.inj h]
  | cons name rest ih =>
    cases t with
    | file old => simp [withDirectory?] at h
    | directory entries =>
      simp only [withDirectory?, Option.bind_eq_bind, Option.bind_eq_some_iff, Option.some.injEq] at h
      obtain ⟨changed, hchanged, rfl⟩ := h
      cases other with
      | nil => simp [file?, contents?]
      | cons first others =>
        rw [file?_cons, child?_putEntry, file?_cons]
        by_cases hfirst : first = name
        · subst hfirst
          have := ih hchanged others
          cases hu : (directory entries).child? first <;> simpa [hu] using this
        · simp [hfirst]

end FileTree

namespace World

/-! ## Worlds -/

/-- Places are the same in two trees that have the same directories, because files on the way end a
path in both of them. -/
lemma walk?_congr {t t' : FileTree}
    (h : ∀ place, (t'.at? place).any FileTree.isDirectory = (t.at? place).any FileTree.isDirectory)
    (place : List String) (steps : List (List Char)) :
    walk? t' place steps = walk? t place steps := by
  induction steps generalizing place with
  | nil => rfl
  | cons step rest ih =>
    simp only [walk?, h]
    split
    · split <;> simp only [ih]
    · rfl

/-- Two worlds that differ in directories at most. All files are at their places with the same
contents, and nothing else has changed. -/
structure SameFiles (w w' : World) : Prop where
  surroundings : { w' with files := w.files } = w
  files : ∀ place, w'.files.file? place = w.files.file? place

namespace SameFiles

/-- A world has the same files as itself. -/
lemma refl (w : World) : w.SameFiles w := ⟨rfl, fun _ => rfl⟩

/-- Worlds with the same files may be put one after the other. -/
lemma trans {w w' w'' : World} (h : w.SameFiles w') (h' : w'.SameFiles w'') : w.SameFiles w'' where
  surroundings := by
    rw [← h.surroundings, ← h'.surroundings]
  files place := (h'.files place).trans (h.files place)

end SameFiles

/-- What a file that was written changes in the world: its path led to a place, and the tree has the
file there. The surroundings stay as they are. -/
lemma of_write?_eq_some {w w' : World} {path : String} {contents : ByteArray}
    (h : w.write? path contents = some w') :
    ∃ place, w.place? path = some place ∧ ∃ files, w.files.put? contents place = some files ∧
      w' = { w with files := files } := by
  simp only [write?, Option.bind_eq_bind, Option.bind_eq_some_iff] at h
  obtain ⟨place, hplace, h⟩ := h
  split at h
  · exact nomatch h
  · obtain ⟨files, hfiles, rfl⟩ := by simpa [Option.bind_eq_some_iff] using h
    exact ⟨place, hplace, files, hfiles, rfl⟩

/-- A written file leaves every path leading where it led, because it does not change what is a
directory. -/
lemma place?_of_write?_eq_some {w w' : World} {path : String} {contents : ByteArray}
    (h : w.write? path contents = some w') (other : String) : w'.place? other = w.place? other := by
  obtain ⟨place, -, files, hfiles, rfl⟩ := of_write?_eq_some h
  unfold place?
  split
  · rfl
  · rfl
  · exact walk?_congr (FileTree.any_isDirectory_put? hfiles) _ _
  · exact walk?_congr (FileTree.any_isDirectory_put? hfiles) _ _

/-- The files of a world after one of them is written. -/
lemma file?_of_write?_eq_some {w w' : World} {path : String} {contents : ByteArray}
    (h : w.write? path contents = some w') (place : List String) :
    w'.files.file? place =
      if w.place? path = some place then some contents else w.files.file? place := by
  obtain ⟨written, hplace, files, hfiles, rfl⟩ := of_write?_eq_some h
  rw [FileTree.file?_put? hfiles, hplace]
  simp [eq_comm]

/-- The file that a path leads to is the one at its place. -/
lemma read?_eq (w : World) (path : String) :
    w.read? path = (w.place? path).bind w.files.file? := by
  simp only [read?, find?, Option.bind_eq_bind]
  cases w.place? path with
  | none => rfl
  | some place => cases h : w.files.at? place <;> simp [FileTree.file?, FileTree.seen?, h]

/-- **A file that was written can be read.** -/
theorem read?_of_write?_eq_some {w w' : World} {path : String} {contents : ByteArray}
    (h : w.write? path contents = some w') : w'.read? path = some contents := by
  obtain ⟨place, hplace, -⟩ := of_write?_eq_some h
  rw [read?_eq, place?_of_write?_eq_some h, hplace, Option.bind_some, file?_of_write?_eq_some h,
    if_pos hplace]

/-- Making directories below a place changes no file, also where something stands in the way.

**Proof sketch.** Induction on the components: only a name makes directories, and these change no
file. -/
lemma sameFiles_makeDirectories (w : World) (place : List String) (components : List Path.Component) :
    w.SameFiles (w.makeDirectories place components).2 := by
  induction components generalizing w place with
  | nil => exact .refl w
  | cons c rest ih =>
    cases c with
    | root => exact ih w []
    | current => exact ih w place
    | parent => exact ih w place.dropLast
    | normal name =>
      rw [makeDirectories]
      cases hfiles : w.files.withDirectory? (place ++ [name]) with
      | none => exact .refl w
      | some files =>
        have hmade : w.SameFiles { w with files := files } :=
          ⟨rfl, FileTree.file?_withDirectory? hfiles⟩
        exact hmade.trans (ih _ _)

/-- **Making a directory changes no file**, whether it can be made or not. -/
theorem sameFiles_makeDirectory (w : World) (components : List Path.Component) :
    w.SameFiles (w.makeDirectory components).2 :=
  w.sameFiles_makeDirectories w.workingDirectory components

end World

end DepAtlas
