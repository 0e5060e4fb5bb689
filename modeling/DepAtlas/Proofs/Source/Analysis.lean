import DepAtlas.Proofs.Graph.Sum
import DepAtlas.Source.Analysis

set_option relaxedAutoImplicit false
set_option autoImplicit false

/-!
# Analysing many files

The analysis takes all files into one builder and stops at the first syntax error. Every file adds
the graph of this file alone, so the graph of a list of files is a sum, and neither the order of the
files nor the way in which they are split up counts.

## Main definitions

* `DepAtlas.Source.IsSound` — a file that has no syntax error, if it can be read at all.
* `DepAtlas.Source.fileGraph` — the graph of one file.

## Main results

* `DepAtlas.Source.addsUp_addFile` — what a file says adds up.
* `DepAtlas.Source.analyse_eq_ok_iff` — when the analysis succeeds, and what comes out.
* `DepAtlas.Source.analysis_is_sum_of_files` — the laws of the analysis of many files.
-/

namespace DepAtlas.Source

variable {w : World}

/-! ## Single files -/

/-- A file has no syntax error, if it can be read at all. What cannot be read is passed over by the
analysis, and stops nothing. -/
def IsSound (w : World) (path : String) : Prop :=
  ∀ contents, w.read? path = some contents →
    ∃ f, SourceFile.ofBytes? contents = .ok f

/-- The graph of one file; empty if the file cannot be read or has a syntax error. -/
def fileGraph (w : World) (path : String) : Graph :=
  match w.read? path with
  | none => .empty
  | some contents =>
    match SourceFile.ofBytes? contents with
    | .ok f => (addFile .empty path f).graph
    | .error _ => .empty

/-- **What a file says adds up**: its declarations come first and then its facts. -/
lemma addsUp_addFile (path : String) (f : SourceFile) :
    Builder.AddsUp fun b => addFile b path f :=
  (Builder.AddsUp.foldl Builder.addsUp_declare _).comp (Builder.AddsUp.foldl Builder.addsUp_add _)

/-- The graph of a file is regular. -/
lemma regular_fileGraph (w : World) (path : String) : (fileGraph w path).Regular := by
  unfold fileGraph
  split
  · exact .empty
  · split
    · exact (addsUp_addFile path _).regular Builder.regular_empty
    · exact .empty

/-- The graphs of some files are regular. -/
lemma regular_of_mem_map_fileGraph {paths : List String} {g : Graph}
    (hg : g ∈ paths.map (fileGraph w)) : g.Regular := by
  obtain ⟨path, -, rfl⟩ := List.mem_map.1 hg
  exact regular_fileGraph w path

/-- A file without a syntax error adds its graph to what is built. -/
lemma exists_analyseFile_eq_ok {path : String} (hsound : IsSound w path) {b : Builder}
    (hb : b.graph.Regular) :
    ∃ b', analyseFile w b path = .ok b' ∧ b'.graph = b.graph.merge (fileGraph w path) .sum := by
  unfold analyseFile fileGraph
  cases hread : w.read? path with
  | none => exact ⟨b, rfl, (Graph.merge_empty hb .sum).symm⟩
  | some contents =>
    obtain ⟨f, hf⟩ := hsound contents hread
    simp only [hf]
    exact ⟨_, rfl, (addsUp_addFile path f).graph_eq hb⟩

/-- A file that is taken in has no syntax error. -/
lemma isSound_of_analyseFile_eq_ok {path : String} {b b' : Builder}
    (h : analyseFile w b path = .ok b') : IsSound w path := by
  intro contents hread
  unfold analyseFile at h
  simp only [hread] at h
  split at h
  · next f hf => exact ⟨f, hf⟩
  · exact nomatch h

/-! ## Lists of files -/

/-- Files without a syntax error add the sum of their graphs to what is built.

**Proof sketch.** Induction on the files; a file that has been taken in leaves a regular graph to the
next one. -/
lemma exists_foldlM_analyseFile_eq_ok {paths : List String} (hsound : ∀ path ∈ paths, IsSound w path)
    {b : Builder} (hb : b.graph.Regular) :
    ∃ b', paths.foldlM (analyseFile w) b = .ok b' ∧
      b'.graph = b.graph.merge (.total (paths.map (fileGraph w))) .sum := by
  induction paths generalizing b with
  | nil => exact ⟨b, rfl, (Graph.merge_empty hb .sum).symm⟩
  | cons path paths ih =>
    have hfile : (fileGraph w path).Regular := regular_fileGraph w path
    have hrest : (Graph.total (paths.map (fileGraph w))).Regular :=
      Graph.regular_total fun _ => regular_of_mem_map_fileGraph
    obtain ⟨c, hc, hgraph⟩ := exists_analyseFile_eq_ok (hsound path List.mem_cons_self) hb
    have hregular : c.graph.Regular := hgraph ▸ hb.merge hfile .sum
    obtain ⟨d, hd, hgraph'⟩ := ih (fun p hp => hsound p (List.mem_cons_of_mem _ hp)) hregular
    refine ⟨d, ?_, ?_⟩
    · rw [List.foldlM_cons, hc]
      exact hd
    · rw [hgraph', hgraph, Graph.merge_assoc hb hfile hrest]
      rfl

/-- Files that are all taken in have no syntax error.

**Proof sketch.** Induction along the files: a syntax error in the first one ends the analysis, and
the others are taken in after it. -/
lemma isSound_of_foldlM_eq_ok {paths : List String} {b b' : Builder}
    (h : paths.foldlM (analyseFile w) b = .ok b') : ∀ path ∈ paths, IsSound w path := by
  induction paths generalizing b with
  | nil => exact fun path hpath => absurd hpath List.not_mem_nil
  | cons path paths ih =>
    rw [List.foldlM_cons] at h
    cases hc : analyseFile w b path with
    | error e =>
      rw [hc] at h
      exact nomatch h
    | ok c =>
      rw [hc] at h
      intro p hp
      rcases List.mem_cons.1 hp with rfl | hp
      · exact isSound_of_analyseFile_eq_ok hc
      · exact ih h p hp

/-- **The analysis succeeds exactly if no file has a syntax error**, and then comes out with the sum
of the graphs of all files.

**Proof sketch.** Each file adds up: what it does to the graph is merging in its own graph. So a run
over the files merges all of these. -/
lemma analyse_eq_ok_iff {paths : List String} {g : Graph} :
    analyse w paths = .ok g ↔
      (∀ path ∈ paths, IsSound w path) ∧ g = .total (paths.map (fileGraph w)) := by
  have hok : (∀ path ∈ paths, IsSound w path) →
      analyse w paths = .ok (.total (paths.map (fileGraph w))) := by
    intro hsound
    obtain ⟨b, hb, hgraph⟩ := exists_foldlM_analyseFile_eq_ok hsound Builder.regular_empty
    rw [analyse, hb]
    refine congrArg Except.ok (hgraph.trans (Graph.empty_merge ?_ .sum))
    exact Graph.regular_total fun _ => regular_of_mem_map_fileGraph
  constructor
  · intro h
    have hsound : ∀ path ∈ paths, IsSound w path := by
      unfold analyse at h
      cases hb : paths.foldlM (analyseFile w) Builder.empty with
      | error e =>
        rw [hb] at h
        exact nomatch h
      | ok b => exact isSound_of_foldlM_eq_ok hb
    exact ⟨hsound, Except.ok.inj (h.symm.trans (hok hsound))⟩
  · rintro ⟨hsound, rfl⟩
    exact hok hsound

/-- **The analysis of many files is a sum.** It succeeds exactly if no file that can be read has a
syntax error. Then its graph is the sum of the graphs of all files, where files that cannot be read
count nothing; so a list of files may be split into two whose graphs are merged, and the order of
the files does not count.

**Proof sketch.** What one file does to the graph that is built so far is merging in the graph that
it gives alone. The rest are laws of sums of graphs. -/
theorem analysis_is_sum_of_files (w : World) (xs ys : List String) :
    ((∃ g, analyse w (xs ++ ys) = .ok g) ↔ ∀ path ∈ xs ++ ys, IsSound w path) ∧
    (∀ g, analyse w (xs ++ ys) = .ok g → g = .total ((xs ++ ys).map (fileGraph w)) ∧
      ∃ gx gy, analyse w xs = .ok gx ∧ analyse w ys = .ok gy ∧ g = gx.merge gy .sum) ∧
    (∀ zs g, (xs ++ ys).Perm zs → analyse w (xs ++ ys) = .ok g → analyse w zs = .ok g) ∧
    ∀ path, w.read? path = none → analyse w (xs ++ path :: ys) = analyse w (xs ++ ys) := by
  refine ⟨⟨?_, ?_⟩, fun g hg => ?_, fun zs g hperm hg => ?_, fun path hpath => ?_⟩
  · rintro ⟨g, hg⟩
    exact (analyse_eq_ok_iff.1 hg).1
  · exact fun hsound => ⟨_, analyse_eq_ok_iff.2 ⟨hsound, rfl⟩⟩
  · obtain ⟨hsound, rfl⟩ := analyse_eq_ok_iff.1 hg
    refine ⟨rfl, _, _, analyse_eq_ok_iff.2 ⟨fun p hp => ?_, rfl⟩,
      analyse_eq_ok_iff.2 ⟨fun p hp => ?_, rfl⟩, ?_⟩
    · exact hsound p (List.mem_append_left _ hp)
    · exact hsound p (List.mem_append_right _ hp)
    · rw [List.map_append]
      exact Graph.total_append (fun _ => regular_of_mem_map_fileGraph)
        fun _ => regular_of_mem_map_fileGraph
  · obtain ⟨hsound, rfl⟩ := analyse_eq_ok_iff.1 hg
    refine analyse_eq_ok_iff.2 ⟨fun p hp => hsound p (hperm.mem_iff.2 hp), ?_⟩
    exact Graph.total_perm (fun _ => regular_of_mem_map_fileGraph) (hperm.map _)
  · have hskip : ∀ b, analyseFile w b path = .ok b := fun b => by
      unfold analyseFile
      simp only [hpath]
    rw [analyse, analyse, List.foldlM_append, List.foldlM_append]
    simp only [List.foldlM_cons, hskip]
    rfl

/-- Two files with one module, one of which declares as an interface what the other one declares as a
class and a third file only uses, and a file that is not there: in any order, the analysis gives the
merge of what it gives for two parts of the list. -/
theorem analysis_of_conflicting_files :
    let w : World := { files := .directory [("src", .directory
      [("lib.rs", .file "use crate::a::Thing;\nuse crate::a::{Thing as T};".toUTF8),
       ("a.rs", .file "pub struct Thing;".toUTF8),
       ("a", .directory [("mod.rs", .file "pub trait Thing \x7b\x7d".toUTF8)])])] }
    ∃ g gx gy, analyse w ["src/lib.rs", "src/none.rs", "src/a.rs", "src/a/mod.rs"] = .ok g ∧
      analyse w ["src/lib.rs", "src/none.rs"] = .ok gx ∧
      analyse w ["src/a.rs", "src/a/mod.rs"] = .ok gy ∧ g = gx.merge gy .sum ∧
      analyse w ["src/a/mod.rs", "src/a.rs", "src/none.rs", "src/lib.rs"] = .ok g ∧
      g.kind? "crate::a::Thing" = some .interface ∧
      g.weight? "crate" "crate::a::Thing" = some 2 := by
  intro w
  obtain ⟨-, hsplit, hperm, -⟩ :=
    analysis_is_sum_of_files w ["src/lib.rs", "src/none.rs"] ["src/a.rs", "src/a/mod.rs"]
  have hviews : (analyse w ["src/lib.rs", "src/none.rs", "src/a.rs", "src/a/mod.rs"]).toOption.map
      (fun g => (g.kind? "crate::a::Thing", g.weight? "crate" "crate::a::Thing")) =
        some (some .interface, some 2) := by
    decide +kernel
  cases hg : analyse w ["src/lib.rs", "src/none.rs", "src/a.rs", "src/a/mod.rs"] with
  | error e =>
    rw [hg] at hviews
    exact nomatch hviews
  | ok g =>
    rw [hg] at hviews
    obtain ⟨hkind, hweight⟩ := Prod.mk.inj (Option.some.inj hviews)
    obtain ⟨-, gx, gy, hgx, hgy, hmerge⟩ := hsplit g hg
    exact ⟨g, gx, gy, rfl, hgx, hgy, hmerge, hperm _ g (by decide) hg, hkind, hweight⟩

end DepAtlas.Source
