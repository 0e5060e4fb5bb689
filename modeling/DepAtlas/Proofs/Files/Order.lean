import DepAtlas.Files.Locate
import Mathlib.Data.List.Sort

set_option relaxedAutoImplicit false
set_option autoImplicit false

/-!
# The order of paths

Paths are ordered component by component, so two paths are level exactly if they have the same components;
repeated slashes and inner dots do not count. A list of paths that is sorted and freed of repetitions is
strictly increasing, and which paths are in it does not depend on how the list was ordered before.

## Main definitions

* `DepAtlas.Path.Same` — two spellings of one path.
* `DepAtlas.sortedPaths` — paths in order, each once.

## Main results

* `DepAtlas.Path.compare_eq_iff` — exactly the spellings of one path are level.
* `DepAtlas.pairwise_sortedPaths` — paths in order are strictly increasing.
* `DepAtlas.exists_same_mem_sortedPaths` — no path gets lost.
* `DepAtlas.map_components_sortedPaths_congr` — the same paths come out as the same list.
-/

namespace DepAtlas

namespace Path

/-! ## Components -/

namespace Component

/-- The name of a component that has one. The others get the empty name, so that the kind decides
about them alone. -/
def name : Component → String
  | root | current | parent => ""
  | normal name => name

/-- Components are ordered by their kind first, and names of one kind by their characters. -/
lemma compare_eq (a b : Component) :
    Ord.compare a b = (Ord.compare a.rank b.rank).then (Ord.compare a.name b.name) := by
  cases a <;> cases b <;> rfl

/-- The order of components is an order: it goes by the kind and then by the name, and both are
ordered. -/
instance : Std.TransOrd Component := by
  have hcompare : (Ord.compare : Component → Component → Ordering) =
      compareLex (compareOn rank) (compareOn name) := funext fun a => funext fun b => compare_eq a b
  change Std.TransCmp Ord.compare
  rw [hcompare]
  infer_instance

/-- Only equal components are level, since components of one kind that has no name are equal. -/
instance : Std.LawfulEqOrd Component where
  eq_of_compare {a b} h := by
    rw [compare_eq, Ordering.then_eq_eq] at h
    obtain ⟨hrank, hname⟩ := h
    have hrank := Std.LawfulEqCmp.eq_of_compare hrank
    have hname := Std.LawfulEqCmp.eq_of_compare hname
    cases a <;> cases b <;>
      first | rfl | exact congrArg normal hname | exact absurd hrank (Nat.ne_of_beq_eq_false rfl)

end Component

/-- Paths are compared component by component, and a path that ends earlier comes first. -/
lemma compareComponents_eq (as bs : List Component) :
    compareComponents as bs = List.compareLex Ord.compare as bs := by
  induction as generalizing bs with
  | nil => cases bs <;> rfl
  | cons a as ih =>
    cases bs with
    | nil => rfl
    | cons b bs =>
      rw [compareComponents, List.compareLex_cons_cons, ih]

/-! ## Paths -/

/-- Two spellings of one path. Paths are compared by their components, so repeated slashes, a slash
at the end and dots behind the first component make no difference, while a dot in front does. -/
def Same (a b : String) : Prop :=
  components a = components b

/-- Whether two texts spell one path can be decided by their components. -/
instance (a b : String) : Decidable (Same a b) :=
  inferInstanceAs (Decidable (components a = components b))

/-- A path is a spelling of itself. -/
lemma Same.refl (a : String) : Same a a := rfl

/-- Spellings of one path may be exchanged. -/
lemma Same.symm {a b : String} (h : Same a b) : Same b a := Eq.symm h

/-- Spellings of a path that are compared with a third one are spellings of that as well. -/
lemma Same.trans {a b c : String} (h : Same a b) (h' : Same b c) : Same a c := Eq.trans h h'

/-- Two paths are compared as the lists of their components are. -/
lemma compare_eq_compareLex (a b : String) :
    compare a b = List.compareLex Ord.compare (components a) (components b) :=
  compareComponents_eq _ _

/-- The order of paths is taken over from the order of their components. It is no order of
spellings, as two of them can be level. -/
instance : Std.TransCmp compare where
  eq_swap {a b} := by
    rw [compare_eq_compareLex, compare_eq_compareLex]
    exact Std.OrientedCmp.eq_swap
  isLE_trans {a b c} hab hbc := by
    rw [compare_eq_compareLex] at hab hbc ⊢
    exact Std.TransCmp.isLE_trans hab hbc

/-- **Exactly the spellings of one path are level.** -/
lemma compare_eq_iff {a b : String} : compare a b = .eq ↔ Same a b := by
  rw [compare_eq_compareLex, Std.LawfulEqCmp.compare_eq_iff_eq]
  rfl

end Path

open DepAtlas.Path (Same)

variable {paths paths' : List String}

/-! ## Sorted paths -/

/-- Of equal neighbours the first one stays, so what is left keeps its order. -/
lemma sublist_withoutRepeats (paths : List String) : (withoutRepeats paths).Sublist paths := by
  induction paths using withoutRepeats.induct with
  | case1 a b rest hab ih =>
    rw [withoutRepeats, if_pos hab]
    exact ih.trans ((List.sublist_cons_self b rest).cons_cons a)
  | case2 a b rest hab ih =>
    rw [withoutRepeats, if_neg hab]
    exact ih.cons_cons a
  | case3 paths hpaths =>
    rw [withoutRepeats]
    exact hpaths

/-- A path that goes is the same as one that stays.

**Proof sketch.** Induction along the list. A path that is dropped is level with the one in front of
it, which may be dropped in turn, but for one that is the same. -/
lemma exists_same_mem_withoutRepeats {p : String} (hp : p ∈ paths) :
    ∃ q ∈ withoutRepeats paths, Same q p := by
  induction paths using withoutRepeats.induct generalizing p with
  | case1 a b rest hab ih =>
    rw [withoutRepeats, if_pos hab]
    rcases List.mem_cons.1 hp with rfl | hp
    · exact ih List.mem_cons_self
    · rcases List.mem_cons.1 hp with rfl | hp
      · obtain ⟨q, hq, hsame⟩ := ih List.mem_cons_self
        exact ⟨q, hq, hsame.trans (Path.compare_eq_iff.1 hab)⟩
      · exact ih (List.mem_cons_of_mem _ hp)
  | case2 a b rest hab ih =>
    rw [withoutRepeats, if_neg hab]
    rcases List.mem_cons.1 hp with rfl | hp
    · exact ⟨p, List.mem_cons_self, .refl p⟩
    · obtain ⟨q, hq, hsame⟩ := ih hp
      exact ⟨q, List.mem_cons_of_mem _ hq, hsame⟩
  | case3 paths hpaths =>
    rw [withoutRepeats]
    · exact ⟨p, hp, .refl p⟩
    · exact hpaths

/-- **Without repetitions, sorted paths are strictly increasing.**

**Proof sketch.** Induction along the list. A path that differs from the one behind it is below it, and so
below all that follow. -/
lemma pairwise_withoutRepeats (h : paths.Pairwise fun a b => (Path.compare a b).isLE = true) :
    (withoutRepeats paths).Pairwise fun a b => Path.compare a b = .lt := by
  induction paths using withoutRepeats.induct with
  | case1 a b rest hab ih =>
    rw [withoutRepeats, if_pos hab]
    exact ih (h.sublist ((List.sublist_cons_self b rest).cons_cons a))
  | case2 a b rest hab ih =>
    rw [withoutRepeats, if_neg hab]
    obtain ⟨hfirst, hrest⟩ := List.pairwise_cons.1 h
    have hlt : Path.compare a b = .lt := by
      have hle := hfirst b List.mem_cons_self
      cases hcompare : Path.compare a b with
      | lt => rfl
      | eq => exact absurd hcompare hab
      | gt => exact absurd hle (by simp [hcompare])
    refine List.pairwise_cons.2 ⟨fun x hx => ?_, ih hrest⟩
    rcases List.mem_cons.1 ((sublist_withoutRepeats (b :: rest)).subset hx) with rfl | hx
    · exact hlt
    · exact Std.TransCmp.lt_of_lt_of_isLE hlt ((List.pairwise_cons.1 hrest).1 x hx)
  | case3 paths hpaths =>
    rw [withoutRepeats]
    · match paths, hpaths with
      | [], _ => exact .nil
      | [a], _ => exact List.pairwise_singleton _ a
      | a :: b :: rest, hpaths => exact (hpaths a b rest rfl).elim
    · exact hpaths

/-- Paths in order, each once. This is what locating ends with; two spellings of one path are level,
and of such only the first one stays. -/
def sortedPaths (paths : List String) : List String :=
  withoutRepeats (paths.mergeSort fun a b => Path.compare a b != .gt)

/-- **Paths in order are strictly increasing.** Sorting leaves no path above one behind it, and
dropping repetitions leaves none level with one behind it. -/
theorem pairwise_sortedPaths (paths : List String) :
    (sortedPaths paths).Pairwise fun a b => Path.compare a b = .lt := by
  have hle : ∀ a b, (Path.compare a b != .gt) = (Path.compare a b).isLE := fun a b => by
    cases Path.compare a b <;> rfl
  refine pairwise_withoutRepeats ?_
  simp only [hle]
  refine List.pairwise_mergeSort (fun a b c => Std.TransCmp.isLE_trans) (fun a b => ?_) paths
  rw [@Std.OrientedCmp.eq_swap _ Path.compare _ b a]
  cases Path.compare a b <;> rfl

/-- No path is made up. -/
lemma mem_of_mem_sortedPaths {p : String} (h : p ∈ sortedPaths paths) : p ∈ paths :=
  List.mem_mergeSort.1 ((sublist_withoutRepeats _).subset h)

/-- No path gets lost, though another spelling of it may stay. -/
lemma exists_same_mem_sortedPaths {p : String} (h : p ∈ paths) : ∃ q ∈ sortedPaths paths, Same q p :=
  exists_same_mem_withoutRepeats (List.mem_mergeSort.2 h)

/-- Where no path is there in two spellings, each is there as it is. -/
lemma mem_sortedPaths_iff (hspelling : ∀ p ∈ paths, ∀ q ∈ paths, Same p q → p = q) {p : String} :
    p ∈ sortedPaths paths ↔ p ∈ paths := by
  refine ⟨mem_of_mem_sortedPaths, fun hp => ?_⟩
  obtain ⟨q, hq, hqp⟩ := exists_same_mem_sortedPaths hp
  exact hspelling q (mem_of_mem_sortedPaths hq) p hp hqp ▸ hq

/-- Nothing comes out of sorting exactly if nothing went in, so a search that found something is not
reported to be empty. -/
lemma sortedPaths_eq_nil_iff : sortedPaths paths = [] ↔ paths = [] := by
  constructor
  · intro h
    refine List.eq_nil_iff_forall_not_mem.2 fun p hp => ?_
    obtain ⟨q, hq, -⟩ := exists_same_mem_sortedPaths hp
    exact absurd (h ▸ hq) List.not_mem_nil
  · rintro rfl
    exact List.eq_nil_iff_forall_not_mem.2 fun p hp => List.not_mem_nil (mem_of_mem_sortedPaths hp)

/-- Two spellings of one path are not both there. -/
lemma pairwise_not_same_sortedPaths (paths : List String) :
    (sortedPaths paths).Pairwise fun a b => ¬ Same a b :=
  (pairwise_sortedPaths paths).imp fun hlt hsame =>
    absurd (hlt.symm.trans (Path.compare_eq_iff.2 hsame)) (by decide)

/-! ## The same paths in other orders -/

/-- The order of lists of components is an order, as it goes component by component. -/
instance : Std.TransCmp Path.compareComponents := by
  rw [show Path.compareComponents = List.compareLex Ord.compare from
    funext fun as => funext fun bs => Path.compareComponents_eq as bs]
  infer_instance

/-- Strictly increasing lists with the same members are equal. -/
lemma eq_of_pairwise_lt {α : Type} {cmp : α → α → Ordering} [Std.TransCmp cmp] {xs ys : List α}
    (hxs : xs.Pairwise fun a b => cmp a b = .lt) (hys : ys.Pairwise fun a b => cmp a b = .lt)
    (h : ∀ a, a ∈ xs ↔ a ∈ ys) : xs = ys := by
  have hirrefl : Std.Irrefl fun a b => cmp a b = .lt := ⟨fun a ha => by
    simp [Std.ReflCmp.compare_self] at ha⟩
  have hasymm : Std.Antisymm fun a b => cmp a b = .lt := ⟨fun a b hab hba =>
    absurd (hab.symm.trans (Std.OrientedCmp.gt_iff_lt.2 hba)) (by decide)⟩
  exact hxs.eq_of_mem_iff hys h

/-- What paths come out as is known from its order and its members. -/
lemma sortedPaths_eq (hspelling : ∀ p ∈ paths, ∀ q ∈ paths, Same p q → p = q)
    (h : paths'.Pairwise fun a b => Path.compare a b = .lt) (hmem : ∀ p, p ∈ paths ↔ p ∈ paths') :
    sortedPaths paths = paths' :=
  eq_of_pairwise_lt (pairwise_sortedPaths paths) h fun p => (mem_sortedPaths_iff hspelling).trans (hmem p)

section Congr

variable (h : ∀ p ∈ paths, ∃ q ∈ paths', Same q p) (h' : ∀ p ∈ paths', ∃ q ∈ paths, Same q p)

include h h'

/-- **The same paths come out as the same list**, in whatever order, spelling and number they went
in. Only the spelling that stays may depend on it.

**Proof sketch.** The components of both lists are strictly increasing and have the same members. -/
theorem map_components_sortedPaths_congr :
    (sortedPaths paths).map Path.components = (sortedPaths paths').map Path.components := by
  have hincreasing : ∀ paths, ((sortedPaths paths).map Path.components).Pairwise
      fun as bs => Path.compareComponents as bs = .lt := fun paths =>
    List.pairwise_map.2 (pairwise_sortedPaths paths)
  have hmem : ∀ {xs ys : List String}, (∀ p ∈ xs, ∃ q ∈ ys, Same q p) →
      ∀ c ∈ (sortedPaths xs).map Path.components, c ∈ (sortedPaths ys).map Path.components := by
    intro xs ys hsub c hc
    obtain ⟨p, hp, rfl⟩ := List.mem_map.1 hc
    obtain ⟨q, hq, hqp⟩ := hsub p (mem_of_mem_sortedPaths hp)
    obtain ⟨r, hr, hrq⟩ := exists_same_mem_sortedPaths hq
    exact List.mem_map.2 ⟨r, hr, hrq.trans hqp⟩
  exact eq_of_pairwise_lt (hincreasing paths) (hincreasing paths') fun c => ⟨hmem h c, hmem h' c⟩

/-- The same paths in the same spelling come out in this spelling.

**Proof sketch.** The components of the outcome are the same, and there is only one spelling for
each of them. -/
theorem sortedPaths_congr (hspelling : ∀ p ∈ paths, ∀ q ∈ paths', Same p q → p = q) :
    sortedPaths paths = sortedPaths paths' := by
  have hmem : ∀ {xs ys : List String}, (∀ p ∈ xs, ∃ q ∈ ys, Same q p) →
      (∀ p ∈ xs, ∀ q ∈ ys, Same p q → p = q) → ∀ p ∈ sortedPaths xs, p ∈ sortedPaths ys := by
    intro xs ys hsub hspelling p hp
    obtain ⟨q, hq, hqp⟩ := hsub p (mem_of_mem_sortedPaths hp)
    obtain ⟨r, hr, hrq⟩ := exists_same_mem_sortedPaths hq
    have hpr := hspelling p (mem_of_mem_sortedPaths hp) r (mem_of_mem_sortedPaths hr)
      (hrq.trans hqp).symm
    exact hpr ▸ hr
  exact eq_of_pairwise_lt (pairwise_sortedPaths paths) (pairwise_sortedPaths paths') fun p =>
    ⟨hmem h hspelling p, hmem h' (fun p hp q hq hpq => (hspelling q hq p hp hpq.symm).symm) p⟩

end Congr

end DepAtlas
