import Mathlib.Data.List.Nodup
import Mathlib.Logic.Relation
import DepAtlas.Metrics.Cycle
import DepAtlas.Proofs.Graph.Invariant

set_option relaxedAutoImplicit false
set_option autoImplicit false

/-!
# What an entity reaches

What an entity reaches is collected by a search with a list of names that are still to be
visited. This file says that the search always comes to an end within its bound, and that it
collects exactly what can be reached by one dependency after the other.

## Main definitions

* `DepAtlas.Graph.DependsOn`, `DepAtlas.Graph.Reaches` — depending on an entity, in one step and in
  at least one step.
* `DepAtlas.Graph.Frontier` — what holds whenever the search visits the next name.
* `DepAtlas.Graph.pending` — the number of visits that are left.

## Main results

* `DepAtlas.Graph.mem_explore` — a search with enough visits collects what can be reached.
* `DepAtlas.Graph.mem_reached` — so does the one that starts at an entity.
* `DepAtlas.Graph.reaches_reach` — the table of all searches decides what reaches what.
-/

namespace DepAtlas.Graph

variable {g : Graph} {start : String} {seen : NameSet} {todo : List String}

/-! ## Reaching -/

/-- The graph has a link from `a` to `b`. -/
def DependsOn (g : Graph) (a b : String) : Prop :=
  g.weight? a b ≠ none

/-- There is a walk of at least one dependency from `a` to `b`. Whether an entity reaches itself is
thus a question about the graph. -/
def Reaches (g : Graph) : String → String → Prop :=
  Relation.TransGen g.DependsOn

/-- The links of a graph are those of the listed dependencies. -/
lemma dependsOn_iff {a b : String} :
    g.DependsOn a b ↔ ∃ d ∈ g.dependencies, d.source = a ∧ d.target = b := by
  rw [DependsOn, Option.ne_none_iff_exists']
  constructor
  · rintro ⟨w, hw⟩
    exact ⟨⟨a, b, w⟩, mem_dependencies.2 hw, rfl, rfl⟩
  · rintro ⟨d, hd, rfl, rfl⟩
    exact ⟨d.weight, mem_dependencies.1 hd⟩

/-- An entity has dependencies exactly if it depends on something. -/
lemma hasDependencies_iff_dependsOn {name : String} :
    g.hasDependencies name = true ↔ ∃ target, g.DependsOn name target := by
  simp only [hasDependencies_iff, dependsOn_iff]
  constructor
  · rintro ⟨d, hd, hsource⟩
    exact ⟨d.target, d, hd, hsource, rfl⟩
  · rintro ⟨_, d, hd, hsource, -⟩
    exact ⟨d, hd, hsource⟩

/-- Both ends of a link are entities if all ends are declared. -/
lemma EndsDeclared.contains_of_dependsOn (hg : g.EndsDeclared) {a b : String}
    (h : g.DependsOn a b) : g.contains a = true ∧ g.contains b = true := by
  obtain ⟨d, hd, rfl, rfl⟩ := dependsOn_iff.1 h
  exact hg d hd

/-- Both ends of a walk are entities if all ends are declared. -/
lemma EndsDeclared.contains_of_reaches (hg : g.EndsDeclared) {a b : String}
    (h : g.Reaches a b) : g.contains a = true ∧ g.contains b = true := by
  obtain ⟨c, hac, -⟩ := Relation.TransGen.head'_iff.1 h
  obtain ⟨d, -, hdb⟩ := Relation.TransGen.tail'_iff.1 h
  exact ⟨(hg.contains_of_dependsOn hac).1, (hg.contains_of_dependsOn hdb).2⟩

/-! ## Rows and listings -/

/-- The listed dependencies are counted by the number of links. -/
lemma length_dependencies (g : Graph) : g.dependencies.length = g.linkCount := by
  rw [linkCount, Std.ExtTreeMap.foldl_eq_foldl_toList, dependencies, Rows.toDependencies,
    List.length_flatMap, List.sum_eq_foldl, List.foldl_map]
  simp

/-- The row of an entity is what the listing has for it as a source.

**Proof sketch.** The listing goes through all rows, and only the row of the entity has dependencies
with it as their source. -/
lemma mem_dependenciesOf {name : String} {d : Dependency} :
    d ∈ g.dependenciesOf name ↔ d ∈ g.dependencies ∧ d.source = name := by
  obtain ⟨source, target, weight⟩ := d
  rw [mem_dependencies, weight?, Rows.weight?, Option.bind_eq_some_iff]
  unfold dependenciesOf
  split
  · next row hrow =>
    simp only [List.mem_map, Prod.exists, Std.ExtTreeMap.mem_toList_iff_getElem?_eq_some,
      Dependency.mk.injEq]
    constructor
    · rintro ⟨_, _, hw, rfl, rfl, rfl⟩
      exact ⟨⟨row, hrow, hw⟩, rfl⟩
    · rintro ⟨⟨row', hrow', hw⟩, rfl⟩
      obtain rfl : row = row' := Option.some.inj (hrow.symm.trans hrow')
      exact ⟨target, weight, hw, rfl, rfl, rfl⟩
  · next hrow =>
    simp only [List.not_mem_nil, false_iff]
    rintro ⟨⟨row', hrow', -⟩, rfl⟩
    simp [hrow] at hrow'

/-- No dependency is listed twice. -/
lemma nodup_dependencies (g : Graph) : g.dependencies.Nodup :=
  .of_map _ g.nodup_links

/-- The row of an entity holds what the listing has for it as a source. Both lists have no
repetitions, so they have the same members equally often. -/
lemma perm_dependenciesOf (g : Graph) (name : String) :
    (g.dependenciesOf name).Perm (g.dependencies.filter (·.source == name)) := by
  have hnodup : (g.dependenciesOf name).Nodup := by
    unfold dependenciesOf
    split
    · next row _ =>
      refine List.pairwise_map.2 (row.distinct_keys_toList.imp fun h heq => h ?_)
      rw [(Dependency.mk.inj heq).2.1]
      exact Std.ReflCmp.compare_self
    · exact List.nodup_nil
  refine (List.perm_ext_iff_of_nodup hnodup (g.nodup_dependencies.filter _)).2 fun d => ?_
  rw [mem_dependenciesOf, List.mem_filter, beq_iff_eq]

/-- The row of an entity has as many entries as the listing has for it as a source. -/
lemma length_dependenciesOf (g : Graph) (name : String) :
    (g.dependenciesOf name).length = g.dependencies.countP (·.source == name) := by
  rw [(g.perm_dependenciesOf name).length_eq, List.countP_eq_length_filter]

/-- The targets of an entity are what it depends on. -/
lemma mem_targets {name b : String} : b ∈ g.targets name ↔ g.DependsOn name b := by
  rw [dependsOn_iff, targets, List.mem_map]
  simp only [mem_dependenciesOf, and_assoc]

/-! ## The search -/

/-- What holds between two visits of the search from `start`: what is collected or waiting can be
reached, and what `start` or a collected name depends on is collected or waiting. The first half
gives that nothing wrong is collected, and the second one that nothing is missing at the end. -/
structure Frontier (g : Graph) (start : String) (seen : NameSet) (todo : List String) : Prop where
  reachable : ∀ b, b ∈ seen ∨ b ∈ todo → g.Reaches start b
  closed : ∀ a b, a = start ∨ a ∈ seen → g.DependsOn a b → b ∈ seen ∨ b ∈ todo

namespace Frontier

/-- The search starts with what `start` depends on. -/
lemma init (g : Graph) (start : String) : Frontier g start ∅ (g.targets start) := by
  constructor
  · rintro b (hb | hb)
    · exact absurd hb Std.ExtTreeSet.not_mem_empty
    · exact .single (mem_targets.1 hb)
  · rintro a b (rfl | ha) hab
    · exact Or.inr (mem_targets.2 hab)
    · exact absurd ha Std.ExtTreeSet.not_mem_empty

/-- A name that is collected already is skipped. -/
lemma skip {name : String} (h : Frontier g start seen (name :: todo)) (hname : name ∈ seen) :
    Frontier g start seen todo := by
  refine ⟨fun b hb => h.reachable b (hb.imp_right (List.mem_cons_of_mem _)), fun a b ha hab => ?_⟩
  rcases h.closed a b ha hab with hb | hb
  · exact Or.inl hb
  · rcases List.mem_cons.1 hb with rfl | hb
    · exact Or.inl hname
    · exact Or.inr hb

/-- A new name is collected, and what it depends on waits from now on.

**Proof sketch.** What is waiting for the new name can be reached through it. What the new name
depends on is waiting, and for all other names nothing has changed. -/
lemma visit {name : String} (h : Frontier g start seen (name :: todo)) :
    Frontier g start (seen.insert name) (g.targets name ++ todo) := by
  have hname : g.Reaches start name := h.reachable name (Or.inr List.mem_cons_self)
  constructor
  · rintro b (hb | hb)
    · rcases Std.ExtTreeSet.mem_insert.1 hb with heq | hb
      · rwa [← Std.LawfulEqOrd.eq_of_compare heq]
      · exact h.reachable b (Or.inl hb)
    · rcases List.mem_append.1 hb with hb | hb
      · exact hname.tail (mem_targets.1 hb)
      · exact h.reachable b (Or.inr (List.mem_cons_of_mem _ hb))
  · intro a b ha hab
    have hcases : a = name ∨ a = start ∨ a ∈ seen := by
      rcases ha with ha | ha
      · exact Or.inr (Or.inl ha)
      · exact (Std.ExtTreeSet.mem_insert.1 ha).imp
          (fun heq => (Std.LawfulEqOrd.eq_of_compare heq).symm) Or.inr
    rcases hcases with rfl | ha
    · exact Or.inr (List.mem_append_left _ (mem_targets.2 hab))
    · rcases h.closed a b ha hab with hb | hb
      · exact Or.inl (Std.ExtTreeSet.mem_insert.2 (Or.inr hb))
      · rcases List.mem_cons.1 hb with rfl | hb
        · exact Or.inl Std.ExtTreeSet.mem_insert_self
        · exact Or.inr (List.mem_append_right _ hb)

/-- Once nothing is waiting, everything that can be reached is collected. -/
lemma mem_iff (h : Frontier g start seen []) {b : String} : b ∈ seen ↔ g.Reaches start b := by
  have hseen : ∀ a b, a = start ∨ a ∈ seen → g.DependsOn a b → b ∈ seen := fun a b ha hab =>
    (h.closed a b ha hab).resolve_right List.not_mem_nil
  refine ⟨fun hb => h.reachable b (Or.inl hb), fun hb => ?_⟩
  induction hb with
  | single hab => exact hseen _ _ (Or.inl rfl) hab
  | tail _ hab ih => exact hseen _ _ (Or.inr ih) hab

end Frontier

/-- The number of visits that are left: one for every waiting name, and one for every dependency
whose source is not yet collected. It goes down with each visit, so that the fuel of the search is
enough if it is at least this number. -/
def pending (g : Graph) (seen : NameSet) (todo : List String) : ℕ :=
  todo.length + g.dependencies.countP fun d => !seen.contains d.source

/-- Collecting a new name takes its dependencies out of the count.

**Proof sketch.** Every dependency is counted by the new name, by one that is still missing, or by
neither, before and after. -/
lemma countP_insert {name : String} (hname : name ∉ seen) (ds : List Dependency) :
    ds.countP (·.source == name) + ds.countP (fun d => !(seen.insert name).contains d.source) =
      ds.countP fun d => !seen.contains d.source := by
  induction ds with
  | nil => rfl
  | cons d ds ih =>
    simp only [List.countP_cons, ← ih, Std.ExtTreeSet.contains_insert]
    by_cases hd : d.source = name
    · subst hd
      have hnot : seen.contains d.source = false :=
        Bool.eq_false_iff.2 (mt Std.ExtTreeSet.contains_iff_mem.1 hname)
      simp [hnot]
      omega
    · have hne : (compare name d.source == .eq) = false := by
        simp [Ne.symm hd]
      simp [hd, hne]
      omega

/-- A new name trades its dependencies for waiting names. -/
lemma pending_visit {name : String} (hname : name ∉ seen) :
    g.pending (seen.insert name) (g.targets name ++ todo) = g.pending seen todo := by
  unfold pending
  rw [List.length_append, targets, List.length_map, length_dependenciesOf, ← countP_insert hname]
  omega

/-- **A search with enough visits collects what can be reached.**

**Proof sketch.** Induction on the search. Every visit keeps the frontier and uses up one of the
visits that are left, so with none left no name is waiting. -/
theorem mem_explore {fuel : ℕ} (h : Frontier g start seen todo) (hfuel : g.pending seen todo ≤ fuel)
    {b : String} : b ∈ g.explore fuel seen todo ↔ g.Reaches start b := by
  induction fuel generalizing seen todo with
  | zero =>
    have htodo : todo = [] := by
      unfold pending at hfuel
      exact List.length_eq_zero_iff.1 (by omega)
    subst htodo
    exact h.mem_iff
  | succ fuel ih =>
    match todo with
    | [] => exact h.mem_iff
    | name :: todo =>
      -- Both kinds of visit take the name off the list, so one visit less is left.
      have hless : g.pending seen todo ≤ fuel := by
        unfold pending at hfuel ⊢
        rw [List.length_cons] at hfuel
        omega
      unfold explore
      split
      · next hmem => exact ih (h.skip (Std.ExtTreeSet.contains_iff_mem.1 hmem)) hless
      · next hmem =>
        have hname : name ∉ seen := fun h => hmem (Std.ExtTreeSet.contains_iff_mem.2 h)
        exact ih h.visit ((pending_visit hname).trans_le hless)

/-- **The search from an entity collects exactly what it reaches.** -/
theorem mem_reached {a b : String} : b ∈ g.reached a ↔ g.Reaches a b := by
  refine mem_explore (.init g a) ?_
  have hrow : (g.targets a).length ≤ g.linkCount := by
    rw [targets, List.length_map, length_dependenciesOf, ← length_dependencies]
    exact List.countP_le_length
  have hall : (g.dependencies.countP fun d => !(∅ : NameSet).contains d.source) ≤ g.linkCount :=
    g.length_dependencies ▸ List.countP_le_length
  unfold pending
  omega

/-! ## The table of all searches -/

/-- A table that is filled name by name has the entry of every name. -/
lemma getElem?_foldl_insert (f : String → NameSet) (names : List String) (table : Reach)
    (a : String) :
    (names.foldl (fun table name => table.insert name (f name)) table)[a]? =
      if a ∈ names then some (f a) else table[a]? := by
  induction names generalizing table with
  | nil => simp
  | cons name names ih =>
    rw [List.foldl_cons, ih, Std.ExtTreeMap.getElem?_insert]
    by_cases ha : a = name
    · simp [ha]
    · simp [ha, Ne.symm ha]

/-- **The table decides what reaches what**, if all ends are declared. -/
theorem reaches_reach (hg : g.EndsDeclared) {a b : String} :
    reaches g.reach a b = true ↔ g.Reaches a b := by
  unfold reaches reach
  rw [getElem?_foldl_insert]
  by_cases ha : a ∈ g.names
  · simp only [if_pos ha]
    rw [Std.ExtTreeSet.contains_iff_mem, mem_reached]
  · simp only [if_neg ha]
    -- The table has no entry for other names, and no walk starts at them either.
    have hnot : ¬ g.Reaches a b := fun h => ha (mem_names.2 (hg.contains_of_reaches h).1)
    simp [hnot]

end DepAtlas.Graph
