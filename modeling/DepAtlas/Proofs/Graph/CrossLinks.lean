import Mathlib.Data.List.Sort
import DepAtlas.Proofs.Metrics.Reach
import DepAtlas.View.Lines

set_option relaxedAutoImplicit false
set_option autoImplicit false

/-!
# Links between different entities

Diagrams show the links between different entities only. This file says which graphs have the same
entities and the same links of this kind, and takes the other links away.

## Main definitions

* `DepAtlas.Graph.crossLinks` — the sources and targets of the links between different entities.
* `DepAtlas.Graph.AgreeAcross` — graphs that differ in links to oneself only.
* `DepAtlas.Graph.withoutSelfLinks` — the graph without the links from entities to themselves.

## Main results

* `DepAtlas.Graph.entities_eq_iff`, `DepAtlas.Graph.crossDependencies_eq_iff`,
  `DepAtlas.Graph.crossLinks_eq_iff` — equal listings in terms of the views of a graph.
* `DepAtlas.Graph.agreeAcross_withoutSelfLinks` — the other links are still there.
-/

namespace DepAtlas

/-- No dependency is listed before itself. -/
instance : Std.Irrefl Dependency.Before :=
  ⟨fun _ h => h.asymm h⟩

/-- Two dependencies are not listed before each other, so that lists in this order are known from
their members. -/
instance : Std.Antisymm Dependency.Before :=
  ⟨fun _ _ h h' => absurd h' h.asymm⟩

namespace Graph

variable {g h : Graph}

/-! ## Equal listings -/

/-- Graphs list the same entities exactly if the same names have the same kinds. -/
lemma entities_eq_iff : g.entities = h.entities ↔ ∀ name, g.kind? name = h.kind? name := by
  constructor
  · intro heq name
    ext kind
    exact mem_entities (e := ⟨name, kind⟩).symm.trans (heq ▸ mem_entities)
  · intro hkind
    have hkinds : g.kinds = h.kinds := Std.ExtTreeMap.ext_getElem? fun name => hkind name
    rw [entities, entities, hkinds]

/-- The dependencies between different entities are those of the graph whose ends differ. -/
lemma mem_crossDependencies {d : Dependency} : d ∈ g.crossDependencies ↔
    g.weight? d.source d.target = some d.weight ∧ d.source ≠ d.target := by
  simp [crossDependencies, List.mem_filter, mem_dependencies, Dependency.isSelf]

/-- They are listed in the order of all dependencies. -/
lemma pairwise_crossDependencies (g : Graph) : g.crossDependencies.Pairwise Dependency.Before :=
  g.rows.pairwise_toDependencies.filter _

/-- Graphs list the same links between different entities exactly if these have the same
weights. -/
lemma crossDependencies_eq_iff : g.crossDependencies = h.crossDependencies ↔
    ∀ source target, source ≠ target → g.weight? source target = h.weight? source target := by
  constructor
  · intro heq source target hne
    ext weight
    have hmem := congrArg (⟨source, target, weight⟩ ∈ ·) heq
    simpa [mem_crossDependencies, hne] using hmem
  · intro hweight
    refine g.pairwise_crossDependencies.eq_of_mem_iff h.pairwise_crossDependencies fun d => ?_
    rw [mem_crossDependencies, mem_crossDependencies]
    exact and_congr_left fun hne => by rw [hweight _ _ hne]

/-- The sources and targets of the links between different entities, in order. -/
def crossLinks (g : Graph) : List (String × String) :=
  g.crossDependencies.map fun d => (d.source, d.target)

/-- A link between different entities is listed exactly if one of them depends on the other. -/
lemma mem_crossLinks {source target : String} :
    (source, target) ∈ g.crossLinks ↔ g.DependsOn source target ∧ source ≠ target := by
  simp only [crossLinks, List.mem_map, mem_crossDependencies, Prod.mk.injEq, DependsOn,
    Option.ne_none_iff_exists']
  constructor
  · rintro ⟨d, ⟨hw, hne⟩, rfl, rfl⟩
    exact ⟨⟨d.weight, hw⟩, hne⟩
  · rintro ⟨⟨weight, hw⟩, hne⟩
    exact ⟨⟨source, target, weight⟩, ⟨hw, hne⟩, rfl, rfl⟩

/-- The ends of these links are names of the graph. -/
lemma EndsDeclared.mem_names_of_mem_crossLinks (hg : g.EndsDeclared) {link : String × String}
    (h : link ∈ g.crossLinks) : link.1 ∈ g.names ∧ link.2 ∈ g.names := by
  obtain ⟨d, hd, rfl⟩ := List.mem_map.1 h
  obtain ⟨hs, ht⟩ := hg d (List.mem_filter.1 hd).1
  exact ⟨mem_names.2 hs, mem_names.2 ht⟩

/-- Links are listed in order, by source and by target for one source, so each is listed once. -/
lemma pairwise_crossLinks (g : Graph) : g.crossLinks.Pairwise (Prod.Lex (· < ·) (· < ·)) :=
  List.pairwise_map.2 (g.pairwise_crossDependencies.imp fun h => Prod.lex_def.2 h)

/-- Graphs list the same links between different entities, apart from weights, exactly if the same
entities depend on each other. -/
lemma crossLinks_eq_iff : g.crossLinks = h.crossLinks ↔
    ∀ source target, source ≠ target → (g.DependsOn source target ↔ h.DependsOn source target) := by
  constructor
  · intro heq source target hne
    have hmem := congrArg ((source, target) ∈ ·) heq
    simpa [mem_crossLinks, hne] using hmem
  · intro hdepends
    refine g.pairwise_crossLinks.eq_of_mem_iff h.pairwise_crossLinks fun ⟨source, target⟩ => ?_
    rw [mem_crossLinks, mem_crossLinks]
    exact and_congr_left (hdepends source target)

/-! ## Graphs that differ in links to oneself -/

/-- The graphs have the same entities, and the same links between different entities. What a view
leaves out that shows no self-links is all in which they may differ. -/
structure AgreeAcross (g h : Graph) : Prop where
  kind? : ∀ name, g.kind? name = h.kind? name
  weight? : ∀ source target, source ≠ target → g.weight? source target = h.weight? source target

namespace AgreeAcross

/-- Such graphs list the same entities. -/
lemma entities (hgh : g.AgreeAcross h) : g.entities = h.entities :=
  entities_eq_iff.2 hgh.kind?

/-- Such graphs list the same names. -/
lemma names (hgh : g.AgreeAcross h) : g.names = h.names := by
  rw [← map_name_entities, hgh.entities, map_name_entities]

/-- Such graphs list the same links between different entities, with their weights. -/
lemma crossDependencies (hgh : g.AgreeAcross h) : g.crossDependencies = h.crossDependencies :=
  crossDependencies_eq_iff.2 hgh.weight?

end AgreeAcross

/-- The graph without the links from entities to themselves; all entities are kept. -/
def withoutSelfLinks (g : Graph) : Graph :=
  { g with rows := .ofDependencies g.crossDependencies }

/-- Only the weights of links from entities to themselves go. -/
lemma weight?_withoutSelfLinks (source target : String) :
    g.withoutSelfLinks.weight? source target =
      if source = target then none else g.weight? source target := by
  change (Rows.ofDependencies (g.rows.toDependencies.filter _)).weight? source target = _
  ext weight
  rw [Rows.weight?_ofDependencies, Option.filter_eq_some_iff]
  by_cases heq : source = target
  · simp [Dependency.isSelf, heq]
  · simp [Dependency.isSelf, heq, weight?]

/-- The other links are still there, with their weights. -/
lemma agreeAcross_withoutSelfLinks (g : Graph) : g.AgreeAcross g.withoutSelfLinks where
  kind? _ := rfl
  weight? source target hne := by rw [weight?_withoutSelfLinks, if_neg hne]

/-- What is left leads from entities to entities. -/
lemma EndsDeclared.withoutSelfLinks (hg : g.EndsDeclared) : g.withoutSelfLinks.EndsDeclared := by
  refine endsDeclared_iff.2 fun source target weight hweight => ?_
  rw [weight?_withoutSelfLinks] at hweight
  split at hweight
  · simp at hweight
  · exact endsDeclared_iff.1 hg source target weight hweight

end Graph

end DepAtlas
