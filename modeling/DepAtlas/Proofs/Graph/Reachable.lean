import DepAtlas.Filter.Rule
import DepAtlas.Graph.Builder
import DepAtlas.Graph.Serial
import DepAtlas.Proofs.Graph.Merge
import DepAtlas.Proofs.Graph.Rename
import DepAtlas.Proofs.Graph.Retain
import DepAtlas.View.PlantUml

set_option relaxedAutoImplicit false
set_option autoImplicit false

/-!
# The graphs that can be reached

Graphs are built from observations and then merged, cut down and renamed. Whatever is done in
whatever order, the graph that comes out is well formed.

## Main definitions

* `DepAtlas.Builder.Step`, `DepAtlas.Builder.run` — the steps of a builder, and a run of them.
* `DepAtlas.Graph.Reachable` — the graphs that come out of finitely many operations.

## Main results

* `DepAtlas.Builder.wellFormed_step`, `DepAtlas.Builder.wellFormed_run` — a builder keeps its
  graph well formed.
* `DepAtlas.Graph.Invariant.apply`, `DepAtlas.Graph.EndsDeclared.apply` — so does every filter rule.
* `DepAtlas.Graph.reachable_wellFormed` — every reachable graph is well formed, so it is known by
  its listings, and all its links can be numbered and drawn.
-/

namespace DepAtlas

/-! ## Builders -/

namespace Builder

/-- A step of a builder. A count is at most the greatest weight. -/
inductive Step where
  | add (fact : Fact)
  | addWeighted (fact : Fact) (count : ℕ) (count_le : count ≤ weightLimit)
  | declare (e : Entity)

/-- The builder after a step. -/
def step (b : Builder) : Step → Builder
  | .add fact => b.add fact
  | .addWeighted fact count _ => b.addWeighted fact count
  | .declare e => b.declare e

/-- The builder after a run of steps from the empty one. -/
def run (steps : List Step) : Builder :=
  steps.foldl step empty

variable {b : Builder}

/-- A fact with a count in range keeps the graph well formed: both ends are declared before they are
linked, and a count of zero makes no link. -/
lemma wellFormed_addWeighted (hb : b.graph.WellFormed) (fact : Fact) {count : ℕ}
    (hc : count ≤ weightLimit) : (b.addWeighted fact count).graph.WellFormed := by
  unfold addWeighted
  split
  · exact hb
  · next hblank =>
    obtain ⟨hs, ht⟩ := not_or.1 (mt Bool.or_eq_true_iff.2 hblank)
    split
    · exact (hb.declare _).declare _
    · next hzero =>
      exact hb.insert (Bool.eq_false_iff.2 hs) (Bool.eq_false_iff.2 ht)
        (Nat.one_le_iff_ne_zero.2 hzero) hc .sum

/-- A declaration keeps the graph well formed, as a blank name is not declared. -/
lemma wellFormed_declare (hb : b.graph.WellFormed) (e : Entity) :
    (b.declare e).graph.WellFormed := by
  unfold declare
  split
  · exact hb
  · exact Graph.Invariant.declare hb e

/-- A step keeps the graph of a builder well formed. -/
lemma wellFormed_step (hb : b.graph.WellFormed) (s : Step) : (b.step s).graph.WellFormed := by
  unfold step
  cases s with
  | add fact => exact wellFormed_addWeighted hb fact (by decide)
  | addWeighted fact count hc => exact wellFormed_addWeighted hb fact hc
  | declare e => exact wellFormed_declare hb e

/-- A run of steps builds a well-formed graph. -/
lemma wellFormed_run (steps : List Step) : (run steps).graph.WellFormed :=
  List.foldlRecOn steps step (motive := fun b => b.graph.WellFormed) .empty
    fun _ hb s _ => wellFormed_step hb s

/-- Adding facts one after the other is a run of steps. -/
lemma run_map_add (facts : List Fact) : run (facts.map .add) = empty.addAll facts :=
  List.foldl_map

end Builder

namespace Graph

variable {least : ℕ} {g h : Graph}

/-! ## Filter rules -/

/-- **Every filter rule keeps the invariant.** -/
theorem Invariant.apply (hg : g.Invariant least) (rule : Rule) :
    (rule.apply g).Invariant least := by
  unfold Rule.apply
  cases rule with
  | excludeInternals _ _ => exact hg.retainEntities _
  | excludeExternal => exact hg.retainEntities _
  | filterNamespace _ _ => exact hg.retainEntities _
  | filterFrom _ _ => exact hg.retainLinks _
  | collapseDepth _ _ => exact hg.rename _
  | excludePattern _ => exact hg.retainEntities _
  | collapseToNamespace _ => exact hg.rename _

/-- Every filter rule keeps the ends of links declared. -/
lemma EndsDeclared.apply (hg : g.EndsDeclared) (rule : Rule) : (rule.apply g).EndsDeclared := by
  unfold Rule.apply
  cases rule with
  | excludeInternals _ _ => exact endsDeclared_retainEntities _ g
  | excludeExternal => exact endsDeclared_retainEntities _ g
  | filterNamespace _ _ => exact endsDeclared_retainEntities _ g
  | filterFrom _ _ => exact hg.retainLinks _
  | collapseDepth _ _ => exact endsDeclared_rename _ g
  | excludePattern _ => exact endsDeclared_retainEntities _ g
  | collapseToNamespace _ => exact endsDeclared_rename _ g

/-! ## Listings and lookups -/

/-- Without empty rows, graphs with equal listings are equal. -/
lemma ext_of_listings (hg : g.rows.NoEmpty) (hh : h.rows.NoEmpty)
    (he : g.entities = h.entities) (hd : g.dependencies = h.dependencies) : g = h := by
  refine ext_of_views hg hh (fun name => ?_) fun source target => ?_
  · ext kind
    exact mem_entities (e := ⟨name, kind⟩).symm.trans (he ▸ mem_entities)
  · ext weight
    exact mem_dependencies (d := ⟨source, target, weight⟩).symm.trans (hd ▸ mem_dependencies)

/-- A list can be looked up as a whole if every entry can. -/
lemma exists_mapM_eq_some {α β : Type} {f : α → Option β} {xs : List α}
    (h : ∀ x ∈ xs, ∃ y, f x = some y) : ∃ ys, xs.mapM f = some ys := by
  induction xs with
  | nil => exact ⟨[], rfl⟩
  | cons x xs ih =>
    obtain ⟨y, hy⟩ := h x List.mem_cons_self
    obtain ⟨ys, hys⟩ := ih fun x hx => h x (List.mem_cons_of_mem _ hx)
    exact ⟨y :: ys, by simp [List.mapM_cons, hy, hys]⟩

/-- An entity has a place in name order. -/
lemma exists_place?_eq_some {name : String} (hname : g.contains name = true) :
    ∃ place, g.names.idxOf? name = some place :=
  Option.isSome_iff_exists.1 (List.isSome_idxOf?.2 (mem_names.2 hname))

/-- If all ends are declared, the links can be numbered. -/
lemma EndsDeclared.numbered?_ne_none (hg : g.EndsDeclared) : g.numbered? ≠ none := by
  refine Option.ne_none_iff_exists'.2 (exists_mapM_eq_some fun d hd => ?_)
  obtain ⟨hs, ht⟩ := hg d hd
  obtain ⟨s, hs⟩ := exists_place?_eq_some hs
  obtain ⟨t, ht⟩ := exists_place?_eq_some ht
  exact ⟨(s, t, d.weight), by simp [place?, hs, ht]⟩

/-- If all ends are declared, the graph has a class diagram. -/
lemma EndsDeclared.toPlantUml?_ne_none (hg : g.EndsDeclared) : g.toPlantUml? ≠ none := by
  have harrows : ∃ arrows, g.crossDependencies.mapM (PlantUml.arrow? g.names) = some arrows := by
    refine exists_mapM_eq_some fun d hd => ?_
    obtain ⟨hs, ht⟩ := hg d (List.mem_filter.1 hd).1
    obtain ⟨s, hs⟩ := exists_place?_eq_some hs
    obtain ⟨t, ht⟩ := exists_place?_eq_some ht
    exact ⟨_, by simp [PlantUml.arrow?, PlantUml.aliasOf?, hs, ht]; rfl⟩
  obtain ⟨arrows, harrows⟩ := harrows
  simp [toPlantUml?, harrows]

/-! ## Reachable graphs -/

/-- The graphs that come out of finitely many operations, each applied to graphs that came out
before it. The cases are the operations that commands are made of. -/
inductive Reachable : Graph → Prop where
  | empty : Reachable .empty
  | run (steps : List Builder.Step) : Reachable (Builder.run steps).graph
  | ofFacts (facts : List Fact) : Reachable (.ofFacts facts)
  | declare {g : Graph} (hg : Reachable g) (e : Entity) : Reachable (g.declare e)
  | merge {g h : Graph} (hg : Reachable g) (hh : Reachable h) (policy : Policy) :
    Reachable (g.merge h policy)
  | retainEntities {g : Graph} (hg : Reachable g) (keep : Entity → Bool) :
    Reachable (g.retainEntities keep)
  | retainLinks {g : Graph} (hg : Reachable g) (keep : String → String → Bool) :
    Reachable (g.retainLinks keep)
  | rename {g : Graph} (hg : Reachable g) (f : Entity → Option Entity) : Reachable (g.rename f)
  | apply {g : Graph} (hg : Reachable g) (rule : Rule) : Reachable (rule.apply g)

/-- Every reachable graph is well formed.

**Proof sketch.** Induction on how the graph is reached, by what each operation keeps. -/
lemma Reachable.wellFormed (hg : Reachable g) : g.WellFormed := by
  induction hg with
  | empty => exact .empty
  | run steps => exact Builder.wellFormed_run steps
  | ofFacts facts =>
    rw [Graph.ofFacts, ← Builder.run_map_add]
    exact Builder.wellFormed_run _
  | declare _ e ih => exact ih.declare e
  | merge _ _ policy ihg ihh => exact ihg.merge ihh policy
  | retainEntities _ keep ih => exact ih.retainEntities keep
  | retainLinks _ keep ih => exact ih.retainLinks keep
  | rename _ f ih => exact ih.rename f
  | apply _ rule ih => exact ih.apply rule

/-- **Every reachable graph is well formed.** So an entity has dependencies exactly if a link starts
at it, reachable graphs are equal exactly if their listings are, and looking up the ends of the
links never fails, neither for numbering them nor for drawing them.

**Proof sketch.** The invariant is kept by each operation. As no row is empty, the listings have all
that a graph is made of, and as the ends of links are declared, each of them has a place in name
order. -/
theorem reachable_wellFormed (hg : Reachable g) :
    g.WellFormed ∧
    (∀ name, g.hasDependencies name = true ↔ ∃ d ∈ g.dependencies, d.source = name) ∧
    (∀ h, Reachable h →
      (g = h ↔ g.entities = h.entities ∧ g.dependencies = h.dependencies)) ∧
    g.numbered? ≠ none ∧ g.toPlantUml? ≠ none := by
  have hw := hg.wellFormed
  refine ⟨hw, fun name => hasDependencies_iff, fun h hh => ⟨?_, ?_⟩,
    hw.endsDeclared.numbered?_ne_none, hw.endsDeclared.toPlantUml?_ne_none⟩
  · rintro rfl
    exact ⟨rfl, rfl⟩
  · rintro ⟨he, hd⟩
    exact ext_of_listings hw.noEmptyRow hh.wellFormed.noEmptyRow he hd

/-- A graph of two facts, one of them with a blank end, that is merged with itself and then cut down
to roots: the blank name is gone, and the one link can be numbered. Its weight counts the fact
twice. -/
theorem wellFormed_collapsed_merge :
    let built := ofFacts [⟨⟨"a::x", .class⟩, ⟨"b::y", .unknown⟩⟩, ⟨⟨" ", .unknown⟩, ⟨"b", .module⟩⟩]
    let g := (Rule.collapseDepth 1 "::").apply (built.merge built .sum)
    Reachable g ∧ g.WellFormed ∧ g.numbered? ≠ none ∧ g.dependencies = [⟨"a", "b", 2⟩] := by
  intro built g
  have hbuilt : Reachable built := .ofFacts _
  have hg : Reachable g := .apply (.merge hbuilt hbuilt .sum) _
  obtain ⟨hw, -, -, hnumbered, -⟩ := reachable_wellFormed hg
  exact ⟨hg, hw, hnumbered, by decide +kernel⟩

end Graph

end DepAtlas
