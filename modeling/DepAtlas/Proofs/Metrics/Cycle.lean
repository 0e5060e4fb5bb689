import Mathlib.Data.List.Perm.Subperm
import Mathlib.Logic.Relation
import DepAtlas.Graph.Builder
import DepAtlas.Proofs.Graph.Reachable
import DepAtlas.Proofs.Metrics.Reach

set_option relaxedAutoImplicit false
set_option autoImplicit false

/-!
# Cycles are components

Two entities belong together if each reaches the other. The entities that reach themselves fall
into components, and the cycles of a graph are these components, each once and in the order of
their first members.

## Main definitions

* `DepAtlas.Graph.Mutual` — reaching each other.
* `DepAtlas.Graph.component` — all entities that an entity reaches and is reached by.

## Main results

* `DepAtlas.Graph.mem_cycleMembers` — the members of the cycles are the components.
* `DepAtlas.Graph.pairwise_head_cycleMembers` — the first members are in increasing order.
* `DepAtlas.Graph.length_component_le` — a component has as many links as members.
* `DepAtlas.Graph.cycles_are_components` — what is reported as a cycle, and how.
-/

namespace DepAtlas.Graph

variable {g : Graph} {a b c : String} {m n : List String}

/-! ## Components -/

/-- Each of two entities reaches the other. An entity need not reach itself, so this is no
equivalence, but it is one on the entities that do. -/
def Mutual (g : Graph) (a b : String) : Prop :=
  g.Reaches a b ∧ g.Reaches b a

/-- Mutual reaching is symmetric. -/
lemma Mutual.symm (h : g.Mutual a b) : g.Mutual b a :=
  ⟨h.2, h.1⟩

/-- Mutual reaching is transitive. -/
lemma Mutual.trans (hab : g.Mutual a b) (hbc : g.Mutual b c) : g.Mutual a c :=
  ⟨Relation.TransGen.trans hab.1 hbc.1, Relation.TransGen.trans hbc.2 hab.2⟩

/-- An entity reaches itself and is reached by itself if it reaches itself. -/
lemma mutual_self : g.Mutual a a ↔ g.Reaches a a :=
  and_self_iff

/-- The entities that `a` reaches and is reached by, in order. It is empty for an entity that
reaches itself on no walk. -/
def component (g : Graph) (a : String) : List String :=
  g.companions g.reach a

/-- The component of an entity holds what it reaches and is reached by. -/
lemma mem_component (hg : g.EndsDeclared) : b ∈ g.component a ↔ g.Mutual a b := by
  rw [component, companions, List.mem_filter, Bool.and_eq_true, reaches_reach hg, reaches_reach hg]
  exact and_iff_right_of_imp fun h => mem_names.2 (hg.contains_of_reaches h.1).2

/-- Components are in order, and have no repetitions. -/
lemma pairwise_component (g : Graph) (a : String) : (g.component a).Pairwise (· < ·) :=
  g.pairwise_names.filter _

/-- Entities that reach each other have one component. -/
lemma component_eq (hg : g.EndsDeclared) (h : g.Mutual a b) : g.component a = g.component b := by
  refine List.filter_congr fun other _ => ?_
  rw [Bool.eq_iff_iff, Bool.and_eq_true, Bool.and_eq_true]
  simp only [reaches_reach hg]
  exact ⟨h.symm.trans, h.trans⟩

/-- An entity of a component depends on an entity of the component.

**Proof sketch.** The entity reaches itself. The first step of that walk leads to an entity from
which the rest of the walk leads back, or to itself. -/
lemma exists_dependsOn_component (hg : g.EndsDeclared) (hb : b ∈ g.component a) :
    ∃ c ∈ g.component a, g.DependsOn b c := by
  have hab : g.Mutual a b := (mem_component hg).1 hb
  obtain ⟨c, hbc, hback⟩ := Relation.TransGen.head'_iff.1 (hab.symm.trans hab).1
  have hcb : g.Reaches c b := by
    rcases Relation.reflTransGen_iff_eq_or_transGen.1 hback with rfl | hcb
    · exact .single hbc
    · exact hcb
  exact ⟨c, (mem_component hg).2 (hab.trans ⟨.single hbc, hcb⟩), hbc⟩

/-- The links within a list of names are those with both ends in it. -/
lemma linksWithin_eq (g : Graph) (m : List String) :
    g.linksWithin m =
      (g.dependencies.filter fun d => decide (d.source ∈ m ∧ d.target ∈ m)).length := by
  simp [linksWithin, Std.ExtTreeSet.contains_ofList]

/-- **A component has at least as many links as members.**

**Proof sketch.** Every member is the source of a link within the component. -/
theorem length_component_le (hg : g.EndsDeclared) (a : String) :
    (g.component a).length ≤ g.linksWithin (g.component a) := by
  rw [linksWithin_eq, ← List.length_map Dependency.source]
  have hnodup : (g.component a).Nodup := (g.pairwise_component a).imp ne_of_lt
  refine (List.subperm_of_subset hnodup fun b hb => ?_).length_le
  obtain ⟨c, hc, hbc⟩ := exists_dependsOn_component hg hb
  obtain ⟨d, hd, rfl, rfl⟩ := dependsOn_iff.1 hbc
  exact List.mem_map.2 ⟨d, List.mem_filter.2 ⟨hd, by simp [hb, hc]⟩, rfl⟩

/-! ## The list of components -/

/-- An entity stands for its component if it is the first one of it. -/
lemma mem_cycleMembers_iff_head (hg : g.EndsDeclared) :
    m ∈ g.cycleMembers ↔ ∃ first, m.head? = some first ∧ m = g.component first := by
  unfold cycleMembers
  simp only [List.mem_filterMap, Option.ite_none_right_eq_some, Option.some.injEq]
  constructor
  · rintro ⟨name, -, hhead, rfl⟩
    exact ⟨name, hhead, rfl⟩
  · rintro ⟨first, hfirst, rfl⟩
    have hself : g.Mutual first first := (mem_component hg).1 (List.mem_of_mem_head? hfirst)
    exact ⟨first, mem_names.2 (hg.contains_of_reaches hself.1).1, hfirst, rfl⟩

/-- **The members of the cycles are the components** of the entities that reach themselves.

**Proof sketch.** For each component the search keeps the one whose first member stands for it, and
every component has a first member, which has the same component. -/
theorem mem_cycleMembers (hg : g.EndsDeclared) :
    m ∈ g.cycleMembers ↔ ∃ a, g.Reaches a a ∧ m = g.component a := by
  rw [mem_cycleMembers_iff_head hg]
  constructor
  · rintro ⟨first, hfirst, hm⟩
    have hself : g.Mutual first first :=
      (mem_component hg).1 (hm ▸ List.mem_of_mem_head? hfirst)
    exact ⟨first, hself.1, hm⟩
  · rintro ⟨a, ha, rfl⟩
    have hmem : a ∈ g.component a := (mem_component hg).2 (mutual_self.2 ha)
    obtain ⟨first, others, hcons⟩ := List.exists_cons_of_ne_nil (List.ne_nil_of_mem hmem)
    have hfirst : first ∈ g.component a := hcons ▸ List.mem_cons_self
    exact ⟨first, by rw [hcons, List.head?_cons], component_eq hg ((mem_component hg).1 hfirst)⟩

/-- A member of a cycle has the cycle as its component. -/
lemma eq_component_of_mem (hg : g.EndsDeclared) (hm : m ∈ g.cycleMembers) (ha : a ∈ m) :
    m = g.component a := by
  obtain ⟨first, -, rfl⟩ := (mem_cycleMembers hg).1 hm
  exact component_eq hg ((mem_component hg).1 ha)

/-- **The first members of the cycles are in increasing order.** -/
theorem pairwise_head_cycleMembers (g : Graph) :
    g.cycleMembers.Pairwise fun m n => ∃ a b, m.head? = some a ∧ n.head? = some b ∧ a < b := by
  refine List.pairwise_filterMap.2 (g.pairwise_names.imp fun {a b} hab m hm n hn => ?_)
  simp only [Option.ite_none_right_eq_some, Option.some.injEq] at hm hn
  obtain ⟨hm, rfl⟩ := hm
  obtain ⟨hn, rfl⟩ := hn
  exact ⟨a, b, hm, hn, hab⟩

/-- Two cycles have no member in common. -/
lemma pairwise_disjoint_cycleMembers (hg : g.EndsDeclared) :
    g.cycleMembers.Pairwise List.Disjoint := by
  -- A common member makes the two lists one component, but their first members differ.
  refine g.pairwise_head_cycleMembers.imp_of_mem fun {m n} hm hn hlt a ham han => ?_
  obtain ⟨first, first', hfirst, hfirst', hlt⟩ := hlt
  have heq : m = n :=
    (eq_component_of_mem hg hm ham).trans (eq_component_of_mem hg hn han).symm
  rw [heq, hfirst', Option.some.injEq] at hfirst
  exact absurd (hfirst ▸ hlt) (lt_irrefl _)

/-! ## Cycles -/

/-- The cycles have the members that were found, in the order in which they were found. -/
lemma map_members_cycles (g : Graph) : g.cycles.map Cycle.members = g.cycleMembers := by
  rw [cycles, List.map_map]
  exact List.zipIdx_map_fst 0 _

/-- The cycles are numbered from zero on. -/
lemma map_id_cycles (g : Graph) : g.cycles.map Cycle.id = List.range g.cycles.length := by
  rw [cycles, List.map_map, List.length_map, List.length_zipIdx, List.range_eq_range']
  exact List.zipIdx_map_snd 0 _

/-- Some cycle has these members exactly if the list of components has them. -/
lemma exists_mem_cycles {p : List String → Prop} :
    (∃ c ∈ g.cycles, p c.members) ↔ ∃ m ∈ g.cycleMembers, p m := by
  rw [← map_members_cycles]
  simp

/-- The members of a cycle are those of a component that was found. -/
lemma members_mem {c : Cycle} (hc : c ∈ g.cycles) : c.members ∈ g.cycleMembers :=
  map_members_cycles g ▸ List.mem_map_of_mem hc

/-- A cycle is the component of one of its members. -/
lemma exists_members_eq_component (hg : g.EndsDeclared) {c : Cycle} (hc : c ∈ g.cycles) :
    ∃ start, start ∈ g.component start ∧ c.members = g.component start := by
  obtain ⟨start, hstart, hmembers⟩ := (mem_cycleMembers hg).1 (members_mem hc)
  exact ⟨start, (mem_component hg).2 (mutual_self.2 hstart), hmembers⟩

/-- A cycle carries the sizes of its members. -/
lemma size_eq_and_internalLinks_eq {c : Cycle} (hc : c ∈ g.cycles) :
    c.size = c.members.length ∧ c.internalLinks = g.linksWithin c.members := by
  obtain ⟨⟨m, id⟩, -, rfl⟩ := List.mem_map.1 hc
  exact ⟨rfl, rfl⟩

/-- Two entities are in one cycle exactly if each reaches the other. -/
lemma exists_common_cycle_iff (hg : g.EndsDeclared) :
    (∃ c ∈ g.cycles, a ∈ c.members ∧ b ∈ c.members) ↔ g.Mutual a b := by
  rw [exists_mem_cycles (p := fun m => a ∈ m ∧ b ∈ m)]
  constructor
  · rintro ⟨m, hm, ha, hb⟩
    rw [eq_component_of_mem hg hm ha] at hb
    exact (mem_component hg).1 hb
  · intro hab
    have haa : g.Mutual a a := hab.trans hab.symm
    exact ⟨g.component a, (mem_cycleMembers hg).2 ⟨a, haa.1, rfl⟩, (mem_component hg).2 haa,
      (mem_component hg).2 hab⟩

/-- An entity that is alone in its component is a cycle exactly if it depends on itself.

**Proof sketch.** A walk from the entity back to it goes through entities that it reaches and is
reached by, so it is a link from the entity to itself. -/
lemma exists_singleton_cycle_iff (hg : g.EndsDeclared) (ha : ∀ b, g.Mutual a b → b = a) :
    (∃ c ∈ g.cycles, c.members = [a]) ↔ g.DependsOn a a := by
  rw [exists_mem_cycles (p := fun m => m = [a])]
  constructor
  · rintro ⟨m, hm, rfl⟩
    have hself : a ∈ g.component a :=
      eq_component_of_mem hg hm List.mem_cons_self ▸ List.mem_cons_self
    obtain ⟨b, hb, hab⟩ := exists_dependsOn_component hg hself
    rwa [ha b ((mem_component hg).1 hb)] at hab
  · intro hself
    have haa : g.Reaches a a := .single hself
    refine ⟨g.component a, (mem_cycleMembers hg).2 ⟨a, haa, rfl⟩, ?_⟩
    have hnodup : (g.component a).Nodup := (g.pairwise_component a).imp ne_of_lt
    refine List.perm_singleton.1 ((List.perm_ext_iff_of_nodup hnodup (by simp)).2 fun b => ?_)
    rw [mem_component hg, List.mem_singleton]
    exact ⟨ha b, by rintro rfl; exact mutual_self.2 haa⟩

/-- **The reported cycles are the components with a closed walk.** Two entities share a cycle
exactly if each reaches the other; an entity that shares a component with no other is a cycle
exactly if it depends on itself; no entity is in two cycles, and every entity on a closed walk is
in one, so there is no cycle exactly if there is no closed walk. A cycle is a whole component; its
members are in increasing order, its size is their number, and its links are those between members,
at least as many as there are members. Cycles come by their first members and are numbered from
zero. -/
theorem cycles_are_components (hg : g.EndsDeclared) :
    (∀ a b, a ≠ b →
      ((∃ c ∈ g.cycles, a ∈ c.members ∧ b ∈ c.members) ↔ g.Reaches a b ∧ g.Reaches b a)) ∧
    (∀ a, (∀ b, g.Reaches a b ∧ g.Reaches b a → b = a) →
      ((∃ c ∈ g.cycles, c.members = [a]) ↔ g.DependsOn a a)) ∧
    (g.cycles.Pairwise fun c d => c.members.Disjoint d.members) ∧
    (∀ a, g.Reaches a a → ∃ c ∈ g.cycles, a ∈ c.members) ∧
    (g.cycles = [] ↔ ∀ a, ¬ g.Reaches a a) ∧
    (∀ c ∈ g.cycles, c.members ≠ [] ∧
      (∀ a ∈ c.members, ∀ b, b ∈ c.members ↔ g.Reaches a b ∧ g.Reaches b a) ∧
      c.members.Pairwise (· < ·) ∧ c.size = c.members.length ∧
      c.internalLinks =
        (g.dependencies.filter fun d =>
          decide (d.source ∈ c.members ∧ d.target ∈ c.members)).length ∧
      c.size ≤ c.internalLinks) ∧
    (g.cycles.Pairwise fun c d =>
      ∃ a b, c.members.head? = some a ∧ d.members.head? = some b ∧ a < b) ∧
    g.cycles.map (·.id) = List.range g.cycles.length := by
  have hcovered : ∀ a, g.Reaches a a → ∃ c ∈ g.cycles, a ∈ c.members := fun a ha => by
    obtain ⟨c, hc, hmem, -⟩ := (exists_common_cycle_iff hg).2 (mutual_self.2 ha)
    exact ⟨c, hc, hmem⟩
  refine ⟨fun a b _ => exists_common_cycle_iff hg, fun a ha => exists_singleton_cycle_iff hg ha,
    ?disjoint, hcovered, ⟨?acyclic, ?empty⟩, ?cycle, ?order, g.map_id_cycles⟩
  case disjoint =>
    have hdisjoint := pairwise_disjoint_cycleMembers hg
    rwa [← map_members_cycles, List.pairwise_map] at hdisjoint
  case acyclic =>
    intro hnil a ha
    obtain ⟨c, hc, -⟩ := hcovered a ha
    exact List.not_mem_nil (hnil ▸ hc)
  case empty =>
    intro hacyclic
    refine List.eq_nil_iff_forall_not_mem.2 fun c hc => ?_
    obtain ⟨a, ha, -⟩ := (mem_cycleMembers hg).1 (members_mem hc)
    exact hacyclic a ha
  case cycle =>
    intro c hc
    obtain ⟨hsize, hlinks⟩ := size_eq_and_internalLinks_eq hc
    obtain ⟨a, ha, hmembers⟩ := (mem_cycleMembers hg).1 (members_mem hc)
    have hmem : a ∈ g.component a := (mem_component hg).2 (mutual_self.2 ha)
    have hfull : ∀ b ∈ c.members, ∀ b', b' ∈ c.members ↔ g.Mutual b b' := fun b hb b' => by
      rw [eq_component_of_mem hg (members_mem hc) hb, mem_component hg]
    refine ⟨?_, hfull, ?_⟩
    · exact hmembers ▸ List.ne_nil_of_mem hmem
    · rw [hsize, hlinks, hmembers]
      exact ⟨g.pairwise_component a, rfl, g.linksWithin_eq _, length_component_le hg a⟩
  case order =>
    have horder := g.pairwise_head_cycleMembers
    rwa [← map_members_cycles, List.pairwise_map] at horder

/-- A graph with a cycle of two entities, a link from an entity to itself, and an entity that only
leads into a cycle: the cycles that are found tell which walks there are. -/
theorem cycles_with_tail :
    let e : String → Entity := fun name => ⟨name, .unknown⟩
    let g := ofFacts [⟨e "a", e "b"⟩, ⟨e "b", e "a"⟩, ⟨e "c", e "c"⟩, ⟨e "d", e "a"⟩]
    g.EndsDeclared ∧ (g.Reaches "a" "b" ∧ g.Reaches "b" "a") ∧ ¬ g.Reaches "d" "d" ∧
      g.cycles = [⟨0, 2, ["a", "b"], 2⟩, ⟨1, 1, ["c"], 1⟩] := by
  intro e g
  have hg : g.EndsDeclared := (Reachable.ofFacts _).wellFormed.endsDeclared
  have hcycles : g.cycles = [⟨0, 2, ["a", "b"], 2⟩, ⟨1, 1, ["c"], 1⟩] := by decide +kernel
  obtain ⟨hcommon, -, -, hcovered, -⟩ := cycles_are_components hg
  refine ⟨hg, (hcommon "a" "b" (by decide)).1 ?_, fun hd => ?_, hcycles⟩
  · simp [hcycles]
  · have hmem := hcovered "d" hd
    simp [hcycles] at hmem

end DepAtlas.Graph
