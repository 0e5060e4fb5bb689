import DepAtlas.Graph.Retain
import DepAtlas.Proofs.Graph.Invariant

set_option relaxedAutoImplicit false
set_option autoImplicit false

/-!
# What is kept of a graph

Both ways of keeping a part of a graph make new rows out of a part of the dependencies. This file
says which kinds and weights are left, and that the invariant is kept.

## Main results

* `DepAtlas.Graph.kind?_retainEntities`, `DepAtlas.Graph.weight?_retainEntities_eq_some` — the
  views of a graph of which some entities are kept.
* `DepAtlas.Graph.kind?_retainLinks_eq_some`, `DepAtlas.Graph.weight?_retainLinks` — the views of
  a graph of which some links are kept.
* `DepAtlas.Graph.Invariant.retainEntities`, `DepAtlas.Graph.Invariant.retainLinks` — keeping a
  part keeps the invariant.
* `DepAtlas.Graph.endsDeclared_retainEntities`, `DepAtlas.Graph.EndsDeclared.retainLinks` — it keeps the ends
  of links declared, also where nothing else is known of the graph.
-/

namespace DepAtlas.Graph

variable {least : ℕ} {g : Graph}

/-! ## Keeping entities -/

/-- The kinds that are left are those of accepted entities. -/
lemma kind?_retainEntities (keep : Entity → Bool) (g : Graph) (name : String) :
    (g.retainEntities keep).kind? name = (g.kind? name).filter fun kind => keep ⟨name, kind⟩ :=
  Std.ExtTreeMap.getElem?_filter'

/-- The entities that are left are the accepted ones. -/
lemma kind?_retainEntities_ne_none {keep : Entity → Bool} {name : String} :
    (g.retainEntities keep).kind? name ≠ none ↔
      ∃ kind, g.kind? name = some kind ∧ keep ⟨name, kind⟩ = true := by
  rw [kind?_retainEntities, Option.ne_none_iff_exists']
  simp only [Option.filter_eq_some_iff]

/-- The links that are left are those between entities that are left, with their weights. -/
lemma weight?_retainEntities_eq_some {keep : Entity → Bool} {source target : String} {weight : ℕ} :
    (g.retainEntities keep).weight? source target = some weight ↔
      g.weight? source target = some weight ∧ (g.retainEntities keep).kind? source ≠ none ∧
        (g.retainEntities keep).kind? target ≠ none := by
  rw [← contains_iff, ← contains_iff]
  change (Rows.ofDependencies _).weight? source target = _ ↔ _
  rw [dependencies, Rows.weight?_ofDependencies, Option.filter_eq_some_iff, Bool.and_eq_true]
  rfl

/-- The ends of the links that are left are left. -/
lemma endsDeclared_retainEntities (keep : Entity → Bool) (g : Graph) :
    (g.retainEntities keep).EndsDeclared :=
  endsDeclared_iff.2 fun _ _ _ hw => (weight?_retainEntities_eq_some.1 hw).2

/-- Keeping some entities keeps the invariant. -/
theorem Invariant.retainEntities (h : g.Invariant least) (keep : Entity → Bool) :
    (g.retainEntities keep).Invariant least := by
  refine invariant_iff.2 ⟨Rows.noEmpty_ofDependencies _, fun a b w hw => ?_, fun name hname => ?_⟩
  · obtain ⟨hold, hends⟩ := weight?_retainEntities_eq_some.1 hw
    exact ⟨hends, h.weight?_mem hold⟩
  · obtain ⟨kind, hkind, -⟩ := kind?_retainEntities_ne_none.1 hname
    exact h.isBlankName_eq_false (by simp [hkind])

/-! ## Keeping links -/

/-- Whether one of some dependencies touches a name. -/
lemma touches_iff {ds : List Dependency} {name : String} :
    touches ds name = true ↔ ∃ d ∈ ds, d.source = name ∨ d.target = name := by
  simp [touches]

/-- The links that are left are the accepted ones, with their weights. -/
lemma weight?_retainLinks (keep : String → String → Bool) (g : Graph) (source target : String) :
    (g.retainLinks keep).weight? source target =
      (g.weight? source target).filter fun _ => keep source target :=
  Rows.weight?_ofDependencies g.rows (fun d => keep d.source d.target) source target

/-- A weight is left where it was, if its link is accepted. -/
lemma weight?_retainLinks_eq_some {keep : String → String → Bool} {source target : String}
    {weight : ℕ} :
    (g.retainLinks keep).weight? source target = some weight ↔
      g.weight? source target = some weight ∧ keep source target = true := by
  rw [weight?_retainLinks, Option.filter_eq_some_iff]

/-- An entity is left if it is an end of an accepted link, or if it is an end of none at all. -/
lemma kind?_retainLinks_eq_some {keep : String → String → Bool} {name : String} {kind : Kind} :
    (g.retainLinks keep).kind? name = some kind ↔ g.kind? name = some kind ∧
      ((∃ d ∈ g.dependencies, keep d.source d.target = true ∧ (d.source = name ∨ d.target = name)) ∨
        ∀ d ∈ g.dependencies, d.source ≠ name ∧ d.target ≠ name) := by
  change (g.kinds.filter _)[name]? = _ ↔ _
  rw [Std.ExtTreeMap.getElem?_filter', Option.filter_eq_some_iff]
  refine and_congr_right fun _ => ?_
  rw [Bool.or_eq_true, Bool.not_eq_true', ← Bool.not_eq_true, touches_iff, touches_iff]
  simp only [List.mem_filter, and_assoc, not_exists, not_and, not_or, ne_eq]

/-- The ends of accepted links are left, because an entity that an accepted link touches is. -/
lemma EndsDeclared.retainLinks (hg : g.EndsDeclared) (keep : String → String → Bool) :
    (g.retainLinks keep).EndsDeclared := by
  refine endsDeclared_iff.2 fun a b w hw => ?_
  obtain ⟨hold, hkeep⟩ := weight?_retainLinks_eq_some.1 hw
  have hleft : ∀ name, a = name ∨ b = name → g.kind? name ≠ none →
      (g.retainLinks keep).kind? name ≠ none := by
    intro name hname hdeclared
    obtain ⟨kind, hkind⟩ := Option.ne_none_iff_exists'.1 hdeclared
    have hmem : ⟨a, b, w⟩ ∈ g.dependencies := mem_dependencies.2 hold
    rw [kind?_retainLinks_eq_some.2 ⟨hkind, Or.inl ⟨_, hmem, hkeep, hname⟩⟩]
    exact Option.some_ne_none kind
  obtain ⟨ha, hb⟩ := endsDeclared_iff.1 hg a b w hold
  exact ⟨hleft a (Or.inl rfl) ha, hleft b (Or.inr rfl) hb⟩

/-- Keeping some links keeps the invariant. -/
theorem Invariant.retainLinks (h : g.Invariant least) (keep : String → String → Bool) :
    (g.retainLinks keep).Invariant least := by
  refine invariant_iff.2 ⟨Rows.noEmpty_ofDependencies _, fun a b w hw => ?_, fun name hname => ?_⟩
  · have hold := (weight?_retainLinks_eq_some.1 hw).1
    exact ⟨endsDeclared_iff.1 (h.endsDeclared.retainLinks keep) a b w hw, h.weight?_mem hold⟩
  · obtain ⟨kind, hkind⟩ := Option.ne_none_iff_exists'.1 hname
    exact h.isBlankName_eq_false (by simp [(kind?_retainLinks_eq_some.1 hkind).1])

end DepAtlas.Graph
