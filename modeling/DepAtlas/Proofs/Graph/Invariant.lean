import DepAtlas.Proofs.Graph.Lookup

set_option relaxedAutoImplicit false
set_option autoImplicit false

/-!
# The invariant of graphs

A graph that was built from observations has every end of a link among its entities, no row
without an entry, no blank name, and weights between one and the greatest weight.

## Main definitions

* `DepAtlas.Graph.EndsDeclared` — every end of a link is an entity.
* `DepAtlas.Graph.Invariant` — the invariant, with a parameter for the least weight.
* `DepAtlas.Graph.Regular`, `DepAtlas.Graph.WellFormed` — the invariant with weights from zero
  and from one.

## Main results

* `DepAtlas.Graph.invariant_iff` — the invariant in terms of the views of a graph.
* `DepAtlas.Graph.Invariant.upsert`, `DepAtlas.Graph.Invariant.insert` — adding an entity or a
  dependency keeps the invariant.
-/

namespace DepAtlas.Graph

/-- Every end of a link is an entity. -/
def EndsDeclared (g : Graph) : Prop :=
  ∀ d ∈ g.dependencies, g.contains d.source = true ∧ g.contains d.target = true

/-- The invariant of graphs, for weights of at least `least`. Ends of links are entities, no row is
empty, weights are in range and no name is blank. The least weight is a parameter, because graphs
that are built from facts have no link of weight zero, while one that has some is still merged and
filtered in the same way. -/
structure Invariant (least : ℕ) (g : Graph) : Prop where
  endsDeclared : g.EndsDeclared
  noEmptyRow : g.rows.NoEmpty
  noBlankName : ∀ e ∈ g.entities, e.isBlank = false
  weight_mem : ∀ d ∈ g.dependencies, least ≤ d.weight ∧ d.weight ≤ weightLimit

/-- A regular graph satisfies the invariant, but may have links of weight zero. -/
abbrev Regular (g : Graph) : Prop := g.Invariant 0

/-- A well-formed graph satisfies the invariant with weights of at least one. -/
abbrev WellFormed (g : Graph) : Prop := g.Invariant 1

variable {least : ℕ} {g : Graph}

/-- The ends of links are entities if those of every weight that is there are. -/
lemma endsDeclared_iff : g.EndsDeclared ↔
    ∀ source target weight, g.weight? source target = some weight →
      g.kind? source ≠ none ∧ g.kind? target ≠ none := by
  simp only [EndsDeclared, mem_dependencies, contains_iff]
  exact ⟨fun h a b w hw => h ⟨a, b, w⟩ hw, fun h d hd => h _ _ _ hd⟩

/-- The invariant in terms of the views.

**Proof sketch.** Entities and dependencies are listed with what the views tell, so a statement
about all that are listed is one about all names and all links. -/
lemma invariant_iff : g.Invariant least ↔
    g.rows.NoEmpty ∧
    (∀ source target weight, g.weight? source target = some weight →
      (g.kind? source ≠ none ∧ g.kind? target ≠ none) ∧ least ≤ weight ∧ weight ≤ weightLimit) ∧
    ∀ name, g.kind? name ≠ none → isBlankName name = false := by
  constructor
  · intro h
    refine ⟨h.noEmptyRow, fun a b w hw => ⟨?_, ?_⟩, fun name hname => ?_⟩
    · exact endsDeclared_iff.1 h.endsDeclared a b w hw
    · exact h.weight_mem ⟨a, b, w⟩ (mem_dependencies.2 hw)
    · obtain ⟨kind, hkind⟩ := Option.ne_none_iff_exists'.1 hname
      exact h.noBlankName ⟨name, kind⟩ (mem_entities.2 hkind)
  · rintro ⟨hrow, hlink, hname⟩
    refine ⟨?_, hrow, fun e he => ?_, fun d hd => ?_⟩
    · exact endsDeclared_iff.2 fun a b w hw => (hlink a b w hw).1
    · exact hname e.name (by simp [mem_entities.1 he])
    · exact (hlink _ _ _ (mem_dependencies.1 hd)).2

namespace Invariant

/-- No entity has a blank name. -/
lemma isBlankName_eq_false (h : g.Invariant least) {name : String} (hname : g.kind? name ≠ none) :
    isBlankName name = false :=
  (invariant_iff.1 h).2.2 name hname

/-- The ends of a link are entities. -/
lemma kind?_ne_none (h : g.Invariant least) {source target : String} {weight : ℕ}
    (hw : g.weight? source target = some weight) :
    g.kind? source ≠ none ∧ g.kind? target ≠ none :=
  ((invariant_iff.1 h).2.1 source target weight hw).1

/-- A weight is in range. -/
lemma weight?_mem (h : g.Invariant least) {source target : String} {weight : ℕ}
    (hw : g.weight? source target = some weight) : least ≤ weight ∧ weight ≤ weightLimit :=
  ((invariant_iff.1 h).2.1 source target weight hw).2

/-- The empty graph satisfies the invariant. -/
lemma empty : Graph.empty.Invariant least :=
  invariant_iff.2 ⟨Rows.noEmpty_empty, by simp, by simp⟩

end Invariant

/-- A name is declared after an entity is added if it is that of the entity or was declared. -/
lemma kind?_upsert_ne_none {e : Entity} {name : String} :
    (g.upsert e).kind? name ≠ none ↔ e.name = name ∨ g.kind? name ≠ none := by
  rw [kind?_upsert, ne_eq, Option.merge_eq_none_iff]
  split <;> simp_all

namespace Invariant

/-- One more entity keeps the invariant. -/
lemma upsert (h : g.Invariant least) {e : Entity} (he : e.isBlank = false) :
    (g.upsert e).Invariant least := by
  refine invariant_iff.2
    ⟨h.noEmptyRow, fun a b w hw => ⟨?_, h.weight?_mem hw⟩, fun name hname => ?_⟩
  · obtain ⟨ha, hb⟩ := h.kind?_ne_none (weight?_upsert g e a b ▸ hw)
    exact ⟨kind?_upsert_ne_none.2 (Or.inr ha), kind?_upsert_ne_none.2 (Or.inr hb)⟩
  · rcases kind?_upsert_ne_none.1 hname with rfl | hname
    · exact he
    · exact h.isBlankName_eq_false hname

/-- Declaring an entity keeps the invariant, whatever its name is. -/
lemma declare (h : g.Invariant least) (e : Entity) : (g.declare e).Invariant least := by
  unfold Graph.declare
  split
  · exact h
  · next he => exact h.upsert (Bool.eq_false_iff.2 he)

/-- **One more dependency keeps the invariant**, if its ends have names and its weight is in
range.

**Proof sketch.** Its ends are added as entities first. The row it goes into has an entry
afterwards, and the weight of its link is either its own or combined from two weights in range,
which no policy lowers or lifts above the greatest weight. -/
lemma insert (h : g.Invariant least) {source target : Entity} (hs : source.isBlank = false)
    (ht : target.isBlank = false) {weight : ℕ} (hl : least ≤ weight) (hu : weight ≤ weightLimit)
    (policy : Policy) : (g.insert source target weight policy).Invariant least := by
  have hends : ((g.upsert source).upsert target).Invariant least := (h.upsert hs).upsert ht
  refine invariant_iff.2 ⟨hends.noEmptyRow.add _ _ _, fun a b w hw => ?_, fun name hname => ?_⟩
  · rw [kind?_insert, kind?_insert]
    rw [weight?_insert] at hw
    rcases Option.merge_eq_some_iff.1 hw with ⟨hold, -⟩ | ⟨-, hnew⟩ | ⟨v, v', hold, hnew, rfl⟩
    · exact ⟨hends.kind?_ne_none hold, h.weight?_mem hold⟩
    · obtain ⟨⟨rfl, rfl⟩, hv⟩ := Option.ite_none_right_eq_some.1 hnew
      obtain rfl := Option.some.inj hv
      refine ⟨⟨?_, ?_⟩, hl, hu⟩
      · exact kind?_upsert_ne_none.2 (Or.inr (kind?_upsert_ne_none.2 (Or.inl rfl)))
      · exact kind?_upsert_ne_none.2 (Or.inl rfl)
    · obtain ⟨-, hv⟩ := Option.ite_none_right_eq_some.1 hnew
      obtain rfl := Option.some.inj hv
      obtain ⟨hlv, huv⟩ := h.weight?_mem hold
      exact ⟨hends.kind?_ne_none hold, hlv.trans (policy.le_combine_left huv _),
        policy.combine_le huv hu⟩
  · exact hends.isBlankName_eq_false hname

end Invariant

end DepAtlas.Graph
