import DepAtlas.Proofs.Graph.Reachable

set_option relaxedAutoImplicit false
set_option autoImplicit false

/-!
# What is built is a sum

A builder takes one observation after the other into one graph. Every observation adds the same as
merging in the graph of this observation alone, so what is built from many parts is the sum of the
graphs of the parts, in whatever order they come.

## Main definitions

* `DepAtlas.Graph.total` — the sum of a list of graphs.
* `DepAtlas.Builder.AddsUp` — an operation that merges one fixed graph into what is built.

## Main results

* `DepAtlas.Graph.total_append`, `DepAtlas.Graph.total_perm` — sums of parts, and of parts in another
  order.
* `DepAtlas.Builder.addsUp_addWeighted`, `DepAtlas.Builder.addsUp_declare` — single observations.
* `DepAtlas.Builder.AddsUp.foldl` — runs of observations.
-/

namespace DepAtlas

namespace Graph

variable {g h : Graph}

/-! ## Sums of graphs -/

/-- The sum of a list of graphs. -/
def total (graphs : List Graph) : Graph :=
  graphs.foldr (fun g h => g.merge h .sum) empty

/-- A graph that is merged into the empty one comes out as it is. -/
lemma empty_merge (hg : g.Regular) (policy : Policy) : empty.merge g policy = g := by
  rw [merge_comm .empty hg, merge_empty hg]

/-- A sum of regular graphs is regular. -/
lemma regular_total {graphs : List Graph} (h : ∀ g ∈ graphs, g.Regular) :
    (total graphs).Regular := by
  induction graphs with
  | nil => exact .empty
  | cons g graphs ih =>
    exact (h g List.mem_cons_self).merge (ih fun g hg => h g (List.mem_cons_of_mem _ hg)) .sum

/-- The sum of two lists of graphs is the sum of both sums. -/
lemma total_append {graphs graphs' : List Graph} (h : ∀ g ∈ graphs, g.Regular)
    (h' : ∀ g ∈ graphs', g.Regular) :
    total (graphs ++ graphs') = (total graphs).merge (total graphs') .sum := by
  induction graphs with
  | nil => exact (empty_merge (regular_total h') .sum).symm
  | cons g graphs ih =>
    have hg : g.Regular := h g List.mem_cons_self
    have hrest : ∀ g ∈ graphs, g.Regular := fun g hg => h g (List.mem_cons_of_mem _ hg)
    change g.merge (total (graphs ++ graphs')) .sum = (g.merge (total graphs) .sum).merge _ .sum
    rw [ih hrest, merge_assoc hg (regular_total hrest) (regular_total h')]

/-- The sum of a list of graphs does not depend on their order.

**Proof sketch.** Induction on the permutation: two neighbours may be exchanged because merging is
associative and commutative. -/
lemma total_perm {graphs graphs' : List Graph} (h : ∀ g ∈ graphs, g.Regular)
    (hperm : graphs.Perm graphs') : total graphs = total graphs' := by
  induction hperm with
  | nil => rfl
  | cons g _ ih =>
    exact congrArg (g.merge · .sum) (ih fun g hg => h g (List.mem_cons_of_mem _ hg))
  | swap g g' graphs =>
    have hg : g.Regular := h g (by simp)
    have hg' : g'.Regular := h g' (by simp)
    have hrest : (total graphs).Regular := regular_total fun g hg => h g (by simp [hg])
    change g'.merge (g.merge (total graphs) .sum) .sum = g.merge (g'.merge (total graphs) .sum) .sum
    rw [← merge_assoc hg' hg hrest, merge_comm hg' hg, merge_assoc hg hg' hrest]
  | trans hperm _ ih ih' =>
    exact (ih h).trans (ih' fun g hg => h g (hperm.mem_iff.2 hg))

/-! ## Single additions -/

/-- Adding an entity merges in the graph of this entity. -/
lemma upsert_eq_merge (hg : g.Regular) {e : Entity} (he : e.isBlank = false) :
    g.upsert e = g.merge (empty.upsert e) .sum := by
  have hone : (empty.upsert e).Regular := .upsert .empty he
  refine ext_of_views (hg.upsert he).noEmptyRow (hg.merge hone .sum).noEmptyRow (fun name => ?_)
    fun source target => ?_
  · rw [kind?_merge g hone, kind?_upsert, kind?_upsert, kind?_empty, Option.merge_none_left]
  · rw [weight?_merge, weight?_upsert, weight?_upsert, weight?_empty, Option.merge_none_right]

/-- Adding a dependency merges in the graph of this dependency. -/
lemma insert_eq_merge (hg : g.Regular) {source target : Entity} (hs : source.isBlank = false)
    (ht : target.isBlank = false) {weight : ℕ} (hw : weight ≤ weightLimit) :
    g.insert source target weight .sum = g.merge (empty.insert source target weight .sum) .sum := by
  have hone : (empty.insert source target weight .sum).Regular :=
    .insert .empty hs ht (Nat.zero_le _) hw .sum
  refine ext_of_views (hg.insert hs ht (Nat.zero_le _) hw .sum).noEmptyRow
    (hg.merge hone .sum).noEmptyRow (fun name => ?_) fun a b => ?_
  · simp only [kind?_merge g hone, kind?_insert, kind?_upsert, kind?_empty, Option.merge_none_left]
    exact @Std.Associative.assoc _ (Option.merge Kind.join) _ _ _ _
  · rw [weight?_merge, weight?_insert, weight?_insert, weight?_empty, Option.merge_none_left]

end Graph

namespace Builder

/-! ## Observations -/

/-- An operation on builders that merges into what is built the graph which it makes alone. So it
does not depend on what was built before, and a run of such operations is the sum of what the single
ones make. -/
structure AddsUp (op : Builder → Builder) : Prop where
  regular : ∀ {b}, b.graph.Regular → (op b).graph.Regular
  graph_eq : ∀ {b}, b.graph.Regular → (op b).graph = b.graph.merge (op empty).graph .sum

/-- An empty builder has a regular graph. -/
lemma regular_empty : empty.graph.Regular := .empty

/-- An operation on builders adds up if what it does to the graph does. -/
lemma addsUp_of_graph {op : Builder → Builder} (f : Graph → Graph)
    (hop : ∀ b, (op b).graph = f b.graph) (hregular : ∀ {g : Graph}, g.Regular → (f g).Regular)
    (hmerge : ∀ {g : Graph}, g.Regular → f g = g.merge (f .empty) .sum) : AddsUp op where
  regular hb := by rw [hop]; exact hregular hb
  graph_eq hb := by rw [hop, hop]; exact hmerge hb

/-- An operation that does not touch the graph adds nothing. -/
lemma addsUp_of_graph_eq {op : Builder → Builder} (h : ∀ b, (op b).graph = b.graph) : AddsUp op :=
  addsUp_of_graph id h (fun hg => hg) fun hg => (Graph.merge_empty hg .sum).symm

/-- Two operations that add up do so one after the other. -/
lemma AddsUp.comp {op op' : Builder → Builder} (h : AddsUp op) (h' : AddsUp op') :
    AddsUp fun b => op' (op b) where
  regular hb := h'.regular (h.regular hb)
  graph_eq {b} hb := by
    have hone : (op empty).graph.Regular := h.regular regular_empty
    have hone' : (op' empty).graph.Regular := h'.regular regular_empty
    rw [h'.graph_eq (h.regular hb), h.graph_eq hb, h'.graph_eq hone,
      Graph.merge_assoc hb hone hone']

/-- **A run of operations that add up adds up.** -/
lemma AddsUp.foldl {ι : Type} {op : Builder → ι → Builder} (h : ∀ x, AddsUp fun b => op b x)
    (xs : List ι) : AddsUp fun b => xs.foldl op b := by
  induction xs with
  | nil => exact addsUp_of_graph_eq fun _ => rfl
  | cons x xs ih => exact (h x).comp ih

/-- Declaring an entity adds up. -/
lemma addsUp_declare (e : Entity) : AddsUp fun b => b.declare e := by
  cases he : e.isBlank with
  | true => exact addsUp_of_graph_eq fun b => by simp [declare, he]
  | false =>
    exact addsUp_of_graph (·.upsert e) (fun b => by simp [declare, Graph.declare, he])
      (fun hg => hg.upsert he) fun hg => Graph.upsert_eq_merge hg he

/-- Adding a fact with a count adds up. A count of zero declares both ends one after the other. -/
lemma addsUp_addWeighted (fact : Fact) {count : ℕ} (hc : count ≤ weightLimit) :
    AddsUp fun b => b.addWeighted fact count := by
  by_cases hblank : (fact.source.isBlank || fact.target.isBlank) = true
  · exact addsUp_of_graph_eq fun b => by simp [addWeighted, hblank]
  obtain ⟨hs, ht⟩ := not_or.1 (mt Bool.or_eq_true_iff.2 hblank)
  rw [Bool.not_eq_true] at hs ht
  by_cases hzero : count = 0
  · have hdeclare : ∀ b : Builder, b.addWeighted fact count =
        (b.declare fact.source).declare fact.target := fun b => by
      simp [addWeighted, declare, hs, ht, hzero]
    simp only [hdeclare]
    exact (addsUp_declare fact.source).comp (addsUp_declare fact.target)
  · refine addsUp_of_graph (·.insert fact.source fact.target count .sum) (fun b => ?_)
      (fun hg => hg.insert hs ht (Nat.zero_le _) hc .sum) fun hg => Graph.insert_eq_merge hg hs ht hc
    simp [addWeighted, hs, ht, hzero]

/-- Adding a fact adds up. -/
lemma addsUp_add (fact : Fact) : AddsUp fun b => b.add fact :=
  addsUp_addWeighted fact (by decide)

end Builder

end DepAtlas
