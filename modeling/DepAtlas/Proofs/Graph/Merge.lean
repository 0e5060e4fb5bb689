import DepAtlas.Graph.Merge
import DepAtlas.Proofs.Graph.Invariant

set_option relaxedAutoImplicit false
set_option autoImplicit false

/-!
# Merging is a pointwise join

A merge declares the entities of the second graph in the first one and inserts its dependencies
one after the other. What comes out depends on neither side being first: every name has the join
of both kinds, and every link has both weights combined.

## Main definitions

* `DepAtlas.Graph.Below` — a graph that has at least what another one has.

## Main results

* `DepAtlas.Graph.kind?_merge`, `DepAtlas.Graph.weight?_merge` — the views of a merge.
* `DepAtlas.Graph.Invariant.merge` — a merge keeps the invariant.
* `DepAtlas.Graph.merge_pointwise_join` — merging is a commutative and associative join with the
  empty graph as identity, and loses nothing.
-/

namespace DepAtlas.Graph

variable {least : ℕ} {g h k : Graph}

/-! ## Declaring all entities of a graph -/

/-- What an entity that may be blank adds to the kind of a name. -/
lemma kind?_declare (g : Graph) (e : Entity) (name : String) :
    (g.declare e).kind? name =
      (g.kind? name).merge Kind.join
        (if e.isBlank then none else if e.name = name then some e.kind else none) := by
  unfold declare
  cases e.isBlank with
  | true => simp
  | false => exact kind?_upsert g e name

/-- A graph without blank names, declared in another one, joins its kinds to those of the other.

**Proof sketch.** Each declaration joins one kind. What is gathered from all of them for a name is
the kind of the one entity with this name. -/
lemma kind?_declareAll_entities (g : Graph) (hh : ∀ e ∈ h.entities, e.isBlank = false)
    (name : String) :
    (g.declareAll h.entities).kind? name = (g.kind? name).merge Kind.join (h.kind? name) := by
  have hvalue : h.entities.map (fun e =>
      if e.isBlank then none else if e.name = name then some e.kind else none) =
        h.entities.map fun e => if e.name = name then some e.kind else none :=
    List.map_congr_left fun e he => by rw [hh e he]; rfl
  have hnodup : (h.entities.map Entity.name).Nodup := h.map_name_entities ▸ h.nodup_names
  rw [declareAll, view_foldl Kind.join (·.kind? name) declare _ (kind?_declare · · name), hvalue]
  congr 1
  ext kind
  rw [gather_eq_some_iff Kind.join hnodup]
  constructor
  · rintro ⟨e, he, rfl, rfl⟩
    exact mem_entities.1 he
  · exact fun hkind => ⟨⟨name, kind⟩, mem_entities.2 hkind, rfl, rfl⟩

/-- Declaring entities adds no row. -/
lemma rows_declareAll (g : Graph) (es : List Entity) : (g.declareAll es).rows = g.rows := by
  induction es generalizing g with
  | nil => rfl
  | cons e es ih => exact (ih (g.declare e)).trans (rows_declare g e)

/-! ## Inserting all dependencies of a graph -/

/-- Dependencies between entities of `h` add no kind to a graph that has all kinds of `h`.

**Proof sketch.** Induction along the dependencies: the kinds of both ends are absorbed by those
that are there. -/
lemma kind?_insertAll {ds : List Dependency}
    (hds : ∀ d ∈ ds, h.kind? d.source ≠ none ∧ h.kind? d.target ≠ none) (policy : Policy)
    (hgh : ∀ name, (g.kind? name).merge Kind.join (h.kind? name) = g.kind? name) :
    (g.insertAll h policy ds).kind? = g.kind? := by
  have habsorbed : ∀ g' : Graph, g'.kind? = g.kind? → ∀ name, h.kind? name ≠ none →
      (g'.kind? name).merge Kind.join (some (h.entity name).kind) = g'.kind? name := by
    intro g' hg' name hname
    obtain ⟨kind, hkind⟩ := Option.ne_none_iff_exists'.1 hname
    rw [hg', entity, hkind, Option.getD_some, ← hkind, hgh]
  refine view_foldl_of_fixed kind? _ fun g' hg' d hd => ?_
  obtain ⟨hs, ht⟩ := hds d hd
  exact (kind?_insert_of_absorbed (habsorbed g' hg' _ hs) (habsorbed g' hg' _ ht)).trans hg'

/-- The dependencies of a graph, inserted into another one, have their weights combined with those
of the other.

**Proof sketch.** Each insertion combines one weight. What is gathered from all of them for a link
is the weight of the one dependency with this link. -/
lemma weight?_insertAll_dependencies (g h : Graph) (kinds : Graph) (policy : Policy)
    (source target : String) :
    (g.insertAll kinds policy h.dependencies).weight? source target =
      (g.weight? source target).merge policy.combine (h.weight? source target) := by
  rw [insertAll, view_foldl policy.combine (·.weight? source target) _ _
    fun g (d : Dependency) => weight?_insert g (kinds.entity d.source) (kinds.entity d.target)
      d.weight policy source target]
  congr 1
  have hkey : (fun d : Dependency =>
      if (kinds.entity d.source).name = source ∧ (kinds.entity d.target).name = target then
        some d.weight else none) =
        fun d => if (d.source, d.target) = (source, target) then some d.weight else none := by
    funext d
    exact if_congr (by simp [entity]) rfl rfl
  rw [hkey]
  ext weight
  rw [gather_eq_some_iff policy.combine h.nodup_links]
  constructor
  · rintro ⟨d, hd, hlink, rfl⟩
    obtain ⟨rfl, rfl⟩ := Prod.mk.inj hlink
    exact mem_dependencies.1 hd
  · exact fun hw => ⟨⟨source, target, weight⟩, mem_dependencies.2 hw, rfl, rfl⟩

/-! ## Merging -/

/-- The kinds of a merge are the joins of the kinds of both graphs. -/
lemma kind?_merge (g : Graph) (hh : h.Invariant least) (policy : Policy) (name : String) :
    (g.merge h policy).kind? name = (g.kind? name).merge Kind.join (h.kind? name) := by
  have hkinds := kind?_declareAll_entities g hh.noBlankName
  rw [Graph.merge, kind?_insertAll, hkinds]
  · exact fun d hd => hh.kind?_ne_none (mem_dependencies.1 hd)
  · intro n
    rw [hkinds, @Std.Associative.assoc _ (Option.merge Kind.join) _,
      @Std.IdempotentOp.idempotent _ (Option.merge Kind.join) _]

/-- The weights of a merge are the combined weights of both graphs. -/
lemma weight?_merge (g h : Graph) (policy : Policy) (source target : String) :
    (g.merge h policy).weight? source target =
      (g.weight? source target).merge policy.combine (h.weight? source target) := by
  rw [Graph.merge, weight?_insertAll_dependencies]
  congr 1
  rw [weight?, weight?, rows_declareAll]

/-- Declaring entities keeps the invariant. -/
lemma Invariant.declareAll (hg : g.Invariant least) (es : List Entity) :
    (g.declareAll es).Invariant least := by
  induction es generalizing g with
  | nil => exact hg
  | cons e es ih => exact ih (hg.declare e)

/-- Inserting dependencies of a graph with the invariant keeps the invariant.

**Proof sketch.** Induction along the dependencies, whose ends are entities of that graph and not
blank, and whose weights are in range. -/
lemma Invariant.insertAll (hg : g.Invariant least) (hh : h.Invariant least) (policy : Policy)
    {ds : List Dependency} (hds : ∀ d ∈ ds, d ∈ h.dependencies) :
    (g.insertAll h policy ds).Invariant least := by
  induction ds generalizing g with
  | nil => exact hg
  | cons d ds ih =>
    have hd : d ∈ h.dependencies := hds d List.mem_cons_self
    obtain ⟨hs, ht⟩ := hh.kind?_ne_none (mem_dependencies.1 hd)
    obtain ⟨hl, hu⟩ := hh.weight_mem d hd
    refine ih (hg.insert ?_ ?_ hl hu policy) fun d hd => hds d (List.mem_cons_of_mem _ hd)
    · exact hh.isBlankName_eq_false hs
    · exact hh.isBlankName_eq_false ht

/-- **A merge keeps the invariant.** -/
theorem Invariant.merge (hg : g.Invariant least) (hh : h.Invariant least) (policy : Policy) :
    (g.merge h policy).Invariant least :=
  (hg.declareAll _).insertAll hh policy fun _ hd => hd

/-! ## The laws of merging -/

/-- `h` has every entity of `g` with a kind that is not less specific, and every link of `g` with a
weight that is not smaller. A merge is above both of its graphs. -/
def Below (g h : Graph) : Prop :=
  (∀ name kind, g.kind? name = some kind →
    ∃ kind', h.kind? name = some kind' ∧ kind.rank ≤ kind'.rank) ∧
  ∀ source target weight, g.weight? source target = some weight →
    ∃ weight', h.weight? source target = some weight' ∧ weight ≤ weight'

/-- Merging is commutative.

**Proof sketch.** Both sides have equal views, because joining kinds and combining weights are
commutative; and graphs without empty rows are known by their views. -/
lemma merge_comm (hg : g.Regular) (hh : h.Regular) (policy : Policy) :
    g.merge h policy = h.merge g policy := by
  refine ext_of_views (hg.merge hh policy).noEmptyRow (hh.merge hg policy).noEmptyRow
    (fun name => ?_) fun source target => ?_
  · rw [kind?_merge g hh, kind?_merge h hg, @Std.Commutative.comm _ (Option.merge Kind.join) _]
  · rw [weight?_merge, weight?_merge, @Std.Commutative.comm _ (Option.merge policy.combine) _]

/-- Merging is associative. -/
lemma merge_assoc (hg : g.Regular) (hh : h.Regular) (hk : k.Regular) (policy : Policy) :
    (g.merge h policy).merge k policy = g.merge (h.merge k policy) policy := by
  have hhk := hh.merge hk policy
  refine ext_of_views ((hg.merge hh policy).merge hk policy).noEmptyRow
    (hg.merge hhk policy).noEmptyRow (fun name => ?_) fun source target => ?_
  · rw [kind?_merge _ hk, kind?_merge g hh, kind?_merge g hhk, kind?_merge h hk,
      @Std.Associative.assoc _ (Option.merge Kind.join) _]
  · simp only [weight?_merge]
    exact @Std.Associative.assoc _ (Option.merge policy.combine) _ _ _ _

/-- The empty graph adds nothing. -/
lemma merge_empty (hg : g.Regular) (policy : Policy) : g.merge empty policy = g := by
  refine ext_of_views (hg.merge .empty policy).noEmptyRow hg.noEmptyRow (fun name => ?_)
    fun source target => ?_
  · rw [kind?_merge g (.empty : empty.Regular), kind?_empty, Option.merge_none_right]
  · rw [weight?_merge, weight?_empty, Option.merge_none_right]

/-- By the policy of the greater weight, a graph adds nothing to itself. -/
lemma merge_max_self (hg : g.Regular) : g.merge g .max = g := by
  refine ext_of_views (hg.merge hg .max).noEmptyRow hg.noEmptyRow (fun name => ?_)
    fun source target => ?_
  · rw [kind?_merge g hg, @Std.IdempotentOp.idempotent _ (Option.merge Kind.join) _]
  · rw [weight?_merge, @Std.IdempotentOp.idempotent _ (Option.merge Policy.max.combine) _]

/-- A merge loses nothing of its first graph. -/
lemma below_merge (hg : g.Regular) (hh : h.Regular) (policy : Policy) :
    g.Below (g.merge h policy) := by
  refine ⟨fun name kind hkind => ?_, fun source target weight hw => ?_⟩
  · rw [kind?_merge g hh, hkind]
    cases hother : h.kind? name with
    | none => exact ⟨kind, rfl, le_rfl⟩
    | some kind' => exact ⟨kind.join kind', rfl, by rw [Kind.rank_join]; exact Nat.le_max_left _ _⟩
  · rw [weight?_merge, hw]
    cases hother : h.weight? source target with
    | none => exact ⟨weight, rfl, le_rfl⟩
    | some weight' => exact ⟨_, rfl, policy.le_combine_left (hg.weight?_mem hw).2 _⟩

/-- **Merging is the pointwise join of two graphs**: it has the entities of both with the more
specific kind, and the links of both with their weights combined where both have them. So it is
commutative and associative with the empty graph as identity, by the policy of the greater weight
idempotent, and it neither loses nor lowers anything of either side.

**Proof sketch.** The two views of a merge are computed first. Since regular graphs are equal if
their views are, each law of merging is a law of joining kinds and of combining weights, which has
to hold for missing values too. -/
theorem merge_pointwise_join (hg : g.Regular) (hh : h.Regular) (hk : k.Regular) (policy : Policy) :
    (∀ name, (g.merge h policy).kind? name = (g.kind? name).merge Kind.join (h.kind? name)) ∧
    (∀ source target, (g.merge h policy).weight? source target =
      (g.weight? source target).merge policy.combine (h.weight? source target)) ∧
    g.merge h policy = h.merge g policy ∧
    (g.merge h policy).merge k policy = g.merge (h.merge k policy) policy ∧
    g.merge empty policy = g ∧ empty.merge g policy = g ∧
    g.merge g .max = g ∧
    g.Below (g.merge h policy) ∧ h.Below (g.merge h policy) := by
  refine ⟨kind?_merge g hh policy, weight?_merge g h policy, merge_comm hg hh policy,
    merge_assoc hg hh hk policy, merge_empty hg policy, ?_, merge_max_self hg,
    below_merge hg hh policy, ?_⟩
  · rw [merge_comm .empty hg, merge_empty hg]
  · rw [merge_comm hg hh]
    exact below_merge hh hg policy

/-- Two graphs whose weights for one link exceed the greatest weight together, and a third one
with a link from an entity to itself: both ways of merging them saturate alike. -/
theorem merge_saturating_links :
    let a : Entity := ⟨"a", .module⟩
    let b : Entity := ⟨"b", .unknown⟩
    let g := empty.insert a b (weightLimit - 1) .sum
    let h := empty.insert ⟨"a", .interface⟩ b 5 .sum
    let k := empty.insert b ⟨"b", .class⟩ 1 .sum
    (g.Regular ∧ h.Regular ∧ k.Regular) ∧
    (g.merge h .sum).merge k .sum = g.merge (h.merge k .sum) .sum ∧
    (g.merge h .sum).kind? "a" = some .interface ∧
    (g.merge h .sum).weight? "a" "b" = some weightLimit := by
  intro a b g h k
  have hg : g.Regular := .insert .empty (by decide +kernel) (by decide +kernel) (by decide)
    (by decide) .sum
  have hh : h.Regular := .insert .empty (by decide +kernel) (by decide +kernel) (by decide)
    (by decide) .sum
  have hk : k.Regular := .insert .empty (by decide +kernel) (by decide +kernel) (by decide)
    (by decide) .sum
  obtain ⟨hkind, hweight, -, hassoc, -⟩ := merge_pointwise_join hg hh hk .sum
  refine ⟨⟨hg, hh, hk⟩, hassoc, ?_, ?_⟩
  · rw [hkind]
    decide +kernel
  · rw [hweight]
    decide +kernel

end DepAtlas.Graph
