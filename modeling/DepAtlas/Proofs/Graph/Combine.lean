import Mathlib.Algebra.GroupWithZero.Nat
import Mathlib.Data.List.Perm.Basic
import Mathlib.Data.List.ReduceOption
import Mathlib.Tactic.Common
import DepAtlas.Graph.Basic

set_option relaxedAutoImplicit false
set_option autoImplicit false

/-!
# Combining kinds and weights

An entity reported twice keeps the more specific kind, and a link reported twice has its weights
combined by a policy. Both operations are commutative and associative, sums that stop at the
greatest weight included, so what a run of reports amounts to can be said without its order.

## Main definitions

* `DepAtlas.gather` — all values of a list combined, nothing for none.
* `DepAtlas.saturated` — the sum of a list of weights, stopped at the greatest weight.

## Main results

* `DepAtlas.Kind.rank_join` — the join of two kinds is the greater one.
* `DepAtlas.gather_parts` — values may be combined part by part.
* `DepAtlas.view_foldl` — a view that every step combines with one value is combined with all of
  them by a run of steps.
* `DepAtlas.gather_sum` — summed one after the other, weights amount to their saturated sum.
-/

namespace DepAtlas

/-! ## Kinds -/

namespace Kind

/-- A kind is known by its rank. -/
lemma rank_injective : Function.Injective rank := by
  intro k l h
  cases k <;> cases l <;> first | rfl | cases h

/-- The rank of a join is the greater of both ranks. -/
lemma rank_join (k l : Kind) : (k.join l).rank = max k.rank l.rank := by
  unfold join
  split <;> omega

/-- The join of two kinds is one of them. -/
lemma join_eq_or (k l : Kind) : k.join l = k ∨ k.join l = l := by
  unfold join
  split
  · exact Or.inr rfl
  · exact Or.inl rfl

/-- The order of two kinds that are joined does not count. -/
instance : Std.Commutative join where
  comm k l := rank_injective <| by simp only [rank_join, Nat.max_comm]

/-- Three kinds may be joined in either way. -/
instance : Std.Associative join where
  assoc k l m := rank_injective <| by simp only [rank_join, Nat.max_assoc]

/-- A kind joined with itself is itself. -/
instance : Std.IdempotentOp join where
  idempotent k := rank_injective <| by simp only [rank_join, Nat.max_self]

/-- Adding a kind to what is known joins the two. -/
lemma some_added (kind : Kind) (known : Option Kind) :
    some (kind.added known) = known.merge join (some kind) := by
  cases known <;> rfl

end Kind

/-! ## Weights -/

namespace Policy

/-- Adding a weight to what is known combines the two. -/
lemma some_added (policy : Policy) (weight : ℕ) (known : Option ℕ) :
    some (policy.added weight known) = known.merge policy.combine (some weight) := by
  cases known <;> rfl

/-- The order of two weights that are combined does not count. -/
instance (policy : Policy) : Std.Commutative policy.combine where
  comm a b := by
    cases policy with
    | sum => simp only [combine, Nat.add_comm]
    | max => exact Nat.max_comm a b

/-- Three weights may be combined in either way. A sum that was stopped at the greatest weight on
the way is stopped there in the end as well. -/
instance (policy : Policy) : Std.Associative policy.combine where
  assoc a b c := by
    cases policy with
    | sum => simp only [combine]; omega
    | max => exact Nat.max_assoc a b c

/-- The greater of a weight and itself is itself. For sums this does not hold. -/
instance : Std.IdempotentOp Policy.max.combine where
  idempotent a := Nat.max_self a

/-- No policy lowers the first of two weights. -/
lemma le_combine_left (policy : Policy) {a : ℕ} (ha : a ≤ weightLimit) (b : ℕ) :
    a ≤ policy.combine a b := by
  cases policy with
  | sum => simp only [combine]; omega
  | max => exact Nat.le_max_left a b

/-- Weights in range have a combined weight in range. -/
lemma combine_le (policy : Policy) {a b : ℕ} (ha : a ≤ weightLimit) (hb : b ≤ weightLimit) :
    policy.combine a b ≤ weightLimit := by
  cases policy with
  | sum => exact Nat.min_le_right _ _
  | max => exact Nat.max_le.2 ⟨ha, hb⟩

end Policy

/-! ## Runs of reports -/

section Gather

variable {α : Type} (op : α → α → α)

/-- All values of a list combined; nothing if there is none. Kinds and weights of graphs that come
out of many steps are gathered from what the single steps contribute. -/
def gather (values : List (Option α)) : Option α :=
  values.foldr (Option.merge op) none

/-- Nothing is gathered from an empty list. -/
@[simp] lemma gather_nil : gather op [] = none := rfl

/-- The first value is combined with all others. -/
@[simp] lemma gather_cons (value : Option α) (values : List (Option α)) :
    gather op (value :: values) = value.merge op (gather op values) := rfl

/-- What is gathered from two lists is what is gathered from both, combined. -/
lemma gather_append [Std.Associative op] (values values' : List (Option α)) :
    gather op (values ++ values') = (gather op values).merge op (gather op values') := by
  induction values with
  | nil => rw [List.nil_append, gather_nil, Option.merge_none_left]
  | cons value values ih =>
    rw [List.cons_append, gather_cons, gather_cons, ih]
    exact (Std.Associative.assoc _ _ _).symm

/-- Something is gathered exactly if something is there. -/
lemma gather_eq_none_iff {values : List (Option α)} :
    gather op values = none ↔ ∀ value ∈ values, value = none := by
  induction values with
  | nil => simp
  | cons value values ih => simp [Option.merge_eq_none_iff, ih]

/-- Entries without a value do not count. -/
lemma gather_map_filter_isSome {ι : Type} (value : ι → Option α) (xs : List ι) :
    gather op ((xs.filter fun x => (value x).isSome).map value) = gather op (xs.map value) := by
  induction xs with
  | nil => rfl
  | cons x xs ih =>
    cases hx : value x with
    | none => simp [hx, ih]
    | some a => simp [hx, ih]

/-- The values of the entries that a list is mapped to. -/
lemma gather_map_filterMap {ι κ : Type} (f : ι → Option κ) (value : κ → Option α) (xs : List ι) :
    gather op ((xs.filterMap f).map value) = gather op (xs.map fun x => (f x).bind value) := by
  induction xs with
  | nil => rfl
  | cons x xs ih =>
    cases hx : f x with
    | none => simp [hx, ih]
    | some y => simp [hx, ih]

/-- What is gathered does not depend on the order. -/
lemma gather_perm [Std.Associative op] [Std.Commutative op] {xs ys : List (Option α)}
    (h : xs.Perm ys) : gather op xs = gather op ys :=
  h.foldr_eq none

/-- Two lists without repetitions amount to the same if they differ only in entries without a
value. -/
lemma gather_map_eq_of_nodup [Std.Associative op] [Std.Commutative op] {ι : Type}
    {value : ι → Option α} {xs ys : List ι} (hxs : xs.Nodup) (hys : ys.Nodup)
    (h : ∀ x, value x ≠ none → (x ∈ xs ↔ x ∈ ys)) :
    gather op (xs.map value) = gather op (ys.map value) := by
  rw [← gather_map_filter_isSome op value xs, ← gather_map_filter_isSome op value ys]
  refine gather_perm op (List.Perm.map value ?_)
  refine (List.perm_ext_iff_of_nodup (hxs.filter _) (hys.filter _)).2 fun x => ?_
  rw [List.mem_filter, List.mem_filter]
  exact and_congr_left fun hx => h x (Option.isSome_iff_ne_none.1 hx)

/-- Values combined entry by entry amount to both lists of values combined. -/
lemma gather_map_merge [Std.Associative op] [Std.Commutative op] {ι : Type} (a b : ι → Option α)
    (xs : List ι) :
    gather op (xs.map fun x => (a x).merge op (b x)) =
      (gather op (xs.map a)).merge op (gather op (xs.map b)) := by
  induction xs with
  | nil => rfl
  | cons x xs ih =>
    simp only [List.map_cons, gather_cons, ih]
    ac_rfl

/-- What was gathered has every value of the list in it.

**Proof sketch.** Induction on the list. A value at the head is there twice now, which is the same
as once; a value further back was there already in what was gathered from the rest. -/
lemma gather_merge_of_mem [Std.Associative op] [Std.Commutative op] [Std.IdempotentOp op]
    {values : List (Option α)} {value : Option α} (hv : value ∈ values) :
    (gather op values).merge op value = gather op values := by
  induction values with
  | nil => simp at hv
  | cons v values ih =>
    rw [gather_cons, @Std.Associative.assoc _ (Option.merge op) _]
    rcases List.mem_cons.1 hv with rfl | hv
    · rw [@Std.Commutative.comm _ (Option.merge op) _ (gather op values),
        ← @Std.Associative.assoc _ (Option.merge op) _,
        @Std.IdempotentOp.idempotent _ (Option.merge op) _]
    · rw [ih hv]

/-- What a list with distinct keys holds for a key is the value of the one entry with that key.

**Proof sketch.** Induction on the list. If the head has the key, no entry of the rest does, so
the rest contributes nothing; otherwise the head contributes nothing. -/
lemma gather_eq_some_iff {ι κ : Type} [DecidableEq κ] {key : ι → κ} {value : ι → α} {k : κ}
    {xs : List ι} (hn : (xs.map key).Nodup) {a : α} :
    gather op (xs.map fun x => if key x = k then some (value x) else none) = some a ↔
      ∃ x ∈ xs, key x = k ∧ value x = a := by
  induction xs with
  | nil => simp
  | cons x xs ih =>
    rw [List.map_cons, List.nodup_cons] at hn
    rw [List.map_cons, gather_cons]
    by_cases hx : key x = k
    · have hrest : ∀ y ∈ xs, key y ≠ k := fun y hy hk =>
        hn.1 (List.mem_map.2 ⟨y, hy, hk.trans hx.symm⟩)
      have hnone :
          gather op (xs.map fun x => if key x = k then some (value x) else none) = none := by
        refine (gather_eq_none_iff op).2 fun v hv => ?_
        obtain ⟨y, hy, rfl⟩ := List.mem_map.1 hv
        exact if_neg (hrest y hy)
      rw [if_pos hx, hnone, Option.merge_none_right, Option.some.injEq]
      constructor
      · rintro rfl
        exact ⟨x, List.mem_cons_self, hx, rfl⟩
      · rintro ⟨y, hy, hk, rfl⟩
        rcases List.mem_cons.1 hy with rfl | hy
        · rfl
        · exact absurd hk (hrest y hy)
    · rw [if_neg hx, Option.merge_none_left, ih hn.2]
      simp [hx]

/-- A mapping that respects the operation may be applied before or after values are combined. -/
lemma map_gather {f : α → α} (hf : ∀ a b, f (op a b) = op (f a) (f b)) (values : List (Option α)) :
    (gather op values).map f = gather op (values.map (Option.map f)) := by
  induction values with
  | nil => rfl
  | cons value values ih =>
    rw [gather_cons, List.map_cons, gather_cons, ← ih]
    cases value <;> cases gather op values <;> simp [hf]

/-- **Values may be combined part by part**, if every value belongs to the part of one key that is listed once.

**Proof sketch.** Induction on the entries. The one in front brings its value to the part of its own key and
nothing to the other parts. -/
lemma gather_parts [Std.Associative op] [Std.Commutative op] {ι κ : Type} [DecidableEq κ]
    (key : ι → Option κ) (value : ι → Option α) {keys : List κ} (hn : keys.Nodup) {xs : List ι}
    (hkeys : ∀ x ∈ xs, value x ≠ none → ∃ k ∈ keys, key x = some k) :
    gather op (keys.map fun k => gather op (xs.map fun x => if key x = some k then value x else none)) =
      gather op (xs.map value) := by
  induction xs with
  | nil =>
    refine (gather_eq_none_iff op).2 fun v hv => ?_
    obtain ⟨_, -, rfl⟩ := List.mem_map.1 hv
    rfl
  | cons x xs ih =>
    have hone : gather op (keys.map fun k => if key x = some k then value x else none) = value x := by
      cases hx : value x with
      | none =>
        refine (gather_eq_none_iff op).2 fun v hv => ?_
        obtain ⟨_, -, rfl⟩ := List.mem_map.1 hv
        exact ite_self none
      | some a =>
        obtain ⟨k, hk, hkey⟩ := hkeys x List.mem_cons_self (hx ▸ Option.some_ne_none a)
        have hpart : (keys.map fun k' => if key x = some k' then some a else none) =
            keys.map fun k' => if id k' = k then some ((fun _ => a) k') else none := by
          refine List.map_congr_left fun k' _ => ?_
          simp only [hkey, Option.some.injEq, id_eq, eq_comm]
        rw [hpart, gather_eq_some_iff op (by rwa [List.map_id])]
        exact ⟨k, hk, rfl, rfl⟩
    simp only [List.map_cons, gather_cons]
    rw [gather_map_merge, hone, ih fun y hy => hkeys y (List.mem_cons_of_mem _ hy)]

/-- **What a run of steps does to a view**: if every step combines the view with one value, a run
combines it with all of them.

**Proof sketch.** Induction on the list of steps, by associativity. -/
lemma view_foldl [Std.Associative op] {σ ι : Type} (view : σ → Option α) (step : σ → ι → σ)
    (value : ι → Option α) (h : ∀ s x, view (step s x) = (view s).merge op (value x)) (s : σ)
    (xs : List ι) : view (xs.foldl step s) = (view s).merge op (gather op (xs.map value)) := by
  induction xs generalizing s with
  | nil => simp
  | cons x xs ih =>
    rw [List.foldl_cons, ih, h, List.map_cons, gather_cons]
    exact Std.Associative.assoc _ _ _

end Gather

/-- The kind that is gathered is one of those that are there, since the join of two kinds is one of
them. -/
lemma mem_of_gather_join_eq_some {kinds : List (Option Kind)} {kind : Kind}
    (h : gather Kind.join kinds = some kind) : some kind ∈ kinds := by
  induction kinds generalizing kind with
  | nil => exact nomatch h
  | cons value kinds ih =>
    rw [gather_cons] at h
    rcases Option.merge_eq_some_iff.1 h with ⟨rfl, -⟩ | ⟨-, hrest⟩ | ⟨k, l, rfl, hrest, rfl⟩
    · exact List.mem_cons_self
    · exact List.mem_cons_of_mem _ (ih hrest)
    · rcases Kind.join_eq_or k l with heq | heq
      · rw [heq]
        exact List.mem_cons_self
      · rw [heq]
        exact List.mem_cons_of_mem _ (ih hrest)

/-- The kind that is gathered is the greatest of those that are there.

**Proof sketch.** Joining a kind that is there to what is gathered changes nothing, so it is not
greater. A kind that is there and not smaller than the others has the rank of what is gathered. -/
lemma gather_join_eq_some_iff {kinds : List (Option Kind)} {kind : Kind} :
    gather Kind.join kinds = some kind ↔
      some kind ∈ kinds ∧ ∀ k, some k ∈ kinds → k.rank ≤ kind.rank := by
  have hgreatest : ∀ {kind : Kind}, gather Kind.join kinds = some kind →
      ∀ k, some k ∈ kinds → k.rank ≤ kind.rank := by
    intro kind h k hk
    have habsorbed := gather_merge_of_mem Kind.join hk
    rw [h, Option.merge_some_some, Option.some.injEq] at habsorbed
    have hrank := Kind.rank_join kind k
    rw [habsorbed] at hrank
    omega
  constructor
  · exact fun h => ⟨mem_of_gather_join_eq_some h, hgreatest h⟩
  · rintro ⟨hmem, hall⟩
    cases hsome : gather Kind.join kinds with
    | none => exact absurd ((gather_eq_none_iff Kind.join).1 hsome _ hmem) (Option.some_ne_none _)
    | some l =>
      have hle := hall l (mem_of_gather_join_eq_some hsome)
      have hge := hgreatest hsome kind hmem
      exact congrArg some (Kind.rank_injective (Nat.le_antisymm hle hge))

/-- A view that no step changes is not changed by a run of steps. -/
lemma view_foldl_of_fixed {σ ι β : Type} (view : σ → β) (step : σ → ι → σ) {s : σ} {xs : List ι}
    (h : ∀ s', view s' = view s → ∀ x ∈ xs, view (step s' x) = view s) :
    view (xs.foldl step s) = view s :=
  List.foldlRecOn xs step (motive := fun s' => view s' = view s) rfl h

/-! ## Saturated sums -/

/-- The sum of weights, stopped at the greatest weight; nothing for no weight. It is what gathering
by sums amounts to, in one step. -/
def saturated (weights : List ℕ) : Option ℕ :=
  if weights = [] then none else some (min weightLimit weights.sum)

/-- A saturated sum is there exactly if there is something to sum up. -/
lemma saturated_eq_some_iff {weights : List ℕ} {weight : ℕ} :
    saturated weights = some weight ↔ weights ≠ [] ∧ weight = min weightLimit weights.sum := by
  unfold saturated
  split
  · next h => simp [h]
  · next h => simp [h, eq_comm]

/-- Weights of zero count nothing. -/
lemma sum_filter_ne_zero (weights : List ℕ) : (weights.filter (· ≠ 0)).sum = weights.sum := by
  induction weights with
  | nil => rfl
  | cons w weights ih =>
    rw [List.filter_cons]
    by_cases hw : w = 0
    · rw [if_neg (by simpa using hw), ih, hw, List.sum_cons, Nat.zero_add]
    · rw [if_pos (by simpa using hw), List.sum_cons, List.sum_cons, ih]

/-- The values that are there for the entries of a list with a property. -/
lemma reduceOption_map_ite {ι α : Type} (p : ι → Bool) (value : ι → α) (xs : List ι) :
    (xs.map fun x => if p x then some (value x) else none).reduceOption =
      (xs.filter p).map value := by
  induction xs with
  | nil => rfl
  | cons x xs ih =>
    cases hx : p x with
    | true => simp [hx, ih]
    | false => simp [hx, ih]

/-- Weights in range, summed one after the other, amount to their saturated sum.

**Proof sketch.** Induction on the list: a sum that was stopped once stays at the greatest
weight whatever is added. -/
lemma gather_sum {values : List (Option ℕ)} (h : ∀ w, some w ∈ values → w ≤ weightLimit) :
    gather Policy.sum.combine values = saturated values.reduceOption := by
  induction values with
  | nil => rfl
  | cons value values ih =>
    have ih := ih fun w hw => h w (List.mem_cons_of_mem _ hw)
    cases value with
    | none => rw [gather_cons, Option.merge_none_left, ih, List.reduceOption_cons_of_none]
    | some w =>
      have hw : w ≤ weightLimit := h w List.mem_cons_self
      rw [gather_cons, ih, List.reduceOption_cons_of_some]
      cases hrest : values.reduceOption with
      | nil => simp [saturated, hw]
      | cons v rest =>
        simp only [saturated, reduceCtorEq, if_false, Option.merge_some_some, Policy.combine,
          List.sum_cons, Option.some.injEq]
        omega

end DepAtlas
