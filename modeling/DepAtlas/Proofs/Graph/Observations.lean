import DepAtlas.Proofs.Graph.Reachable

set_option relaxedAutoImplicit false
set_option autoImplicit false

/-!
# What a run of observations amounts to

A builder takes facts, counted facts and declarations in any order, one by one or many at once. What it
has built can be said without the order: every name has the most specific kind that it was mentioned
with, every link has the saturated sum of all its counts, and whatever has a blank name in it is only
counted as dropped.

## Main definitions

* `DepAtlas.Builder.Report`, `DepAtlas.Builder.build` — what a builder is told, and what comes out.
* `DepAtlas.Builder.Step.isDropped`, `DepAtlas.Builder.Step.mentioned`, `DepAtlas.Builder.Step.count` —
  what a single step says.

## Main results

* `DepAtlas.Builder.kind?_step`, `DepAtlas.Builder.weight?_step`, `DepAtlas.Builder.dropped_step` — what
  a step does to what is built.
* `DepAtlas.Builder.build_closed_form` — what a run of reports amounts to.
-/

namespace DepAtlas.Builder

/-! ## Single steps -/

namespace Step

/-- Whether a step is dropped: an end of its fact, or the name that it declares, is blank. -/
def isDropped : Step → Bool
  | .add fact | .addWeighted fact _ _ => fact.source.isBlank || fact.target.isBlank
  | .declare e => e.isBlank

/-- The entities that a step mentions, unless it is dropped. -/
def mentioned (s : Step) : List Entity :=
  if s.isDropped then []
  else match s with
    | .add fact | .addWeighted fact _ _ => [fact.source, fact.target]
    | .declare e => [e]

/-- How often a step has observed a link. -/
def count (source target : String) (s : Step) : ℕ :=
  if s.isDropped then 0
  else match s with
    | .add fact => if fact.source.name = source ∧ fact.target.name = target then 1 else 0
    | .addWeighted fact count _ =>
      if fact.source.name = source ∧ fact.target.name = target then count else 0
    | .declare _ => 0

/-- A step observes a link at most as often as the greatest weight says, because a count that is
given is in range. -/
lemma count_le (source target : String) (s : Step) : s.count source target ≤ weightLimit := by
  unfold count
  split
  · exact Nat.zero_le _
  · cases s with
    | add fact =>
      show ite _ 1 0 ≤ weightLimit
      split <;> decide
    | addWeighted fact count hcount =>
      show ite _ count 0 ≤ weightLimit
      split
      · exact hcount
      · exact Nat.zero_le _
    | declare e => exact Nat.zero_le _

end Step

/-- The kind that a step gives to a name: the most specific one that it mentions the name with. -/
def Step.kind? (name : String) (s : Step) : Option Kind :=
  gather Kind.join (s.mentioned.map fun e => if e.name = name then some e.kind else none)

/-- A step that is dropped leaves what is built as it is. -/
lemma step_of_isDropped {s : Step} (hs : s.isDropped = true) (b : Builder) :
    b.step s = { b with dropped := b.dropped + 1 } := by
  cases s with
  | add fact => exact if_pos hs
  | addWeighted fact count hcount => exact if_pos hs
  | declare e => exact if_pos hs

/-! ### Counted facts -/

section Counted

variable {fact : Fact} (hblank : (fact.source.isBlank || fact.target.isBlank) = false)

include hblank

/-- A fact that is added to the graph is not counted as dropped. -/
lemma dropped_addWeighted (b : Builder) (count : ℕ) :
    (b.addWeighted fact count).dropped = b.dropped := by
  unfold addWeighted
  rw [if_neg (by simp [hblank])]
  split <;> rfl

/-- A fact gives its ends their kinds, whatever its count is.

**Proof sketch.** With a count of zero the ends are declared one after the other, and with any other
count they are inserted with their link. Both add the two kinds. -/
lemma kind?_addWeighted (b : Builder) (count : ℕ) (name : String) :
    (b.addWeighted fact count).graph.kind? name = (b.graph.kind? name).merge Kind.join
      (gather Kind.join ([fact.source, fact.target].map fun e =>
        if e.name = name then some e.kind else none)) := by
  have hends : (b.addWeighted fact count).graph.kind? name =
      ((b.graph.upsert fact.source).upsert fact.target).kind? name := by
    obtain ⟨hsource, htarget⟩ := Bool.or_eq_false_iff.1 hblank
    unfold addWeighted
    rw [if_neg (by simp [hblank])]
    split
    · simp [Graph.declare, hsource, htarget]
    · exact Graph.kind?_insert b.graph fact.source fact.target count .sum name
  rw [hends, Graph.kind?_upsert, Graph.kind?_upsert,
    @Std.Associative.assoc _ (Option.merge Kind.join) _]
  simp

/-- A fact adds its count to the weight of its link, unless the count is zero: then no link is made,
and one that is there is not touched. -/
lemma weight?_addWeighted (b : Builder) (count : ℕ) (source target : String) :
    (b.addWeighted fact count).graph.weight? source target =
      (b.graph.weight? source target).merge Policy.sum.combine
        (if (fact.source.name = source ∧ fact.target.name = target) ∧ count ≠ 0 then some count
          else none) := by
  unfold addWeighted
  rw [if_neg (by simp [hblank])]
  by_cases hzero : count = 0
  · rw [if_pos hzero, if_neg (fun h => h.2 hzero), Option.merge_none_right]
    show Rows.weight? _ _ _ = Rows.weight? _ _ _
    rw [Graph.rows_declare, Graph.rows_declare]
  · rw [if_neg hzero, Graph.weight?_insert]
    simp [hzero]

end Counted

/-! ### Views of a step -/

/-- **A step joins the kinds that it mentions a name with** to the kind that is known. A step that
is dropped mentions nothing. -/
lemma kind?_step (b : Builder) (s : Step) (name : String) :
    (b.step s).graph.kind? name = (b.graph.kind? name).merge Kind.join (s.kind? name) := by
  unfold Step.kind? Step.mentioned
  cases hs : s.isDropped with
  | true => rw [step_of_isDropped hs]; simp
  | false =>
    cases s with
    | add fact => exact kind?_addWeighted hs b 1 name
    | addWeighted fact count _ => exact kind?_addWeighted hs b count name
    | declare e =>
      have he : e.isBlank = false := hs
      simp [step, declare, Graph.declare, he, Graph.kind?_upsert]

/-- **A step adds what it has observed of a link** to the weight of this link. A step that has
observed nothing of the link adds nothing, and does not make the link either. -/
lemma weight?_step (b : Builder) (s : Step) (source target : String) :
    (b.step s).graph.weight? source target =
      (b.graph.weight? source target).merge Policy.sum.combine
        (if s.count source target ≠ 0 then some (s.count source target) else none) := by
  unfold Step.count
  cases hs : s.isDropped with
  | true => rw [step_of_isDropped hs]; simp
  | false =>
    cases s with
    | add fact =>
      refine (weight?_addWeighted hs b 1 source target).trans ?_
      by_cases hlink : fact.source.name = source ∧ fact.target.name = target <;> simp [hlink]
    | addWeighted fact count _ =>
      refine (weight?_addWeighted hs b count source target).trans ?_
      by_cases hlink : fact.source.name = source ∧ fact.target.name = target <;> simp [hlink]
    | declare e =>
      have he : e.isBlank = false := hs
      simp [step, declare, Graph.declare, he]

/-- A step is counted as dropped exactly if it is. -/
lemma dropped_step (b : Builder) (s : Step) :
    (b.step s).dropped = b.dropped + if s.isDropped then 1 else 0 := by
  cases hs : s.isDropped with
  | true => rw [step_of_isDropped hs]; simp
  | false =>
    cases s with
    | add fact => exact dropped_addWeighted hs b 1
    | addWeighted fact count _ => exact dropped_addWeighted hs b count
    | declare e =>
      have he : e.isBlank = false := hs
      simp [step, declare, he]

/-! ## Runs of steps -/

/-- The entities that some steps mention. -/
def mentions (steps : List Step) : List Entity :=
  steps.flatMap Step.mentioned

/-- The kind of a name after a run of steps is gathered from what the single steps mention. -/
lemma kind?_run (steps : List Step) (name : String) :
    (run steps).graph.kind? name = gather Kind.join (steps.map (Step.kind? name)) := by
  rw [run, view_foldl Kind.join (·.graph.kind? name) step _ (kind?_step · · name)]
  show (Graph.empty.kind? name).merge Kind.join _ = _
  rw [Graph.kind?_empty, Option.merge_none_left]

/-- What steps mention a name with, gathered step by step. -/
lemma gather_map_kind? (steps : List Step) (name : String) :
    gather Kind.join (steps.map (Step.kind? name)) = gather Kind.join
      ((mentions steps).map fun e => if e.name = name then some e.kind else none) := by
  induction steps with
  | nil => rfl
  | cons s steps ih =>
    rw [mentions, List.flatMap_cons, List.map_append, gather_append, List.map_cons, gather_cons, ih]
    rfl

/-- **The kind of a name after a run of steps** is the most specific one that it was mentioned with.
A name that was not mentioned has none. -/
lemma kind?_run_eq_some_iff {steps : List Step} {name : String} {kind : Kind} :
    (run steps).graph.kind? name = some kind ↔
      ⟨name, kind⟩ ∈ mentions steps ∧
        ∀ k, ⟨name, k⟩ ∈ mentions steps → k.rank ≤ kind.rank := by
  have hmem : ∀ k, some k ∈ ((mentions steps).map fun e =>
      if e.name = name then some e.kind else none) ↔ ⟨name, k⟩ ∈ mentions steps := by
    intro k
    rw [List.mem_map]
    constructor
    · rintro ⟨e, he, hvalue⟩
      obtain ⟨rfl, hkind⟩ := Option.ite_none_right_eq_some.1 hvalue
      obtain rfl := Option.some.inj hkind
      exact he
    · exact fun he => ⟨⟨name, k⟩, he, if_pos rfl⟩
  rw [kind?_run, gather_map_kind?, gather_join_eq_some_iff, hmem]
  simp only [hmem]

/-- The weight of a link after a run of steps is the saturated sum of what the single steps have
observed.

**Proof sketch.** Each step combines one value with the weight, so the run combines them all, and
values of zero do not make the link. -/
lemma weight?_run (steps : List Step) (source target : String) :
    (run steps).graph.weight? source target =
      saturated ((steps.map (Step.count source target)).filter (· ≠ 0)) := by
  have hvalues : ∀ s : Step,
      (if s.count source target ≠ 0 then some (s.count source target) else none) =
        if decide (s.count source target ≠ 0) then some (s.count source target) else none :=
    fun s => by simp only [decide_eq_true_eq]
  rw [run, view_foldl Policy.sum.combine (·.graph.weight? source target) step _
    (weight?_step · · source target)]
  show (Graph.empty.weight? source target).merge Policy.sum.combine _ = _
  rw [Graph.weight?_empty, Option.merge_none_left, gather_sum]
  · simp only [hvalues]
    rw [reduceOption_map_ite, List.filter_map]
    rfl
  · intro w hw
    obtain ⟨s, -, hs⟩ := List.mem_map.1 hw
    obtain ⟨-, hcount⟩ := Option.ite_none_right_eq_some.1 hs
    exact Option.some.inj hcount ▸ s.count_le source target

/-- **The weight of a link after a run of steps** is the saturated sum of all that was observed of
it. -/
lemma weight?_run_eq_some_iff {steps : List Step} {source target : String} {weight : ℕ} :
    (run steps).graph.weight? source target = some weight ↔
      (∃ s ∈ steps, 1 ≤ s.count source target) ∧
        weight = min weightLimit (steps.map (Step.count source target)).sum := by
  rw [weight?_run, saturated_eq_some_iff, sum_filter_ne_zero, ne_eq, List.filter_eq_nil_iff]
  simp [Nat.one_le_iff_ne_zero]

/-- The counter counts the steps that are dropped. -/
lemma dropped_run (steps : List Step) : (run steps).dropped = steps.countP Step.isDropped := by
  have hfrom : ∀ b : Builder,
      (steps.foldl step b).dropped = b.dropped + steps.countP Step.isDropped := by
    induction steps with
    | nil => exact fun b => rfl
    | cons s steps ih =>
      intro b
      rw [List.foldl_cons, ih, dropped_step, List.countP_cons]
      omega
  exact (hfrom empty).trans (Nat.zero_add _)

/-- Builders with equal graphs and equal counters are equal. -/
lemma eq_of_graph_eq {b c : Builder} (hgraph : b.graph = c.graph) (hdropped : b.dropped = c.dropped) :
    b = c := by
  cases b
  cases c
  cases hgraph
  cases hdropped
  rfl

/-- **The order of the steps does not count.** -/
lemma run_perm {steps steps' : List Step} (h : steps.Perm steps') : run steps = run steps' := by
  refine eq_of_graph_eq (Graph.ext_of_views (wellFormed_run steps).noEmptyRow
    (wellFormed_run steps').noEmptyRow (fun name => ?_) fun source target => ?_) ?_
  · rw [kind?_run, kind?_run]
    exact gather_perm Kind.join (h.map _)
  · ext weight
    rw [weight?_run_eq_some_iff, weight?_run_eq_some_iff, (h.map _).sum_nat]
    simp only [h.mem_iff]
  · rw [dropped_run, dropped_run]
    exact h.countP_eq _

/-! ## Runs of reports -/

/-- What a builder is told: a fact, many facts at once, a fact with a count, or a declaration. These
are all the ways in which a front end talks to it. -/
inductive Report where
  | fact (fact : Fact)
  | facts (facts : List Fact)
  | counted (fact : Fact) (count : ℕ) (count_le : count ≤ weightLimit)
  | declaration (e : Entity)

/-- The builder after a report. -/
def told (b : Builder) : Report → Builder
  | .fact fact => b.add fact
  | .facts facts => b.addAll facts
  | .counted fact count _ => b.addWeighted fact count
  | .declaration e => b.declare e

/-- The builder after some reports to the empty one. -/
def build (reports : List Report) : Builder :=
  reports.foldl told empty

/-- The steps that a report is made of. -/
def Report.steps : Report → List Step
  | .fact f => [.add f]
  | .facts fs => fs.map .add
  | .counted f count hcount => [.addWeighted f count hcount]
  | .declaration e => [.declare e]

/-- A report is the run of the steps that it is made of. -/
lemma told_eq (b : Builder) (report : Report) : b.told report = report.steps.foldl step b := by
  cases report with
  | fact fact => rfl
  | facts facts => exact (@List.foldl_map _ _ _ Step.add step facts b).symm
  | counted fact count hcount => rfl
  | declaration e => rfl

/-- Reports are run step by step. -/
lemma build_eq_run (reports : List Report) : build reports = run (reports.flatMap Report.steps) := by
  rw [build, run, List.foldl_flatMap]
  exact congrArg (List.foldl · empty reports) (funext fun b => funext fun report => told_eq b report)

/-- **What reports amount to.** The entities are those that some step mentions without being dropped,
each with the most specific kind that it is mentioned with. A link is there if some step has observed it
at least once, and its weight is the sum of all that was observed, stopped at the greatest weight. The
counter counts the steps that were dropped, and these leave the graph as it is. So the reports may come in
any order. -/
theorem build_closed_form (reports : List Report) :
    let steps := reports.flatMap Report.steps
    (∀ name kind, (build reports).graph.kind? name = some kind ↔
      ⟨name, kind⟩ ∈ mentions steps ∧
        ∀ k, ⟨name, k⟩ ∈ mentions steps → k.rank ≤ kind.rank) ∧
    (∀ source target weight, (build reports).graph.weight? source target = some weight ↔
      (∃ s ∈ steps, 1 ≤ s.count source target) ∧
        weight = min weightLimit (steps.map (Step.count source target)).sum) ∧
    (build reports).dropped = steps.countP Step.isDropped ∧
    (∀ (b : Builder) (s : Step), s.isDropped = true → (b.step s).graph = b.graph) ∧
    ∀ reports', reports.Perm reports' → build reports' = build reports := by
  intro steps
  rw [build_eq_run]
  refine ⟨fun name kind => kind?_run_eq_some_iff, fun a b w => weight?_run_eq_some_iff,
    dropped_run steps, fun b s hs => ?_, fun reports' hperm => ?_⟩
  · rw [step_of_isDropped hs]
  · rw [build_eq_run]
    exact run_perm (hperm.flatMap_right _).symm

/-- Two counts whose sum is above the greatest weight, a name that is first only used and then declared, a
count of zero, a fact with one blank end and a blank declaration: in the reverse order they amount to the
same. -/
theorem build_of_mixed_reports :
    let use : Fact := ⟨⟨"a", .module⟩, ⟨"b", .unknown⟩⟩
    let reports : List Report := [.counted use weightLimit (by decide), .facts [use, use],
      .declaration ⟨"b", .interface⟩, .counted ⟨⟨"b", .class⟩, ⟨"c", .unknown⟩⟩ 0 (by decide),
      .fact ⟨⟨"d", .module⟩, ⟨"\t", .unknown⟩⟩, .declaration ⟨"", .class⟩]
    reports.Perm reports.reverse ∧ build reports.reverse = build reports ∧
    (build reports).graph.entities = [⟨"a", .module⟩, ⟨"b", .interface⟩, ⟨"c", .unknown⟩] ∧
    (build reports).graph.dependencies = [⟨"a", "b", weightLimit⟩] ∧ (build reports).dropped = 2 := by
  intro use reports
  obtain ⟨-, -, -, -, hperm⟩ := build_closed_form reports
  have hreverse : reports.Perm reports.reverse := reports.reverse_perm.symm
  exact ⟨hreverse, hperm _ hreverse, by decide +kernel, by decide +kernel, by decide +kernel⟩

end DepAtlas.Builder
