import DepAtlas.Proofs.Graph.Observations
import DepAtlas.Proofs.Graph.Sum
import DepAtlas.Proofs.Json.Reading
import DepAtlas.Trace
import Mathlib.Algebra.Order.BigOperators.Group.List
import Mathlib.Algebra.Order.Group.Nat

set_option relaxedAutoImplicit false
set_option autoImplicit false

/-!
# Recordings add up

A recording lists calls, and its graph is the sum of the graphs of its calls. So a recording may be split
up, its calls may come in any order, and calls that were seen several times may be listed once with a count
or each time they were seen.

## Main definitions

* `DepAtlas.Trace.Entry` — a call as it is written, with what may be left out.
* `DepAtlas.Trace.bareDocument`, `DepAtlas.Trace.wrappedDocument` — the two forms of a document.
* `DepAtlas.Trace.Lists` — a document lists some calls.

## Main results

* `DepAtlas.Trace.lists_bareDocument`, `DepAtlas.Trace.lists_wrappedDocument` — written calls are listed.
* `DepAtlas.Trace.graph_append`, `DepAtlas.Trace.graph_perm` — split recordings, and calls in another order.
* `DepAtlas.Trace.graph_split_count` — one call with a count, or several calls.
* `DepAtlas.Trace.recordings_add_up` — all of this together.
-/

namespace DepAtlas

namespace Builder

/-! ## Runs that amount to the same -/

/-- **Two runs build the same graph** if they mention the same entities and have observed every link
equally often, one by one or many at once.

**Proof sketch.** Kinds are the most specific ones that are mentioned, and weights are saturated
sums of what was observed. -/
lemma graph_run_congr {steps steps' : List Step}
    (hmentions : ∀ e, e ∈ mentions steps ↔ e ∈ mentions steps')
    (hcount : ∀ source target,
      (steps.map (Step.count source target)).sum = (steps'.map (Step.count source target)).sum) :
    (run steps).graph = (run steps').graph := by
  have hobserved : ∀ (steps : List Step) (source target : String),
      (∃ s ∈ steps, 1 ≤ s.count source target) ↔
        1 ≤ (steps.map (Step.count source target)).sum := fun steps source target =>
    (List.sum_pos_iff_exists_pos_nat.trans (by simp [Nat.one_le_iff_ne_zero, Nat.pos_iff_ne_zero])).symm
  refine Graph.ext_of_views (wellFormed_run steps).noEmptyRow (wellFormed_run steps').noEmptyRow
    (fun name => ?_) fun source target => ?_
  · ext kind
    rw [kind?_run_eq_some_iff, kind?_run_eq_some_iff]
    simp only [hmentions]
  · ext weight
    rw [weight?_run_eq_some_iff, weight?_run_eq_some_iff, hobserved, hobserved, hcount]

/-- Every step adds up. -/
lemma addsUp_step (s : Step) : AddsUp fun b => b.step s := by
  cases s with
  | add fact => exact addsUp_add fact
  | addWeighted fact count hcount => exact addsUp_addWeighted fact hcount
  | declare e => exact addsUp_declare e

/-- Two runs after each other build the sum of what both of them build. -/
lemma graph_run_append (steps steps' : List Step) :
    (run (steps ++ steps')).graph = (run steps).graph.merge (run steps').graph .sum := by
  rw [run, List.foldl_append]
  exact (AddsUp.foldl addsUp_step steps').graph_eq
    ((AddsUp.foldl addsUp_step steps).regular regular_empty)

end Builder

namespace Trace

/-! ## Documents -/

/-- A call as it is written. The kinds and the count may be left out. -/
structure Entry where
  caller : String
  callee : String
  callerKind : Option String := none
  calleeKind : Option String := none
  count : Option ℕ := none
deriving DecidableEq, Repr

namespace Entry

/-- The call that is meant: a call without a count was seen once. -/
def call (e : Entry) : Call :=
  ⟨e.caller, e.callee, e.callerKind, e.calleeKind, e.count.getD 1⟩

/-- The object that is written, with the members that are given. -/
def json (e : Entry) : Json :=
  let member? (key : String) (value : Option Json) : List (String × Json) :=
    (value.map fun v => (key, v)).toList
  .object ([("caller", .string e.caller), ("callee", .string e.callee)]
    ++ member? "caller_kind" (e.callerKind.map .string)
    ++ member? "callee_kind" (e.calleeKind.map .string)
    ++ member? "count" (e.count.map .natural))

/-- A written call is read as the call that is meant. -/
lemma call?_json (e : Entry) : call? e.json = some e.call := by
  obtain ⟨caller, callee, callerKind, calleeKind, count⟩ := e
  cases callerKind <;> cases calleeKind <;> cases count <;> rfl

end Entry

/-- The document of some calls as an array. -/
def bareDocument (entries : List Entry) : String :=
  (Json.array (entries.map Entry.json)).compact

/-- The document of some calls as the member of an object. -/
def wrappedDocument (entries : List Entry) : String :=
  (Json.object [("calls", .array (entries.map Entry.json))]).compact

/-- A document lists some calls. Which of the two forms it has does not matter for anything that is
built from it. -/
def Lists (document : String) (calls : List Call) : Prop :=
  (Json.read? document).bind calls? = some calls

/-- Written calls are read as the calls that are meant. -/
lemma callList?_map_json (entries : List Entry) :
    callList? (.array (entries.map Entry.json)) = some (entries.map Entry.call) := by
  change (entries.map Entry.json).mapM call? = _
  induction entries with
  | nil => rfl
  | cons e entries ih => simp [Entry.call?_json, ih]

/-- What is written of a call can be read back if its count is in range.

**Proof sketch.** An entry is an object with strings and perhaps a number as its members. -/
lemma Entry.isReadable_json {e : Entry} (h : e.call.count ≤ weightLimit) (depth : ℕ) :
    Json.IsReadable (depth + 1) e.json := by
  refine .object fun m hm => ?_
  simp only [List.mem_append, List.mem_cons, List.not_mem_nil, or_false, Option.mem_toList,
    Option.map_eq_some_iff] at hm
  rcases hm with (((rfl | rfl) | ⟨_, ⟨kind, -, rfl⟩, rfl⟩) | ⟨_, ⟨kind, -, rfl⟩, rfl⟩)
    | ⟨_, ⟨count, hcount, rfl⟩, rfl⟩
  · exact .string _
  · exact .string _
  · exact .string _
  · exact .string _
  · have hlimit : weightLimit < Nat.pow 2 64 := by decide
    simp only [call, hcount, Option.getD_some] at h
    exact .natural (Nat.lt_of_le_of_lt h hlimit)

section Documents

variable {entries : List Entry} (h : ∀ e ∈ entries, e.call.count ≤ weightLimit)

include h

/-- An array of calls can be read back if all of them can. -/
lemma isReadable_calls (depth : ℕ) :
    Json.IsReadable (depth + 2) (.array (entries.map Entry.json)) := by
  refine .array fun item hitem => ?_
  obtain ⟨e, he, rfl⟩ := List.mem_map.1 hitem
  exact e.isReadable_json (h e he) depth

/-- **An array lists the calls that are written in it.** -/
lemma lists_bareDocument : Lists (bareDocument entries) (entries.map Entry.call) := by
  rw [Lists, bareDocument, Json.read?_compact (isReadable_calls h 125)]
  exact callList?_map_json entries

/-- **An object lists the calls of its one member.** -/
lemma lists_wrappedDocument : Lists (wrappedDocument entries) (entries.map Entry.call) := by
  have hreadable : Json.IsReadable (125 + 2) (.object [("calls", .array (entries.map Entry.json))]) := by
    refine .object fun m hm => ?_
    rw [List.mem_singleton.1 hm]
    exact isReadable_calls h 124
  rw [Lists, wrappedDocument, Json.read?_compact hreadable]
  exact callList?_map_json entries

end Documents

/-- The graph of a document is that of the calls that it lists. -/
lemma Lists.read?_eq {document : String} {calls : List Call} (h : Lists document calls) :
    read? document = some (graph calls) := by
  obtain ⟨json, hjson, hcalls⟩ := Option.bind_eq_some_iff.1 h
  simp [read?, hjson, hcalls]

/-! ## Calls as steps -/

/-- The step that a call is. -/
def Call.step (c : Call) : Builder.Step :=
  .addWeighted c.fact (min c.count weightLimit) (Nat.min_le_right _ _)

/-- The graph of some calls is built by a run of steps. -/
lemma graph_eq_run {calls : List Call} (h : ∀ c ∈ calls, c.count ≤ weightLimit) :
    graph calls = (Builder.run (calls.map Call.step)).graph := by
  rw [graph, Builder.run, List.foldl_map]
  refine congrArg Builder.graph (List.foldl_ext _ _ _ fun b c hc => ?_)
  simp [Builder.step, Call.step, Nat.min_eq_left (h c hc)]

/-- A call observes its link as often as it was seen. -/
lemma count_step {c : Call} (h : c.count ≤ weightLimit) (source target : String) :
    c.step.count source target =
      if c.fact.source.isBlank || c.fact.target.isBlank then 0
      else if c.fact.source.name = source ∧ c.fact.target.name = target then c.count else 0 := by
  rw [← Nat.min_eq_left h]
  rfl

section Laws

variable {c d : List Call} (hc : ∀ x ∈ c, x.count ≤ weightLimit) (hd : ∀ x ∈ d, x.count ≤ weightLimit)

include hc

/-- **The graph of two recordings together is the sum of their graphs.** -/
lemma graph_append (hd : ∀ x ∈ d, x.count ≤ weightLimit) :
    graph (c ++ d) = (graph c).merge (graph d) .sum := by
  have hboth : ∀ x ∈ c ++ d, x.count ≤ weightLimit := fun x hx =>
    (List.mem_append.1 hx).elim (hc x) (hd x)
  rw [graph_eq_run hboth, graph_eq_run hc, graph_eq_run hd, List.map_append,
    Builder.graph_run_append]

/-- **The order of the calls does not count.** -/
lemma graph_perm (h : c.Perm d) : graph c = graph d := by
  rw [graph_eq_run hc, graph_eq_run fun x hx => hc x (h.mem_iff.2 hx)]
  exact congrArg Builder.graph (Builder.run_perm (h.map _))

end Laws

/-- **A call with a count is as good as several calls** with counts that add up to it.

**Proof sketch.** They mention the same ends, since there is at least one of them, and observe their link
equally often altogether. -/
lemma graph_map_count {x : Call} (hx : x.count ≤ weightLimit) {counts : List ℕ}
    (hsum : counts.sum = x.count) (hne : counts ≠ []) :
    graph (counts.map fun n => { x with count := n }) = graph [x] := by
  have hle : ∀ n ∈ counts, n ≤ weightLimit := fun n hn =>
    (List.le_sum_of_mem hn).trans (hsum ▸ hx)
  have hparts : ∀ y ∈ counts.map fun n => { x with count := n }, y.count ≤ weightLimit := by
    intro y hy
    obtain ⟨n, hn, rfl⟩ := List.mem_map.1 hy
    exact hle n hn
  rw [graph_eq_run hparts, graph_eq_run (List.forall_mem_singleton.2 hx)]
  refine Builder.graph_run_congr (fun e => ?_) fun source target => ?_
  · obtain ⟨n, hn⟩ := List.exists_mem_of_ne_nil counts hne
    simp only [Builder.mentions, List.mem_flatMap, List.mem_map, List.map_cons, List.map_nil,
      List.mem_singleton]
    constructor
    · rintro ⟨_, ⟨_, ⟨m, -, rfl⟩, rfl⟩, he⟩
      exact ⟨_, rfl, he⟩
    · rintro ⟨_, rfl, he⟩
      exact ⟨_, ⟨_, ⟨n, hn, rfl⟩, rfl⟩, he⟩
  · have hcounts : ((counts.map fun n => { x with count := n }).map Call.step).map
        (Builder.Step.count source target) = counts.map fun n =>
        if x.fact.source.isBlank || x.fact.target.isBlank then 0
        else if x.fact.source.name = source ∧ x.fact.target.name = target then n else 0 := by
      rw [List.map_map, List.map_map]
      exact List.map_congr_left fun n hn => count_step (hle n hn) source target
    have hone : (([x].map Call.step).map (Builder.Step.count source target)).sum =
        x.step.count source target := by simp
    rw [hcounts, hone, count_step hx]
    split_ifs <;> simp [hsum]

/-! ## One call among others -/

section Middle

variable {c d : List Call} {x : Call} (hc : ∀ y ∈ c, y.count ≤ weightLimit)
  (hx : x.count ≤ weightLimit) (hd : ∀ y ∈ d, y.count ≤ weightLimit)

include hc hx hd

/-- With counts in range among the others, all counts are. -/
lemma count_le_of_mem_middle : ∀ y ∈ c ++ x :: d, y.count ≤ weightLimit := by
  intro y hy
  rcases List.mem_append.1 hy with hy | hy
  · exact hc y hy
  · rcases List.mem_cons.1 hy with rfl | hy
    · exact hx
    · exact hd y hy

/-- A call among others may come last. -/
lemma exists_graph_middle_eq : ∃ b : Builder, b.graph = graph (c ++ d) ∧
    graph (c ++ x :: d) = (b.addWeighted x.fact x.count).graph := by
  have hperm : (c ++ x :: d).Perm (c ++ d ++ [x]) :=
    List.perm_middle.trans (List.perm_append_singleton x (c ++ d)).symm
  refine ⟨_, rfl, ?_⟩
  rw [graph_perm (count_le_of_mem_middle hc hx hd) hperm, graph, List.foldl_append]
  rfl

/-- **A call that was never seen only declares its ends.** -/
lemma graph_middle_of_count_eq_zero (hzero : x.count = 0) (hsource : x.fact.source.isBlank = false)
    (htarget : x.fact.target.isBlank = false) :
    graph (c ++ x :: d) = ((graph (c ++ d)).declare x.fact.source).declare x.fact.target := by
  obtain ⟨b, hb, hlast⟩ := exists_graph_middle_eq hc hx hd
  rw [hlast, ← hb]
  simp [Builder.addWeighted, hsource, htarget, hzero]

/-- **A call with a blank end changes nothing.** -/
lemma graph_middle_of_isBlank (hblank : (x.fact.source.isBlank || x.fact.target.isBlank) = true) :
    graph (c ++ x :: d) = graph (c ++ d) := by
  obtain ⟨b, hb, hlast⟩ := exists_graph_middle_eq hc hx hd
  rw [hlast, ← hb, Builder.addWeighted, if_pos hblank]

/-- A call among others with a count is as good as several calls.

**Proof sketch.** The calls mention the same entities as the one, and have together observed its
link equally often. -/
lemma graph_split_count {counts : List ℕ} (hsum : counts.sum = x.count) (hne : counts ≠ []) :
    graph (c ++ (counts.map fun n => { x with count := n }) ++ d) = graph (c ++ x :: d) := by
  have hparts : ∀ y ∈ counts.map fun n => { x with count := n }, y.count ≤ weightLimit := by
    intro y hy
    obtain ⟨n, hn, rfl⟩ := List.mem_map.1 hy
    exact (List.le_sum_of_mem hn).trans (hsum ▸ hx)
  have hone : ∀ y ∈ [x], y.count ≤ weightLimit := by simpa using hx
  have hrest : ∀ y ∈ [x] ++ d, y.count ≤ weightLimit := fun y hy =>
    (List.mem_append.1 hy).elim (hone y) (hd y)
  have hfront : ∀ y ∈ c ++ counts.map fun n => { x with count := n }, y.count ≤ weightLimit :=
    fun y hy => (List.mem_append.1 hy).elim (hc y) (hparts y)
  rw [graph_append hfront hd, graph_append hc hparts, graph_map_count hx hsum hne,
    ← graph_append hc hone, ← graph_append (fun y hy => (List.mem_append.1 hy).elim (hc y) (hone y)) hd,
    List.append_assoc, List.singleton_append]

end Middle

/-- **Recordings add up.** Every list of calls has a document of either form, and each document that lists
them gives their graph; it does not count whether the calls stand alone or as the member of an object. The
graph of two recordings together is the sum of both graphs, and the order of the calls does not count. A
call that was seen several times may be listed as often, or with any counts that add up to the same number.
A call that was never seen only declares its ends, and a call with a blank end changes nothing. -/
theorem recordings_add_up {c d : List Call} (hc : ∀ y ∈ c, y.count ≤ weightLimit)
    (hd : ∀ y ∈ d, y.count ≤ weightLimit) :
    (∀ entries : List Entry, entries.map Entry.call = c →
      read? (bareDocument entries) = some (graph c) ∧
        read? (wrappedDocument entries) = some (graph c)) ∧
    (∀ document, Lists document c → read? document = some (graph c)) ∧
    (∀ bare wrapped items members, Json.read? bare = some (.array items) →
      Json.read? wrapped = some (.object members) →
      (members.filter fun m => m.1 == "calls") = [("calls", .array items)] →
        read? wrapped = read? bare) ∧
    graph (c ++ d) = (graph c).merge (graph d) .sum ∧
    (∀ c', c.Perm c' → graph c' = graph c) ∧
    (∀ x : Call, 1 ≤ x.count → x.count ≤ weightLimit →
      graph (c ++ List.replicate x.count { x with count := 1 } ++ d) = graph (c ++ x :: d) ∧
      ∀ counts : List ℕ, counts.sum = x.count →
        graph (c ++ (counts.map fun n => { x with count := n }) ++ d) = graph (c ++ x :: d)) ∧
    (∀ x : Call, x.count = 0 → x.fact.source.isBlank = false → x.fact.target.isBlank = false →
      graph (c ++ x :: d) = ((graph (c ++ d)).declare x.fact.source).declare x.fact.target) ∧
    ∀ x : Call, x.count ≤ weightLimit → (x.fact.source.isBlank || x.fact.target.isBlank) = true →
      graph (c ++ x :: d) = graph (c ++ d) := by
  have hsplit : ∀ x : Call, 1 ≤ x.count → x.count ≤ weightLimit → ∀ counts : List ℕ,
      counts.sum = x.count →
        graph (c ++ (counts.map fun n => { x with count := n }) ++ d) = graph (c ++ x :: d) := by
    intro x hone hx counts hsum
    have hne : counts ≠ [] := by
      rintro rfl
      exact absurd (hsum ▸ hone) (by decide)
    exact graph_split_count hc hx hd hsum hne
  refine ⟨?_, fun _ h => h.read?_eq, ?_, graph_append hc hd, fun c' h => (graph_perm hc h).symm,
    fun x hone hx => ⟨?_, hsplit x hone hx⟩, fun x hzero => ?_, fun x hx => ?_⟩
  · rintro entries rfl
    have hentries : ∀ e ∈ entries, e.call.count ≤ weightLimit := fun e he =>
      hc _ (List.mem_map_of_mem he)
    exact ⟨(lists_bareDocument hentries).read?_eq, (lists_wrappedDocument hentries).read?_eq⟩
  · intro bare wrapped items members hbare hwrapped hmember
    simp [read?, hbare, hwrapped, calls?, member?, hmember]
  · have hcopies := hsplit x hone hx (List.replicate x.count 1) (by simp)
    rwa [List.map_replicate] at hcopies
  · exact graph_middle_of_count_eq_zero hc (hzero ▸ Nat.zero_le _) hd hzero
  · exact graph_middle_of_isBlank hc hx hd

/-- A recording whose counts together pass the greatest weight, with a kind that is given and one that names
none: it may be split up, and a call that was seen three times may be listed with the counts one, zero and
two. A call that was never seen brings two entities, and one with a blank end nothing. -/
theorem recordings_of_saturating_calls :
    let often : Entry := ⟨"a", "b", none, some "trait", some weightLimit⟩
    let once : Entry := ⟨"b", "c", some "gizmo", none, none⟩
    let thrice : Call := ⟨"a", "b", some "Struct", none, 3⟩
    let never : Call := ⟨"d", "e", none, none, 0⟩
    let blank : Call := ⟨"a", "\t", none, none, 1⟩
    let calls : List Call := [often.call, once.call]
    read? (wrappedDocument [often, once]) = some (graph calls) ∧
    graph (calls ++ [thrice]) = (graph calls).merge (graph [thrice]) .sum ∧
    graph (calls ++ [{ thrice with count := 1 }, { thrice with count := 0 }, { thrice with count := 2 }]) =
      graph (calls ++ [thrice]) ∧
    graph (calls ++ [never]) = ((graph calls).declare ⟨"d", .unknown⟩).declare ⟨"e", .unknown⟩ ∧
    graph (calls ++ [blank]) = graph calls ∧
    (graph (calls ++ [thrice])).dependencies = [⟨"a", "b", weightLimit⟩, ⟨"b", "c", 1⟩] ∧
    (graph (calls ++ [thrice])).entities = [⟨"a", .class⟩, ⟨"b", .interface⟩, ⟨"c", .unknown⟩] := by
  intro often once thrice never blank calls
  have hcalls : ∀ y ∈ calls, y.count ≤ weightLimit := by decide
  obtain ⟨hdocuments, -, -, -, -, hcounts, hzero, hblank⟩ := recordings_add_up (d := []) hcalls (by simp)
  obtain ⟨-, -, -, happend, -⟩ := recordings_add_up (d := [thrice]) hcalls (by decide)
  obtain ⟨-, hsplit⟩ := hcounts thrice (by decide) (by decide)
  have hnever := hzero never rfl (by decide) (by decide)
  have hnothing := hblank blank (by decide) (by decide)
  rw [List.append_nil] at hnever hnothing
  exact ⟨(hdocuments [often, once] rfl).2, happend, by simpa using hsplit [1, 0, 2] rfl, hnever,
    hnothing, by decide +kernel, by decide +kernel⟩

end Trace

end DepAtlas
