import DepAtlas.Metrics.Report
import DepAtlas.Proofs.Graph.CrossLinks
import DepAtlas.Proofs.Graph.Quotient
import DepAtlas.Proofs.Graph.Reachable

set_option relaxedAutoImplicit false
set_option autoImplicit false

/-!
# Coupling figures balance

A dependency between two different entities counts once among what its source depends on, and once among what
depends on its target. The first count is read from the row of the source and the second one from all rows,
and the figures are shown for owned entities only. This file says that they add up all the same: every
source of a dependency is owned, so nothing is missing from the first counts, and from the second ones
exactly what ends at an entity that is not shown.

## Main results

* `DepAtlas.Graph.perm_dependantsOf` — what is found for a target in all rows.
* `DepAtlas.Graph.EndsDeclared.efferent_eq_length_names`,
  `DepAtlas.Graph.EndsDeclared.afferent_eq_length_names` — the figures count entities.
* `DepAtlas.Report.sum_efferent`, `DepAtlas.Report.sum_afferent` — the sums of the figures.
* `DepAtlas.Report.sum_countOf` — the entities by kind.
* `DepAtlas.Report.coupling_figures_balance` — the whole report.
-/

namespace DepAtlas

/-- Counting by key counts everything that has one of the keys once, if every key is listed once.

**Proof sketch.** Everything is given the weight one, so that counts are sums over parts. -/
lemma sum_length_parts {ι κ : Type} [DecidableEq κ] (key : ι → κ) {keys : List κ} (hn : keys.Nodup)
    (xs : List ι) : (keys.map fun k => (xs.filter fun x => key x = k).length).sum =
      (xs.filter fun x => key x ∈ keys).length := by
  have hone : ∀ ys : List ι, (ys.map fun _ => 1).sum = ys.length := fun ys => by simp
  have hpart : ∀ k ∈ keys, (xs.filter fun x => key x = k).length =
      (((xs.filter fun x => key x ∈ keys).filter fun x => key x = k).map fun _ => 1).sum := by
    intro k hk
    rw [hone, List.filter_filter]
    congr 1
    refine List.filter_congr fun x _ => ?_
    by_cases hkey : key x = k <;> simp [hkey, hk]
  have hkeys : ∀ x ∈ xs.filter fun x => key x ∈ keys, key x ∈ keys := fun x hx => by
    simpa using (List.mem_filter.1 hx).2
  rw [List.map_congr_left hpart, sum_parts_eq_sum key (fun _ => 1) hn hkeys, hone]

namespace Graph

variable {g : Graph} {name : String}

/-! ## What depends on an entity -/

/-- What all rows have for an entity is what the listing has for it as a target. -/
lemma mem_dependantsOf {d : Dependency} :
    d ∈ g.dependantsOf name ↔ d ∈ g.dependencies ∧ d.target = name := by
  obtain ⟨source, target, weight⟩ := d
  rw [mem_dependencies, weight?, Rows.weight?, Option.bind_eq_some_iff, dependantsOf]
  simp only [List.mem_filterMap, Prod.exists, Std.ExtTreeMap.mem_toList_iff_getElem?_eq_some,
    Option.map_eq_some_iff, Dependency.mk.injEq]
  constructor
  · rintro ⟨_, row, hrow, _, hw, rfl, rfl, rfl⟩
    exact ⟨⟨row, hrow, hw⟩, rfl⟩
  · rintro ⟨⟨row, hrow, hw⟩, rfl⟩
    exact ⟨source, row, hrow, weight, hw, rfl, rfl, rfl⟩

/-- All rows together have for an entity what the listing has for it as a target. -/
lemma perm_dependantsOf (g : Graph) (name : String) :
    (g.dependantsOf name).Perm (g.dependencies.filter (·.target == name)) := by
  have hnodup : (g.dependantsOf name).Nodup := by
    refine List.pairwise_filterMap.2 (g.rows.distinct_keys_toList.imp fun {p q} hne d hd e he heq => hne ?_)
    obtain ⟨_, -, rfl⟩ := Option.map_eq_some_iff.1 hd
    obtain ⟨_, -, rfl⟩ := Option.map_eq_some_iff.1 he
    rw [(Dependency.mk.inj heq).1]
    exact Std.ReflCmp.compare_self
  refine (List.perm_ext_iff_of_nodup hnodup (g.nodup_dependencies.filter _)).2 fun d => ?_
  rw [mem_dependantsOf, List.mem_filter, beq_iff_eq]

/-! ## The figures of an entity -/

/-- What an entity depends on is counted by the dependencies that start at it and end elsewhere. -/
lemma efferent_eq (g : Graph) (name : String) :
    g.efferent name = (g.crossDependencies.filter fun d => d.source = name).length := by
  rw [efferent, ((g.perm_dependenciesOf name).filter _).length_eq, List.filter_filter, crossDependencies,
    List.filter_filter]
  congr 1
  refine List.filter_congr fun d _ => ?_
  by_cases hsource : d.source = name
  · simp [Dependency.isSelf, hsource, bne, eq_comm]
  · simp [hsource]

/-- What depends on an entity is counted by the dependencies that end at it and start elsewhere. -/
lemma afferent_eq (g : Graph) (name : String) :
    g.afferent name = (g.crossDependencies.filter fun d => d.target = name).length := by
  rw [afferent, ((g.perm_dependantsOf name).filter _).length_eq, List.filter_filter, crossDependencies,
    List.filter_filter]
  congr 1
  refine List.filter_congr fun d _ => ?_
  by_cases htarget : d.target = name
  · simp [Dependency.isSelf, htarget, bne]
  · simp [htarget]

/-- Dependencies that differ in one of their ends are as many as these ends.

**Proof sketch.** The ends are listed without repetitions, since dependencies with the same end
would have the same link. So both lists have the same members. -/
lemma length_filter_crossDependencies (other : Dependency → String) {p : Dependency → Bool}
    {q : String → Bool}
    (hother : ∀ d e, p d = true → p e = true → other d = other e → d.source = e.source ∧ d.target = e.target)
    (hq : ∀ name, q name = true ↔ ∃ d ∈ g.crossDependencies, p d = true ∧ other d = name)
    (hnames : ∀ d ∈ g.dependencies, g.contains (other d) = true) :
    (g.crossDependencies.filter p).length = (g.names.filter q).length := by
  have hlisted : ∀ d ∈ g.crossDependencies.filter p, d ∈ g.dependencies := fun d hd =>
    (List.mem_filter.1 (List.mem_filter.1 hd).1).1
  have hnodup : ((g.crossDependencies.filter p).map other).Nodup := by
    refine List.Nodup.map_on (fun d hd e he heq => ?_) ((g.nodup_dependencies.filter _).filter _)
    obtain ⟨hsource, htarget⟩ := hother d e (List.mem_filter.1 hd).2 (List.mem_filter.1 he).2 heq
    exact List.inj_on_of_nodup_map g.nodup_links (hlisted d hd) (hlisted e he)
      (Prod.ext hsource htarget)
  rw [← List.length_map other]
  refine List.Perm.length_eq ?_
  refine (List.perm_ext_iff_of_nodup hnodup (g.nodup_names.filter _)).2 fun name => ?_
  rw [List.mem_filter, hq, List.mem_map, mem_names]
  constructor
  · rintro ⟨d, hd, rfl⟩
    obtain ⟨hcross, hp⟩ := List.mem_filter.1 hd
    exact ⟨hnames d (hlisted d hd), d, hcross, hp, rfl⟩
  · rintro ⟨-, d, hcross, hp, rfl⟩
    exact ⟨d, List.mem_filter.2 ⟨hcross, hp⟩, rfl⟩

/-- **The first figure counts the other entities that an entity depends on.** Each of them is the
target of one dependency, whatever its weight is. -/
lemma EndsDeclared.efferent_eq_length_names (hg : g.EndsDeclared) (name : String) :
    g.efferent name =
      (g.names.filter fun other => other != name && (g.weight? name other).isSome).length := by
  rw [efferent_eq]
  refine length_filter_crossDependencies Dependency.target (fun d e hd he heq => ?_) (fun b => ?_)
    fun d hd => (hg d hd).2
  · exact ⟨(of_decide_eq_true hd).trans (of_decide_eq_true he).symm, heq⟩
  · simp only [Bool.and_eq_true, bne_iff_ne, Option.isSome_iff_exists, mem_crossDependencies,
      decide_eq_true_iff]
    constructor
    · rintro ⟨hne, weight, hw⟩
      exact ⟨⟨name, b, weight⟩, ⟨hw, Ne.symm hne⟩, rfl, rfl⟩
    · rintro ⟨d, ⟨hw, hne⟩, rfl, rfl⟩
      exact ⟨Ne.symm hne, d.weight, hw⟩

/-- **The second figure counts the other entities that depend on an entity.** Each of them is the
source of one dependency on it. -/
lemma EndsDeclared.afferent_eq_length_names (hg : g.EndsDeclared) (name : String) :
    g.afferent name =
      (g.names.filter fun other => other != name && (g.weight? other name).isSome).length := by
  rw [afferent_eq]
  refine length_filter_crossDependencies Dependency.source (fun d e hd he heq => ?_) (fun a => ?_)
    fun d hd => (hg d hd).1
  · exact ⟨heq, (of_decide_eq_true hd).trans (of_decide_eq_true he).symm⟩
  · simp only [Bool.and_eq_true, bne_iff_ne, Option.isSome_iff_exists, mem_crossDependencies,
      decide_eq_true_iff]
    constructor
    · rintro ⟨hne, weight, hw⟩
      exact ⟨⟨a, name, weight⟩, ⟨hw, hne⟩, rfl, rfl⟩
    · rintro ⟨d, ⟨hw, hne⟩, rfl, rfl⟩
      exact ⟨hne, d.weight, hw⟩

end Graph

namespace Report

variable {g : Graph}

/-! ## Rows -/

/-- The owned entities have a row each, with their own figures. -/
lemma mem_rows {row : Row} : row ∈ (ofGraph g).rows ↔
    g.kind? row.name = some row.kind ∧ (row.kind ≠ .unknown ∨ ∃ target, g.DependsOn row.name target) ∧
      row.coupling = g.coupling row.name := by
  obtain ⟨name, kind, coupling⟩ := row
  simp only [ofGraph, List.mem_map, List.mem_filter, isOwned, Bool.or_eq_true, bne_iff_ne,
    Graph.hasDependencies_iff_dependsOn, Graph.mem_entities, Row.mk.injEq]
  constructor
  · rintro ⟨e, ⟨hkind, howned⟩, rfl, rfl, rfl⟩
    exact ⟨hkind, howned, rfl⟩
  · rintro ⟨hkind, howned, rfl⟩
    exact ⟨⟨name, kind⟩, ⟨hkind, howned⟩, rfl, rfl, rfl⟩

/-- Rows come in name order. -/
lemma pairwise_rows (g : Graph) : ((ofGraph g).rows.map Row.name).Pairwise (· < ·) := by
  have hnames : ((ofGraph g).rows.map Row.name).Sublist g.names := by
    rw [← g.map_name_entities, ofGraph, List.map_map]
    exact List.filter_sublist.map Entity.name
  exact g.pairwise_names.sublist hnames

/-- Each name has one row. -/
lemma nodup_rows (g : Graph) : ((ofGraph g).rows.map Row.name).Nodup :=
  (pairwise_rows g).imp ne_of_lt

/-- The source of a dependency is owned, so it has a row. -/
lemma source_mem_rows (hg : g.EndsDeclared) {d : Dependency} (hd : d ∈ g.dependencies) :
    d.source ∈ (ofGraph g).rows.map Row.name := by
  obtain ⟨kind, hkind⟩ := Option.ne_none_iff_exists'.1 (Graph.contains_iff.1 (hg d hd).1)
  have hdepends : g.DependsOn d.source d.target := Graph.dependsOn_iff.2 ⟨d, hd, rfl, rfl⟩
  exact List.mem_map.2 ⟨⟨d.source, kind, g.coupling d.source⟩,
    mem_rows.2 ⟨hkind, Or.inr ⟨d.target, hdepends⟩, rfl⟩, rfl⟩

/-! ## Sums -/

/-- Figures of the rows are figures of the graph. -/
lemma map_coupling_rows {α : Type} (figure : Coupling → α) :
    (ofGraph g).rows.map (fun row => figure row.coupling) =
      ((ofGraph g).rows.map Row.name).map fun name => figure (g.coupling name) := by
  rw [List.map_map]
  refine List.map_congr_left fun row hrow => ?_
  obtain ⟨-, -, hcoupling⟩ := mem_rows.1 hrow
  rw [hcoupling]
  rfl

/-- **The first figures add up to the dependencies between different entities.** -/
lemma sum_efferent (hg : g.EndsDeclared) :
    ((ofGraph g).rows.map fun row => row.coupling.efferent).sum = g.crossDependencies.length := by
  have hall : g.crossDependencies.filter (fun d => d.source ∈ (ofGraph g).rows.map Row.name) =
      g.crossDependencies := by
    refine List.filter_eq_self.2 fun d hd => decide_eq_true ?_
    exact source_mem_rows hg (List.mem_filter.1 hd).1
  rw [map_coupling_rows Coupling.efferent]
  show (List.map g.efferent _).sum = _
  rw [funext g.efferent_eq, sum_length_parts Dependency.source (nodup_rows g), hall]

/-- **The second figures add up to the dependencies between different entities whose target has a row.** -/
lemma sum_afferent (g : Graph) :
    ((ofGraph g).rows.map fun row => row.coupling.afferent).sum =
      (g.crossDependencies.filter fun d => d.target ∈ (ofGraph g).rows.map Row.name).length := by
  rw [map_coupling_rows Coupling.afferent]
  show (List.map g.afferent _).sum = _
  rw [funext g.afferent_eq, sum_length_parts Dependency.target (nodup_rows g)]

/-- **Every entity has one kind.** -/
lemma sum_countOf (g : Graph) : (Kind.all.map (countOf g)).sum = g.entityCount := by
  have hkinds : Kind.all.Nodup := by decide
  have hall : ∀ kind : Kind, kind ∈ Kind.all := by
    intro kind
    cases kind <;> decide
  have hcount : countOf g = fun kind => (g.entities.filter fun e => e.kind = kind).length := rfl
  rw [hcount, sum_length_parts Entity.kind hkinds]
  simp only [hall, decide_true, List.filter_true]
  rw [Graph.entities, List.length_map, Std.ExtTreeMap.length_toList, Graph.entityCount]

/-! ## The whole report -/

/-- **Coupling figures balance.** The rows of a report are the entities of a known kind and those with a
dependency, in name order and each once. The figures of a row count the other entities that it depends on and
the other entities that depend on it. All first figures together are the links without those from an entity
to itself, and all second figures together are those of these links whose target has a row. The entities of
all kinds together are all entities. -/
theorem coupling_figures_balance (hg : g.EndsDeclared) :
    let report := ofGraph g
    (report.rows.map (·.name)).Pairwise (· < ·) ∧
    (∀ name kind, (∃ row ∈ report.rows, row.name = name ∧ row.kind = kind) ↔
      g.kind? name = some kind ∧ (kind ≠ .unknown ∨ ∃ target, g.DependsOn name target)) ∧
    (∀ row ∈ report.rows,
      row.coupling.efferent =
        (g.names.filter fun other => other != row.name && (g.weight? row.name other).isSome).length ∧
      row.coupling.afferent =
        (g.names.filter fun other => other != row.name && (g.weight? other row.name).isSome).length) ∧
    (report.rows.map (·.coupling.efferent)).sum + (g.dependencies.filter (·.isSelf)).length =
      report.linkCount ∧
    (report.rows.map (·.coupling.afferent)).sum =
      (g.dependencies.filter fun d => !d.isSelf && (report.rows.map (·.name)).contains d.target).length ∧
    report.modules + report.classes + report.interfaces + report.functions + countOf g .unknown =
      report.entityCount := by
  intro report
  refine ⟨pairwise_rows g, fun name kind => ?rows, fun row hrow => ?figures, ?efferent, ?afferent, ?kinds⟩
  case rows =>
    constructor
    · rintro ⟨row, hrow, rfl, rfl⟩
      obtain ⟨hkind, howned, -⟩ := mem_rows.1 hrow
      exact ⟨hkind, howned⟩
    · rintro ⟨hkind, howned⟩
      exact ⟨⟨name, kind, g.coupling name⟩, mem_rows.2 ⟨hkind, howned, rfl⟩, rfl, rfl⟩
  case figures =>
    obtain ⟨-, -, hcoupling⟩ := mem_rows.1 hrow
    rw [hcoupling]
    exact ⟨hg.efferent_eq_length_names row.name, hg.afferent_eq_length_names row.name⟩
  case efferent =>
    have hlinks : g.dependencies.length =
        (g.dependencies.filter (·.isSelf)).length + g.crossDependencies.length :=
      List.length_eq_length_filter_add _
    have hcount : report.linkCount = g.dependencies.length := g.length_dependencies.symm
    rw [sum_efferent hg]
    omega
  case afferent =>
    rw [sum_afferent, Graph.crossDependencies, List.filter_filter]
    congr 1
    refine List.filter_congr fun d _ => ?_
    rw [Bool.and_comm, List.contains_eq_mem]
  case kinds =>
    have hsum : countOf g .unknown + (countOf g .module + (countOf g .function + (countOf g .class +
        countOf g .interface))) = report.entityCount := sum_countOf g
    show countOf g .module + countOf g .class + countOf g .interface + countOf g .function + _ = _
    omega

/-- Two files of one crate that depend on each other, one of them on itself too, and a foreign crate without
a row of its own: three of four links are counted where they start, and two of them where they end. -/
theorem balance_with_foreign_target :
    let view : Entity := ⟨"app::show", .module⟩
    let table : Entity := ⟨"app::table", .class⟩
    let g := Graph.ofFacts [⟨view, table⟩, ⟨view, ⟨"serde", .unknown⟩⟩, ⟨table, table⟩, ⟨table, view⟩]
    let report := ofGraph g
    g.EndsDeclared ∧ report.rows.map (·.name) = ["app::show", "app::table"] ∧
      (report.rows.map (·.coupling.efferent)).sum + 1 = report.linkCount ∧
      (report.rows.map (·.coupling.afferent)).sum = 2 ∧
      report.modules + report.classes + report.interfaces + report.functions + 1 = report.entityCount := by
  intro view table g report
  have hg : g.EndsDeclared := (Graph.Reachable.ofFacts _).wellFormed.endsDeclared
  obtain ⟨-, -, -, hefferent, hafferent, hkinds⟩ := coupling_figures_balance hg
  have hself : (g.dependencies.filter (·.isSelf)).length = 1 := by decide +kernel
  have hforeign : (g.dependencies.filter fun d =>
      !d.isSelf && (report.rows.map (·.name)).contains d.target).length = 2 := by decide +kernel
  have hunknown : countOf g .unknown = 1 := by decide +kernel
  rw [hself] at hefferent
  rw [hunknown] at hkinds
  exact ⟨hg, by decide +kernel, hefferent, hafferent.trans hforeign, hkinds⟩

end Report

end DepAtlas
