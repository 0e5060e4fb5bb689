import Mathlib.Data.List.Induction
import Mathlib.Data.String.Basic
import DepAtlas.Proofs.Graph.Combine

set_option relaxedAutoImplicit false
set_option autoImplicit false

/-!
# Looking things up in a graph

A graph is known by two views: the kind of a name and the weight of a link. This file says what
the elementary operations do to the views, and what the listings of a graph have to do with them.

## Main definitions

* `DepAtlas.Dependency.Before` — the order in which dependencies are listed.
* `DepAtlas.Rows.NoEmpty` — every row has an entry.

## Main results

* `DepAtlas.Rows.weight?_add` — what one more entry does to the weights.
* `DepAtlas.Rows.weight?_ofDependencies` — rows made from a part of the entries of other rows.
* `DepAtlas.Graph.ext_of_views` — without empty rows, graphs with equal views are equal.
-/

namespace DepAtlas

/-- The order of names is the one in which tables list them. -/
lemma compare_name_eq_lt {a b : String} : compare a b = .lt ↔ a < b :=
  compareOfLessAndEq_eq_lt

/-- The order in which dependencies are listed: by source, and by target for one source. Two
dependencies of one graph are never level in it, as there is one for each link. -/
def Dependency.Before (d e : Dependency) : Prop :=
  d.source < e.source ∨ d.source = e.source ∧ d.target < e.target

/-- A dependency that is listed before another has another link. -/
lemma Dependency.Before.link_ne {d e : Dependency} (h : d.Before e) :
    (d.source, d.target) ≠ (e.source, e.target) := by
  intro heq
  obtain ⟨hs, ht⟩ := Prod.mk.inj heq
  rcases h with h | ⟨-, h⟩
  · exact absurd (hs ▸ h) (lt_irrefl _)
  · exact absurd (ht ▸ h) (lt_irrefl _)

/-- Two dependencies are not listed before each other. -/
lemma Dependency.Before.asymm {d e : Dependency} (h : d.Before e) : ¬ e.Before d := by
  rintro (h' | ⟨heq', h'⟩)
  · rcases h with h | ⟨heq, -⟩
    · exact lt_asymm h h'
    · exact absurd (heq ▸ h') (lt_irrefl _)
  · rcases h with h | ⟨-, h⟩
    · exact absurd (heq' ▸ h) (lt_irrefl _)
    · exact lt_asymm h h'

/-! ## Rows -/

namespace Rows

/-- No rows have no weights. -/
@[simp] lemma weight?_empty (source target : String) :
    (∅ : Rows).weight? source target = none := by
  simp [weight?]

/-- One more entry changes the weight of its own link only.

**Proof sketch.** It is in the row of its source. Other rows are as they were, and in this row the
other targets are. -/
lemma weight?_add (rows : Rows) (a b : String) (f : Option ℕ → ℕ) (source target : String) :
    (rows.add a b f).weight? source target =
      if a = source ∧ b = target then some (f (rows.weight? source target))
      else rows.weight? source target := by
  unfold weight? add
  rw [Std.ExtTreeMap.getElem?_alter]
  by_cases ha : a = source
  · subst ha
    rw [if_pos Std.ReflCmp.compare_self, Option.bind_some, Std.ExtTreeMap.getElem?_alter]
    by_cases hb : b = target
    · subst hb
      cases h : rows[a]? <;> simp
    · cases h : rows[a]? <;> simp [hb]
  · simp [ha]

/-- The entries of rows are listed with their weights. -/
lemma mem_toDependencies {rows : Rows} {d : Dependency} :
    d ∈ rows.toDependencies ↔ rows.weight? d.source d.target = some d.weight := by
  obtain ⟨source, target, weight⟩ := d
  simp only [toDependencies, weight?, List.mem_flatMap, List.mem_map, Prod.exists,
    Dependency.mk.injEq, Std.ExtTreeMap.mem_toList_iff_getElem?_eq_some, Option.bind_eq_some_iff]
  constructor
  · rintro ⟨_, row, hrow, _, _, hw, rfl, rfl, rfl⟩
    exact ⟨row, hrow, hw⟩
  · rintro ⟨row, hrow, hw⟩
    exact ⟨source, row, hrow, target, weight, hw, rfl, rfl, rfl⟩

/-- Entries are listed in order: the rows by their sources, and the entries of a row by their
targets. -/
lemma pairwise_toDependencies (rows : Rows) :
    rows.toDependencies.Pairwise Dependency.Before := by
  unfold toDependencies
  rw [List.pairwise_flatMap]
  constructor
  · rintro ⟨source, row⟩ -
    refine List.pairwise_map.2 (row.ordered_keys_toList.imp fun h => ?_)
    exact Or.inr ⟨rfl, compare_name_eq_lt.1 h⟩
  · refine rows.ordered_keys_toList.imp fun {p q} h d hd e he => ?_
    obtain ⟨_, -, rfl⟩ := List.mem_map.1 hd
    obtain ⟨_, -, rfl⟩ := List.mem_map.1 he
    exact Or.inl (compare_name_eq_lt.1 h)

/-! ### Rows without entries -/

/-- Every row has an entry. An empty row would be a difference between graphs that no view shows. -/
def NoEmpty (rows : Rows) : Prop :=
  ∀ (source : String) (row : Row), rows[source]? = some row → row ≠ ∅

/-- No rows have no empty one. -/
lemma noEmpty_empty : NoEmpty ∅ := by
  intro source row h
  simp at h

/-- One more entry leaves no row empty. -/
lemma NoEmpty.add {rows : Rows} (h : rows.NoEmpty) (a b : String) (f : Option ℕ → ℕ) :
    (rows.add a b f).NoEmpty := by
  intro source row hrow
  unfold Rows.add at hrow
  rw [Std.ExtTreeMap.getElem?_alter] at hrow
  split at hrow
  · rw [Option.some.injEq] at hrow
    rintro rfl
    have hb := congrArg (fun r : Row => r[b]?) hrow
    simp at hb
  · exact h source row hrow

/-- **Rows are known by their weights** if none is empty.

**Proof sketch.** A row is present exactly if some entry of it is, since it is not empty; and two
rows with equal entries are equal. -/
theorem ext_of_weight? {r s : Rows} (hr : r.NoEmpty) (hs : s.NoEmpty)
    (h : ∀ source target, r.weight? source target = s.weight? source target) : r = s := by
  have hpresent : ∀ {r s : Rows}, r.NoEmpty →
      (∀ source target, r.weight? source target = s.weight? source target) →
      ∀ (source : String) (row : Row), r[source]? = some row → s[source]? = some row := by
    intro r s hr h source row hrow
    have hentry : ∀ target, row[target]? = s.weight? source target := fun target => by
      rw [← h, weight?, hrow, Option.bind_some]
    cases hsrow : s[source]? with
    | none =>
      refine absurd (Std.ExtTreeMap.ext_getElem? fun target => ?_) (hr source row hrow)
      rw [hentry, weight?, hsrow]
      simp
    | some row' =>
      rw [Option.some.injEq]
      refine Std.ExtTreeMap.ext_getElem? fun target => ?_
      rw [hentry, weight?, hsrow, Option.bind_some]
  refine Std.ExtTreeMap.ext_getElem? fun source => Option.ext fun row => ?_
  exact ⟨hpresent hr h source row, hpresent hs (fun a b => (h a b).symm) source row⟩

/-! ### Rows made from a list -/

/-- Rows that are made from a list have its last dependency added last. -/
lemma ofDependencies_concat (ds : List Dependency) (d : Dependency) :
    ofDependencies (ds ++ [d]) = (ofDependencies ds).add d.source d.target fun _ => d.weight := by
  simp [ofDependencies]

/-- Rows made from a list have no empty one. -/
lemma noEmpty_ofDependencies (ds : List Dependency) : (ofDependencies ds).NoEmpty := by
  induction ds using List.reverseRecOn with
  | nil => exact noEmpty_empty
  | append_singleton ds d ih =>
    rw [ofDependencies_concat]
    exact ih.add _ _ _

/-- Rows made from a list without two entries for one link hold exactly the list.

**Proof sketch.** Induction on the list from its end. The last entry has a link of its own, so it
overwrites no earlier one. -/
lemma weight?_ofDependencies_eq_some {ds : List Dependency}
    (hn : ds.Pairwise fun d e => (d.source, d.target) ≠ (e.source, e.target))
    {source target : String} {weight : ℕ} :
    (ofDependencies ds).weight? source target = some weight ↔ ⟨source, target, weight⟩ ∈ ds := by
  induction ds using List.reverseRecOn with
  | nil => simp [ofDependencies]
  | append_singleton ds d ih =>
    obtain ⟨hds, -, hd⟩ := List.pairwise_append.1 hn
    rw [ofDependencies_concat, weight?_add, List.mem_append, List.mem_singleton]
    split
    · next hlink =>
      obtain ⟨rfl, rfl⟩ := hlink
      have hold : ⟨d.source, d.target, weight⟩ ∉ ds := fun hmem =>
        hd _ hmem d (List.mem_singleton_self d) rfl
      obtain ⟨a, b, w⟩ := d
      simp [hold, eq_comm]
    · next hlink =>
      rw [ih hds]
      refine ⟨Or.inl, fun h => h.resolve_right ?_⟩
      rintro rfl
      exact hlink ⟨rfl, rfl⟩

/-- Rows made from some of the entries of other rows have their weights. -/
lemma weight?_ofDependencies (rows : Rows) (keep : Dependency → Bool) (source target : String) :
    (ofDependencies (rows.toDependencies.filter keep)).weight? source target =
      (rows.weight? source target).filter fun weight => keep ⟨source, target, weight⟩ := by
  have hn : (rows.toDependencies.filter keep).Pairwise
      fun d e => (d.source, d.target) ≠ (e.source, e.target) :=
    (rows.pairwise_toDependencies.filter keep).imp Dependency.Before.link_ne
  ext weight
  rw [weight?_ofDependencies_eq_some hn, List.mem_filter, mem_toDependencies,
    Option.filter_eq_some_iff]

end Rows

/-! ## Graphs -/

namespace Graph

/-! ### Listings -/

/-- A graph contains a name exactly if it has a kind for it. -/
lemma contains_iff {g : Graph} {name : String} : g.contains name = true ↔ g.kind? name ≠ none := by
  rw [contains, kind?, Std.ExtTreeMap.contains_eq_isSome_getElem?, Option.isSome_iff_ne_none]

/-- The entities of a graph are listed with their kinds. -/
lemma mem_entities {g : Graph} {e : Entity} : e ∈ g.entities ↔ g.kind? e.name = some e.kind := by
  obtain ⟨name, kind⟩ := e
  simp only [entities, kind?, List.mem_map, Prod.exists, Entity.mk.injEq,
    Std.ExtTreeMap.mem_toList_iff_getElem?_eq_some]
  constructor
  · rintro ⟨_, _, h, rfl, rfl⟩
    exact h
  · exact fun h => ⟨name, kind, h, rfl, rfl⟩

/-- The names of a graph are those that it contains. -/
lemma mem_names {g : Graph} {name : String} : name ∈ g.names ↔ g.contains name = true :=
  Std.ExtTreeMap.mem_keys.trans Std.ExtTreeMap.contains_iff_mem.symm

/-- The names of a graph are those of its entities. -/
lemma mem_names_iff {g : Graph} {name : String} : name ∈ g.names ↔ g.kind? name ≠ none :=
  mem_names.trans contains_iff

/-- The names are listed in the order of the entities. -/
lemma map_name_entities (g : Graph) : g.entities.map Entity.name = g.names := by
  simp [entities, names, ← Std.ExtTreeMap.map_fst_toList_eq_keys]

/-- Names are listed in strictly increasing order. -/
lemma pairwise_names (g : Graph) : g.names.Pairwise (· < ·) :=
  g.kinds.ordered_keys.imp compare_name_eq_lt.1

/-- Each name is listed once. -/
lemma nodup_names (g : Graph) : g.names.Nodup :=
  g.pairwise_names.imp ne_of_lt

/-- The dependencies of a graph are listed with their weights. -/
lemma mem_dependencies {g : Graph} {d : Dependency} :
    d ∈ g.dependencies ↔ g.weight? d.source d.target = some d.weight :=
  Rows.mem_toDependencies

/-- Each link is listed once. -/
lemma nodup_links (g : Graph) :
    (g.dependencies.map fun d => (d.source, d.target)).Nodup :=
  List.pairwise_map.2 (g.rows.pairwise_toDependencies.imp Dependency.Before.link_ne)

/-- The links of a graph are listed with their sources and targets. -/
lemma mem_links {g : Graph} {source target : String} :
    (source, target) ∈ g.dependencies.map (fun d => (d.source, d.target)) ↔
      g.weight? source target ≠ none := by
  rw [List.mem_map, Option.ne_none_iff_exists']
  constructor
  · rintro ⟨d, hd, hlink⟩
    obtain ⟨rfl, rfl⟩ := Prod.mk.inj hlink
    exact ⟨d.weight, mem_dependencies.1 hd⟩
  · rintro ⟨weight, hweight⟩
    exact ⟨⟨source, target, weight⟩, mem_dependencies.2 hweight, rfl⟩

/-- An entity has dependencies exactly if one starts at it.

**Proof sketch.** A graph has dependencies for a name if it has a row for it that is not empty, and
the dependencies that start there are the entries of this row. -/
lemma hasDependencies_iff {g : Graph} {name : String} :
    g.hasDependencies name = true ↔ ∃ d ∈ g.dependencies, d.source = name := by
  have hrow : g.hasDependencies name = true ↔ ∃ row, g.rows[name]? = some row ∧ row ≠ ∅ := by
    unfold hasDependencies
    cases g.rows[name]? with
    | none => simp
    | some row => simp
  rw [hrow]
  constructor
  · rintro ⟨row, hrow, hne⟩
    obtain ⟨⟨target, weight⟩, hmem⟩ :=
      List.exists_mem_of_ne_nil row.toList (mt Std.ExtTreeMap.toList_eq_nil_iff.1 hne)
    rw [Std.ExtTreeMap.mem_toList_iff_getElem?_eq_some] at hmem
    refine ⟨⟨name, target, weight⟩, mem_dependencies.2 ?_, rfl⟩
    rw [weight?, Rows.weight?, hrow, Option.bind_some, hmem]
  · rintro ⟨d, hd, rfl⟩
    obtain ⟨row, hrow, hw⟩ := Option.bind_eq_some_iff.1 (mem_dependencies.1 hd)
    refine ⟨row, hrow, ?_⟩
    rintro rfl
    simp at hw

/-- **Without empty rows, graphs with equal views are equal.** Most equations between graphs are
proved in this way, with one equation for kinds and one for weights. -/
theorem ext_of_views {g h : Graph} (hg : g.rows.NoEmpty) (hh : h.rows.NoEmpty)
    (hk : ∀ name, g.kind? name = h.kind? name)
    (hw : ∀ source target, g.weight? source target = h.weight? source target) : g = h := by
  obtain ⟨kinds, rows⟩ := g
  obtain ⟨kinds', rows'⟩ := h
  have hkinds : kinds = kinds' := Std.ExtTreeMap.ext_getElem? fun name => hk name
  have hrows : rows = rows' := Rows.ext_of_weight? hg hh hw
  rw [hkinds, hrows]

/-! ### Operations -/

/-- The empty graph has no kinds. -/
@[simp] lemma kind?_empty (name : String) : empty.kind? name = none := by
  simp [kind?, empty]

/-- The empty graph has no weights. -/
@[simp] lemma weight?_empty (source target : String) : empty.weight? source target = none :=
  Rows.weight?_empty source target

/-- One more entity changes the kind of its own name only, which becomes the join of both kinds. -/
lemma kind?_upsert (g : Graph) (e : Entity) (name : String) :
    (g.upsert e).kind? name =
      (g.kind? name).merge Kind.join (if e.name = name then some e.kind else none) := by
  unfold kind? upsert
  rw [Std.ExtTreeMap.getElem?_alter]
  split
  · next h =>
    obtain rfl := Std.LawfulEqOrd.eq_of_compare h
    rw [if_pos rfl, Kind.some_added]
  · next h =>
    have hne : e.name ≠ name := fun heq => h (heq ▸ Std.ReflCmp.compare_self)
    rw [if_neg hne, Option.merge_none_right]

/-- An entity adds no row. -/
@[simp] lemma rows_upsert (g : Graph) (e : Entity) : (g.upsert e).rows = g.rows := rfl

/-- An entity adds no weight. -/
@[simp] lemma weight?_upsert (g : Graph) (e : Entity) (source target : String) :
    (g.upsert e).weight? source target = g.weight? source target := rfl

/-- Declaring an entity adds no row, whether its name is blank or not. -/
@[simp] lemma rows_declare (g : Graph) (e : Entity) : (g.declare e).rows = g.rows := by
  unfold declare
  split <;> rfl

/-- One more dependency adds its ends. -/
lemma kind?_insert (g : Graph) (source target : Entity) (weight : ℕ) (policy : Policy)
    (name : String) :
    (g.insert source target weight policy).kind? name =
      ((g.upsert source).upsert target).kind? name := rfl

/-- An entity whose kind is not more specific than the known one changes no kind. -/
lemma kind?_upsert_of_absorbed {g : Graph} {e : Entity}
    (he : (g.kind? e.name).merge Kind.join (some e.kind) = g.kind? e.name) :
    (g.upsert e).kind? = g.kind? := by
  funext name
  rw [kind?_upsert]
  split
  · next heq => rw [← heq, he]
  · exact Option.merge_none_right

/-- A dependency between entities whose kinds are not more specific than the known ones changes no
kind. -/
lemma kind?_insert_of_absorbed {g : Graph} {s t : Entity} {weight : ℕ} {policy : Policy}
    (hs : (g.kind? s.name).merge Kind.join (some s.kind) = g.kind? s.name)
    (ht : (g.kind? t.name).merge Kind.join (some t.kind) = g.kind? t.name) :
    (g.insert s t weight policy).kind? = g.kind? := by
  have hsource : (g.upsert s).kind? = g.kind? := kind?_upsert_of_absorbed hs
  have htarget : ((g.upsert s).upsert t).kind? = (g.upsert s).kind? :=
    kind?_upsert_of_absorbed (by rw [hsource]; exact ht)
  exact htarget.trans hsource

/-- One more dependency combines its weight with that of its own link only. -/
lemma weight?_insert (g : Graph) (s t : Entity) (weight : ℕ) (policy : Policy)
    (source target : String) :
    (g.insert s t weight policy).weight? source target =
      (g.weight? source target).merge policy.combine
        (if s.name = source ∧ t.name = target then some weight else none) := by
  change (Rows.add _ _ _ _).weight? source target = _
  rw [Rows.weight?_add]
  split
  · exact policy.some_added _ _
  · exact Option.merge_none_right.symm

end Graph

end DepAtlas
