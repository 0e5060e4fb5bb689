import DepAtlas.Proofs.Graph.Rename
import DepAtlas.Proofs.Graph.Retain
import DepAtlas.Proofs.Metrics.Reach

set_option relaxedAutoImplicit false
set_option autoImplicit false

/-!
# Parts of a graph

A graph from which only entities and links were dropped is described by two conditions on the
graph it came from: which entities are left and which links are. This file follows the conditions
through the operations, and says what a total renaming makes of such a graph.

## Main definitions

* `DepAtlas.Graph.Restricts` — one graph is the part of another one given by two conditions.
* `DepAtlas.Graph.RenamesBy` — a renaming gives every entity a new name.

## Main results

* `DepAtlas.Graph.Restricts.retainEntities`, `DepAtlas.Graph.Restricts.retainLinks` — how dropping
  more narrows the conditions.
* `DepAtlas.Graph.Restricts.dependencies_eq` — the dependencies of a part, as a sublist.
* `DepAtlas.Graph.Restricts.eq_of_forall` — a part without any restriction is the whole.
* `DepAtlas.Graph.weight?_rename_total`, `DepAtlas.Graph.kind?_rename_total` — the views of a graph
  in which every entity gets a new name.
-/

namespace DepAtlas.Graph

/-- `h` is the part of `g` with the entities that satisfy `keep` and the links that satisfy `allow`.
Kinds and weights are those of `g`. Every rule that drops something is followed by such a pair of
conditions, so that the rules need not be looked at again once the conditions are known. -/
structure Restricts (g h : Graph) (keep : String → Prop) (allow : String → String → Prop) :
    Prop where
  kind?_iff : ∀ name kind, h.kind? name = some kind ↔ g.kind? name = some kind ∧ keep name
  weight?_iff : ∀ source target weight, h.weight? source target = some weight ↔
    g.weight? source target = some weight ∧ allow source target

variable {least : ℕ} {g h : Graph} {keep : String → Prop} {allow : String → String → Prop}

namespace Restricts

/-- A graph is the part of itself without any condition. -/
lemma refl (g : Graph) : g.Restricts g (fun _ => True) fun _ _ => True :=
  ⟨fun _ _ => (and_iff_left trivial).symm, fun _ _ _ => (and_iff_left trivial).symm⟩

/-- Conditions count only for the entities and the links of the graph. -/
lemma congr {keep' : String → Prop} {allow' : String → String → Prop}
    (hr : g.Restricts h keep allow) (hkeep : ∀ name, keep name ↔ keep' name)
    (hallow : ∀ source target, g.DependsOn source target →
      (allow source target ↔ allow' source target)) : g.Restricts h keep' allow' := by
  refine ⟨fun name kind => ?_, fun source target weight => ?_⟩
  · rw [hr.kind?_iff, hkeep]
  · rw [hr.weight?_iff]
    refine and_congr_right fun hw => hallow source target ?_
    rw [DependsOn, hw]
    exact Option.some_ne_none weight

/-- The entities of a part are those of the graph that satisfy the condition. -/
lemma kind?_ne_none_iff (hr : g.Restricts h keep allow) {name : String} :
    h.kind? name ≠ none ↔ g.kind? name ≠ none ∧ keep name := by
  simp only [Option.ne_none_iff_exists', hr.kind?_iff, exists_and_right]

/-- The links of a part are those of the graph that satisfy the condition. -/
lemma dependsOn_iff (hr : g.Restricts h keep allow) {source target : String} :
    h.DependsOn source target ↔ g.DependsOn source target ∧ allow source target := by
  simp only [DependsOn, Option.ne_none_iff_exists', hr.weight?_iff, exists_and_right]

/-- The dependencies of a part are those of the graph whose ends satisfy the condition. -/
lemma mem_dependencies_iff (hr : g.Restricts h keep allow) {d : Dependency} :
    d ∈ h.dependencies ↔ d ∈ g.dependencies ∧ allow d.source d.target := by
  rw [mem_dependencies, mem_dependencies, hr.weight?_iff]

/-- The dependencies of a part are those of the graph that satisfy the condition.

**Proof sketch.** Both lists have the same members, and both are in order. -/
lemma dependencies_eq (hr : g.Restricts h keep allow) {p : Dependency → Bool}
    (hp : ∀ d ∈ g.dependencies, allow d.source d.target ↔ p d = true) :
    h.dependencies = g.dependencies.filter p := by
  have hperm : h.dependencies.Perm (g.dependencies.filter p) := by
    refine (List.perm_ext_iff_of_nodup h.nodup_dependencies (g.nodup_dependencies.filter p)).2
      fun d => ?_
    rw [hr.mem_dependencies_iff, List.mem_filter]
    exact and_congr_right (hp d)
  refine hperm.eq_of_pairwise (fun d e _ _ hde hed => ?_) h.rows.pairwise_toDependencies
    (g.rows.pairwise_toDependencies.filter p)
  exact absurd hed (Dependency.Before.asymm hde)

/-- Dropping entities drops the links with an end among them, and no others.

**Proof sketch.** The ends of a link of the part are entities of it, and the conditions on entities
say which of these are still there. -/
lemma retainEntities (hr : g.Restricts h keep allow) (hh : h.EndsDeclared)
    {accept : Entity → Bool} {keep' : String → Prop}
    (haccept : ∀ name kind, h.kind? name = some kind → (accept ⟨name, kind⟩ = true ↔ keep' name)) :
    g.Restricts (h.retainEntities accept) (fun name => keep name ∧ keep' name)
      fun source target => allow source target ∧ keep' source ∧ keep' target := by
  have hkind : ∀ name kind, (h.retainEntities accept).kind? name = some kind ↔
      h.kind? name = some kind ∧ keep' name := by
    intro name kind
    rw [kind?_retainEntities, Option.filter_eq_some_iff]
    exact and_congr_right (haccept name kind)
  refine ⟨fun name kind => ?_, fun source target weight => ?_⟩
  · rw [hkind, hr.kind?_iff, and_assoc]
  · have hleft : ∀ name, h.kind? name ≠ none →
        ((h.retainEntities accept).kind? name ≠ none ↔ keep' name) := by
      intro name hname
      simp only [Option.ne_none_iff_exists', hkind, exists_and_right]
      exact and_iff_right (Option.ne_none_iff_exists'.1 hname)
    rw [weight?_retainEntities_eq_some, hr.weight?_iff, and_assoc]
    refine and_congr_right fun hw => and_congr_right fun hallow => ?_
    obtain ⟨hs, ht⟩ :=
      endsDeclared_iff.1 hh source target weight ((hr.weight?_iff _ _ _).2 ⟨hw, hallow⟩)
    rw [hleft source hs, hleft target ht]

/-- A graph is the part of itself given by a condition that every name satisfies. -/
lemma refl_of_forall (g : Graph) (hkeep : ∀ name, keep name) :
    g.Restricts g keep fun source target => keep source ∧ keep target :=
  (Restricts.refl g).congr (fun name => iff_of_true trivial (hkeep name)) fun source target _ =>
    iff_of_true trivial ⟨hkeep source, hkeep target⟩

/-- Dropping entities of a graph leaves a part of it. -/
lemma refl_retainEntities (hg : g.EndsDeclared) {accept : Entity → Bool}
    (haccept : ∀ name kind, g.kind? name = some kind → (accept ⟨name, kind⟩ = true ↔ keep name)) :
    g.Restricts (g.retainEntities accept) keep fun source target => keep source ∧ keep target :=
  ((Restricts.refl g).retainEntities hg haccept).congr (fun _ => and_iff_right trivial)
    fun _ _ _ => and_iff_right trivial

/-- Dropping links drops the entities that are left without one. -/
lemma retainLinks (hr : g.Restricts h keep allow) (accept : String → String → Bool) :
    g.Restricts (h.retainLinks accept)
      (fun name => keep name ∧
        ((∃ d ∈ h.dependencies, accept d.source d.target = true ∧
            (d.source = name ∨ d.target = name)) ∨
          ∀ d ∈ h.dependencies, d.source ≠ name ∧ d.target ≠ name))
      fun source target => allow source target ∧ accept source target = true := by
  refine ⟨fun name kind => ?_, fun source target weight => ?_⟩
  · rw [kind?_retainLinks_eq_some, hr.kind?_iff, and_assoc]
  · rw [weight?_retainLinks_eq_some, hr.weight?_iff, and_assoc]

/-- A part that restricts neither entities nor links is the whole graph. -/
lemma eq_of_forall (hr : g.Restricts h keep allow) (hg : g.Invariant least) (hh : h.Invariant least)
    (hkeep : ∀ name, g.kind? name ≠ none → keep name)
    (hallow : ∀ source target, g.DependsOn source target → allow source target) : h = g := by
  refine ext_of_views hh.noEmptyRow hg.noEmptyRow (fun name => ?_) fun source target => ?_
  · refine Option.ext fun kind => (hr.kind?_iff name kind).trans (and_iff_left_of_imp fun hkind => ?_)
    exact hkeep name (hkind ▸ Option.some_ne_none kind)
  · refine Option.ext fun weight =>
      (hr.weight?_iff source target weight).trans (and_iff_left_of_imp fun hweight => ?_)
    exact hallow source target fun hnone => nomatch hweight.symm.trans hnone

end Restricts

/-! ## New names for all entities -/

/-- `f` drops no entity, and gives each the name that `rename` makes of its own. -/
def RenamesBy (f : Entity → Option Entity) (rename : String → String) : Prop :=
  ∀ name kind, (f ⟨name, kind⟩).map Entity.name = some (rename name)

variable {f : Entity → Option Entity} {rename : String → String}

/-- An entity has an image with its new name, unless that is blank. No other name is that of its
image. -/
lemma any_image?_iff (hf : RenamesBy f rename) {old name : String} (hold : h.kind? old ≠ none) :
    (h.image? f old).any (·.name == name) = true ↔
      rename old = name ∧ isBlankName name = false := by
  obtain ⟨kind, hkind⟩ := Option.ne_none_iff_exists'.1 hold
  obtain ⟨e, he, hname⟩ := Option.map_eq_some_iff.1 (hf old kind)
  simp only [Option.any_eq_true, beq_iff_eq, image?_eq_some]
  constructor
  · rintro ⟨e', ⟨kind', hkind', he', hblank⟩, rfl⟩
    obtain rfl : kind = kind' := Option.some.inj (hkind.symm.trans hkind')
    obtain rfl : e = e' := Option.some.inj (he.symm.trans he')
    exact ⟨hname.symm, hblank⟩
  · rintro ⟨rfl, hblank⟩
    refine ⟨e, ⟨kind, hkind, he, ?_⟩, hname⟩
    rw [Entity.isBlank, hname]
    exact hblank

/-- **If every entity gets a new name**, the weight of a link is the saturated sum of the weights of
all dependencies whose ends get its names.

**Proof sketch.** The weight of a renamed link is gathered from the links that it is the image of,
and being an image only means here that the new names are right and not blank. -/
theorem weight?_rename_total (hf : RenamesBy f rename) (hh : h.Invariant least)
    (source target : String) :
    (h.rename f).weight? source target =
      if isBlankName source = false ∧ isBlankName target = false then
        saturated ((h.dependencies.filter fun d =>
          rename d.source == source && rename d.target == target).map Dependency.weight)
      else none := by
  have hpreimage : ∀ d ∈ h.dependencies,
      ((h.image? f d.source).any (·.name == source) &&
        (h.image? f d.target).any (·.name == target)) = true ↔
      (rename d.source = source ∧ rename d.target = target) ∧
        isBlankName source = false ∧ isBlankName target = false := by
    intro d hd
    obtain ⟨hs, ht⟩ := h.endsDeclared_iff.1 hh.endsDeclared _ _ _ (mem_dependencies.1 hd)
    rw [Bool.and_eq_true, any_image?_iff hf hs, any_image?_iff hf ht, and_and_and_comm]
  rw [weight?_rename f (fun d hd => (hh.weight_mem d hd).2), preimages]
  split
  · next hnamed =>
    congr 2
    refine List.filter_congr fun d hd => ?_
    rw [Bool.eq_iff_iff, hpreimage d hd, and_iff_left hnamed, Bool.and_eq_true, beq_iff_eq,
      beq_iff_eq]
  · next hblank =>
    have hnil : (h.dependencies.filter fun d =>
        (h.image? f d.source).any (·.name == source) &&
          (h.image? f d.target).any (·.name == target)) = [] := by
      refine List.filter_eq_nil_iff.2 fun d hd hboth => hblank ((hpreimage d hd).1 hboth).2
    rw [hnil]
    rfl

/-- If every entity gets a new name, the entities are the new names that are not blank. Entities
that get one name become one. -/
theorem kind?_rename_total (hf : RenamesBy f rename) {name : String} :
    (h.rename f).kind? name ≠ none ↔
      isBlankName name = false ∧ ∃ old, h.kind? old ≠ none ∧ rename old = name := by
  rw [kind?_rename_ne_none]
  constructor
  · rintro ⟨old, e, he, hname⟩
    obtain ⟨kind, hkind, -⟩ := image?_eq_some.1 he
    have hold : h.kind? old ≠ none := by simp [hkind]
    have hany : (h.image? f old).any (·.name == name) = true := by simp [he, hname]
    obtain ⟨hrename, hblank⟩ := (any_image?_iff hf hold).1 hany
    exact ⟨hblank, old, hold, hrename⟩
  · rintro ⟨hblank, old, hold, hrename⟩
    have hany : (h.image? f old).any (·.name == name) = true :=
      (any_image?_iff hf hold).2 ⟨hrename, hblank⟩
    obtain ⟨e, he, hname⟩ := (Option.any_eq_true _ _).1 hany
    exact ⟨old, e, he, beq_iff_eq.1 hname⟩

/-- A link is all there is of the dependencies between its ends, and its weight needs no saturation.

**Proof sketch.** There is no such dependency if the link is missing, and if it is there, the one
that has its weight is the only one. -/
lemma saturated_filter_link (hh : h.Invariant least) (source target : String) :
    saturated ((h.dependencies.filter fun d =>
      d.source == source && d.target == target).map Dependency.weight) =
        h.weight? source target := by
  cases hw : h.weight? source target with
  | none =>
    have hnil : (h.dependencies.filter fun d => d.source == source && d.target == target) = [] := by
      refine List.filter_eq_nil_iff.2 fun d hd hlink => ?_
      simp only [Bool.and_eq_true, beq_iff_eq] at hlink
      obtain ⟨rfl, rfl⟩ := hlink
      simp [mem_dependencies.1 hd] at hw
    rw [hnil]
    rfl
  | some weight =>
    have hone : (h.dependencies.filter fun d => d.source == source && d.target == target) =
        [⟨source, target, weight⟩] := by
      refine List.perm_singleton.1 ((List.perm_ext_iff_of_nodup
        (h.nodup_dependencies.filter _) (List.nodup_singleton _)).2 fun d => ?_)
      rw [List.mem_filter, mem_dependencies, List.mem_singleton, Bool.and_eq_true, beq_iff_eq,
        beq_iff_eq]
      constructor
      · rintro ⟨hd, rfl, rfl⟩
        obtain rfl := Option.some.inj (hd.symm.trans hw)
        rfl
      · rintro rfl
        exact ⟨hw, rfl, rfl⟩
    rw [hone]
    simp [saturated, (hh.weight?_mem hw).2]

end DepAtlas.Graph
