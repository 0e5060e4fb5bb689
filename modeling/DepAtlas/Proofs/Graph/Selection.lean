import DepAtlas.Proofs.Graph.Retain

set_option relaxedAutoImplicit false
set_option autoImplicit false

/-!
# Parts of parts

A part of a graph may be cut down again. Keeping entities twice keeps those that both conditions accept,
in whatever order they are asked. Links behave in the same way, although the second pass sees fewer of them:
an entity that has lost all its links is gone by then, so one that has no link left to lose never had one.

## Main results

* `DepAtlas.Graph.retainEntities_retainEntities`, `DepAtlas.Graph.retainLinks_retainLinks` — a part of a
  part is the part given by both conditions.
* `DepAtlas.Graph.retained_parts` — what is kept, and that the order and the number of passes do not matter.
-/

namespace DepAtlas.Graph

variable {g : Graph}

/-! ## Entities -/

/-- A link that is left has ends that were accepted. -/
lemma weight?_retainEntities_iff {keep : Entity → Bool} {source target : String} {weight : ℕ} :
    (g.retainEntities keep).weight? source target = some weight ↔
      g.weight? source target = some weight ∧
        (∃ kind, g.kind? source = some kind ∧ keep ⟨source, kind⟩ = true) ∧
        ∃ kind, g.kind? target = some kind ∧ keep ⟨target, kind⟩ = true := by
  rw [weight?_retainEntities_eq_some, kind?_retainEntities_ne_none, kind?_retainEntities_ne_none]

/-- **Entities kept of those that were kept** are the ones that both conditions accept.

**Proof sketch.** The kinds are filtered twice. A link is left by the second pass if it was left by the first
one and both its ends are still there; but what is still there was there after the first pass. -/
lemma retainEntities_retainEntities (p q : Entity → Bool) (g : Graph) :
    (g.retainEntities q).retainEntities p = g.retainEntities fun e => p e && q e := by
  have hkind : ∀ name, ((g.retainEntities q).retainEntities p).kind? name =
      (g.retainEntities fun e => p e && q e).kind? name := by
    intro name
    simp only [kind?_retainEntities, Option.filter_filter, Bool.and_comm]
  have hleft : ∀ name, (g.retainEntities fun e => p e && q e).kind? name ≠ none →
      (g.retainEntities q).kind? name ≠ none := by
    intro name hname
    obtain ⟨kind, hkind, hboth⟩ := kind?_retainEntities_ne_none.1 hname
    exact kind?_retainEntities_ne_none.2 ⟨kind, hkind, (Bool.and_eq_true_iff.1 hboth).2⟩
  refine ext_of_views (Rows.noEmpty_ofDependencies _) (Rows.noEmpty_ofDependencies _) hkind
    fun source target => ?_
  ext weight
  rw [weight?_retainEntities_eq_some, weight?_retainEntities_eq_some, weight?_retainEntities_eq_some,
    hkind, hkind]
  constructor
  · rintro ⟨⟨hweight, -, -⟩, hs, ht⟩
    exact ⟨hweight, hs, ht⟩
  · rintro ⟨hweight, hs, ht⟩
    exact ⟨⟨hweight, hleft source hs, hleft target ht⟩, hs, ht⟩

/-! ## Links -/

/-- The dependencies that are left are the accepted ones. -/
lemma mem_dependencies_retainLinks {keep : String → String → Bool} {d : Dependency} :
    d ∈ (g.retainLinks keep).dependencies ↔
      d ∈ g.dependencies ∧ keep d.source d.target = true := by
  rw [mem_dependencies, mem_dependencies, weight?_retainLinks_eq_some]

/-- **Links kept of those that were kept** are the ones that both conditions accept, and the same entities
stay with them.

**Proof sketch.** An entity stays in the second pass if it is an end of an accepted link or of none of the
links that are left. In the second case it is no end of a link that the first pass accepted, so it stayed in
the first pass because it had no link at all. -/
lemma retainLinks_retainLinks (p q : String → String → Bool) (g : Graph) :
    (g.retainLinks q).retainLinks p =
      g.retainLinks fun source target => p source target && q source target := by
  refine ext_of_views (Rows.noEmpty_ofDependencies _) (Rows.noEmpty_ofDependencies _) (fun name => ?kind)
    fun source target => ?weight
  case weight =>
    simp only [weight?_retainLinks, Option.filter_filter, Bool.and_comm]
  case kind =>
    ext kind
    simp only [kind?_retainLinks_eq_some, mem_dependencies_retainLinks, and_assoc]
    refine and_congr_right fun _ => ⟨?_, ?_⟩
    · rintro ⟨hfirst, ⟨d, hd, hq, hp, hend⟩ | hfree⟩
      · exact Or.inl ⟨d, hd, by rw [hp, hq, Bool.and_self], hend⟩
      · rcases hfirst with ⟨d, hd, hq, hend⟩ | hfree'
        · exact absurd hend (not_or.2 (hfree d ⟨hd, hq⟩))
        · exact Or.inr hfree'
    · rintro (⟨d, hd, hboth, hend⟩ | hfree)
      · obtain ⟨hp, hq⟩ := Bool.and_eq_true_iff.1 hboth
        exact ⟨Or.inl ⟨d, hd, hq, hend⟩, Or.inl ⟨d, hd, hq, hp, hend⟩⟩
      · exact ⟨Or.inr hfree, Or.inr fun d hd => hfree d hd.1⟩

/-! ## Both -/

/-- **What is kept of a graph.** Keeping entities keeps exactly the accepted ones, and the links between two
of them with their weights. Keeping links keeps exactly the accepted ones with their weights, and an entity
stays with its kind exactly if it is an end of one of them or was an end of no link at all, not even of one
to itself. So two passes of one sort keep what both conditions accept, in either order, and a second pass
with the same condition changes nothing. -/
theorem retained_parts (g : Graph) :
    (∀ p : Entity → Bool,
      (∀ name kind, (g.retainEntities p).kind? name = some kind ↔
        g.kind? name = some kind ∧ p ⟨name, kind⟩ = true) ∧
      ∀ source target weight, (g.retainEntities p).weight? source target = some weight ↔
        g.weight? source target = some weight ∧
          (∃ kind, g.kind? source = some kind ∧ p ⟨source, kind⟩ = true) ∧
          ∃ kind, g.kind? target = some kind ∧ p ⟨target, kind⟩ = true) ∧
    (∀ p : String → String → Bool,
      (∀ source target weight, (g.retainLinks p).weight? source target = some weight ↔
        g.weight? source target = some weight ∧ p source target = true) ∧
      ∀ name kind, (g.retainLinks p).kind? name = some kind ↔ g.kind? name = some kind ∧
        ((∃ d ∈ g.dependencies, p d.source d.target = true ∧ (d.source = name ∨ d.target = name)) ∨
          ∀ d ∈ g.dependencies, d.source ≠ name ∧ d.target ≠ name)) ∧
    (∀ p q : Entity → Bool,
      (g.retainEntities q).retainEntities p = g.retainEntities (fun e => p e && q e) ∧
      (g.retainEntities p).retainEntities q = g.retainEntities (fun e => p e && q e) ∧
      (g.retainEntities p).retainEntities p = g.retainEntities p) ∧
    ∀ p q : String → String → Bool,
      (g.retainLinks q).retainLinks p = g.retainLinks (fun a b => p a b && q a b) ∧
      (g.retainLinks p).retainLinks q = g.retainLinks (fun a b => p a b && q a b) ∧
      (g.retainLinks p).retainLinks p = g.retainLinks p := by
  refine ⟨fun p => ⟨fun name kind => ?_, fun source target weight => weight?_retainEntities_iff⟩,
    fun p => ⟨fun source target weight => weight?_retainLinks_eq_some,
      fun name kind => kind?_retainLinks_eq_some⟩,
    fun p q => ⟨retainEntities_retainEntities p q g, ?_, ?_⟩,
    fun p q => ⟨retainLinks_retainLinks p q g, ?_, ?_⟩⟩
  · rw [kind?_retainEntities, Option.filter_eq_some_iff]
  · rw [retainEntities_retainEntities]
    simp only [Bool.and_comm]
  · rw [retainEntities_retainEntities]
    simp only [Bool.and_self]
  · rw [retainLinks_retainLinks]
    simp only [Bool.and_comm]
  · rw [retainLinks_retainLinks]
    simp only [Bool.and_self]

/-- Without any link, an entity that only depended on itself is gone and one that had no link stays. -/
example :
    let g := (empty.insert ⟨"a", .module⟩ ⟨"a", .module⟩ 1 .sum).declare ⟨"b", .class⟩
    (g.retainLinks fun _ _ => false).entities = [⟨"b", .class⟩] := by
  decide +kernel

end DepAtlas.Graph
