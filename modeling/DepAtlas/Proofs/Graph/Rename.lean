import DepAtlas.Graph.Rename
import DepAtlas.Proofs.Graph.Invariant

set_option relaxedAutoImplicit false
set_option autoImplicit false

/-!
# Renamed graphs

Renaming puts the images of all entities into an empty graph and then adds the images of the
dependencies one after the other. This file says what comes out: every image has the most specific
of its kinds, and every link the saturated sum of the weights that fall on it.

## Main definitions

* `DepAtlas.Graph.newEntity?` — what an entity becomes, unless it is dropped or gets a blank name.
* `DepAtlas.Graph.preimages` — the dependencies that a renaming puts onto one link.

## Main results

* `DepAtlas.Graph.kind?_rename`, `DepAtlas.Graph.weight?_rename` — the views of a renamed graph.
* `DepAtlas.Graph.endsDeclared_rename` — the ends of its links are entities, whatever was renamed.
* `DepAtlas.Graph.Invariant.rename` — renaming keeps the invariant.
-/

namespace DepAtlas.Graph

variable {least : ℕ} {g : Graph} {f : Entity → Option Entity}

/-! ## Images -/

/-- What an entity becomes, unless it is dropped or gets a blank name. -/
def newEntity? (f : Entity → Option Entity) (e : Entity) : Option Entity :=
  (f e).filter fun e' => !e'.isBlank

/-- The image of an entity of the graph is what becomes of it. -/
lemma image?_eq_bind (f : Entity → Option Entity) (g : Graph) (name : String) :
    g.image? f name = (g.kind? name).bind fun kind => newEntity? f ⟨name, kind⟩ := by
  cases hkind : g.kind? name with
  | none => simp [image?, hkind]
  | some kind =>
    cases he : f ⟨name, kind⟩ with
    | none => simp [image?, hkind, he, newEntity?]
    | some e => cases hblank : e.isBlank <;> simp [image?, hkind, he, newEntity?, Option.filter, hblank]

/-- An image is what the renaming makes of an entity of the graph, if it has a name. -/
lemma image?_eq_some {name : String} {e : Entity} :
    g.image? f name = some e ↔
      ∃ kind, g.kind? name = some kind ∧ f ⟨name, kind⟩ = some e ∧ e.isBlank = false := by
  simp only [image?_eq_bind, newEntity?, Option.bind_eq_some_iff, Option.filter_eq_some_iff,
    Bool.not_eq_true']

/-- The dependencies of a graph whose ends have images with these names. -/
def preimages (f : Entity → Option Entity) (g : Graph) (source target : String) :
    List Dependency :=
  g.dependencies.filter fun d =>
    (g.image? f d.source).any (·.name == source) && (g.image? f d.target).any (·.name == target)

/-! ## Links -/

/-- The image of a dependency adds its weight to its own link only. If one of the ends has no image,
nothing is added. -/
lemma weight?_insertImage (f : Entity → Option Entity) (g h : Graph) (d : Dependency)
    (source target : String) :
    (insertImage f g h d).weight? source target =
      (h.weight? source target).merge Policy.sum.combine
        (if (g.image? f d.source).any (·.name == source) &&
            (g.image? f d.target).any (·.name == target) then some d.weight else none) := by
  unfold insertImage
  cases g.image? f d.source with
  | none => simp
  | some s =>
    cases g.image? f d.target with
    | none => simp
    | some t => simp [weight?_insert]

/-- Upserting entities adds no link. -/
lemma rows_foldl_upsert (g : Graph) (es : List Entity) : (es.foldl upsert g).rows = g.rows := by
  induction es generalizing g with
  | nil => rfl
  | cons e es ih => exact ih (g.upsert e)

/-- The weight of a link of a renamed graph is gathered from all dependencies, of which those that fall on
it bring their weights. -/
lemma weight?_rename_gathered (f : Entity → Option Entity) (g : Graph) (source target : String) :
    (g.rename f).weight? source target = gather Policy.sum.combine (g.dependencies.map fun d =>
      if (g.image? f d.source).any (·.name == source) &&
          (g.image? f d.target).any (·.name == target) then some d.weight else none) := by
  have hstart : ((g.names.filterMap (g.image? f)).foldl upsert empty).weight? source target =
      none := by
    rw [weight?, rows_foldl_upsert]
    exact Rows.weight?_empty source target
  rw [rename, view_foldl Policy.sum.combine (·.weight? source target) _ _
    fun h d => weight?_insertImage f g h d source target, hstart, Option.merge_none_left]

/-- **The weight of a link of a renamed graph** is the saturated sum of the weights of all
dependencies that fall on it.

**Proof sketch.** The images of the dependencies are added one after the other, each with its own
weight to its own link, so the weight of a link is gathered from the whole list by saturating
addition. -/
theorem weight?_rename (f : Entity → Option Entity) {g : Graph}
    (hg : ∀ d ∈ g.dependencies, d.weight ≤ weightLimit) (source target : String) :
    (g.rename f).weight? source target =
      saturated ((g.preimages f source target).map Dependency.weight) := by
  rw [weight?_rename_gathered, gather_sum]
  · rw [reduceOption_map_ite, preimages]
  · intro w hw
    obtain ⟨d, hd, hsome⟩ := List.mem_map.1 hw
    obtain ⟨-, hweight⟩ := Option.ite_none_right_eq_some.1 hsome
    exact Option.some.inj hweight ▸ hg d hd

/-- A link of a renamed graph is there exactly if the ends of some dependency have images with its names. -/
lemma weight?_rename_ne_none {source target : String} :
    (g.rename f).weight? source target ≠ none ↔ ∃ d ∈ g.dependencies,
      (∃ e, g.image? f d.source = some e ∧ e.name = source) ∧
        ∃ e, g.image? f d.target = some e ∧ e.name = target := by
  rw [weight?_rename_gathered, ne_eq, gather_eq_none_iff]
  simp only [List.mem_map, forall_exists_index, and_imp, forall_apply_eq_imp_iff₂, not_forall,
    ite_eq_right_iff, reduceCtorEq, imp_false, not_not, Bool.and_eq_true, Option.any_eq_true, beq_iff_eq,
    exists_prop]

/-! ## Entities -/

/-- The kind that a list of entities has for a name, added to an empty graph. -/
lemma kind?_foldl_upsert (es : List Entity) (name : String) :
    (es.foldl upsert empty).kind? name =
      gather Kind.join (es.map fun e => if e.name = name then some e.kind else none) := by
  rw [view_foldl Kind.join (·.kind? name) upsert _ (kind?_upsert · · name), kind?_empty,
    Option.merge_none_left]

/-- **The kind of a name in a renamed graph** is the most specific one of its images.

**Proof sketch.** All images are added before the first dependency. The ends of the dependencies
are images again, whose kinds are known already. -/
theorem kind?_rename (f : Entity → Option Entity) (g : Graph) (name : String) :
    (g.rename f).kind? name = gather Kind.join
      ((g.names.filterMap (g.image? f)).map fun e =>
        if e.name = name then some e.kind else none) := by
  have hfixed : (g.rename f).kind? =
      ((g.names.filterMap (g.image? f)).foldl upsert empty).kind? := by
    refine view_foldl_of_fixed kind? _ fun h hh d hd => ?_
    have habsorbed : ∀ source e, g.image? f source = some e →
        (h.kind? e.name).merge Kind.join (some e.kind) = h.kind? e.name := by
      intro source e he
      obtain ⟨kind, hkind, -⟩ := image?_eq_some.1 he
      have hmem : e ∈ g.names.filterMap (g.image? f) :=
        List.mem_filterMap.2 ⟨source, mem_names_iff.2 (by simp [hkind]), he⟩
      rw [hh, kind?_foldl_upsert]
      exact gather_merge_of_mem Kind.join (List.mem_map.2 ⟨e, hmem, if_pos rfl⟩)
    unfold insertImage
    split
    · next s t hs ht =>
      exact (kind?_insert_of_absorbed (habsorbed _ s hs) (habsorbed _ t ht)).trans hh
    · exact hh
  rw [hfixed, kind?_foldl_upsert]

/-- The entities of a renamed graph are the images. -/
lemma kind?_rename_ne_none {name : String} :
    (g.rename f).kind? name ≠ none ↔ ∃ old e, g.image? f old = some e ∧ e.name = name := by
  rw [kind?_rename, ne_eq, gather_eq_none_iff]
  simp only [List.mem_map, List.mem_filterMap, not_forall]
  constructor
  · rintro ⟨_, ⟨e, ⟨old, -, he⟩, rfl⟩, hne⟩
    exact ⟨old, e, he, by_contra fun h => hne (if_neg h)⟩
  · rintro ⟨old, e, he, rfl⟩
    obtain ⟨kind, hkind, -⟩ := image?_eq_some.1 he
    have hold : old ∈ g.names := mem_names_iff.2 (by simp [hkind])
    exact ⟨_, ⟨e, ⟨old, hold, he⟩, rfl⟩, by simp⟩

/-! ## The invariant -/

/-- The ends of links between images are images. -/
lemma endsDeclared_rename (f : Entity → Option Entity) (g : Graph) : (g.rename f).EndsDeclared := by
  refine endsDeclared_iff.2 fun source target weight hw => ?_
  obtain ⟨d, -, ⟨s, hs, hsource⟩, t, ht, htarget⟩ :=
    weight?_rename_ne_none.1 (hw ▸ Option.some_ne_none weight)
  exact ⟨kind?_rename_ne_none.2 ⟨d.source, s, hs, hsource⟩, kind?_rename_ne_none.2 ⟨d.target, t, ht, htarget⟩⟩

/-- Renaming keeps the invariant.

**Proof sketch.** Only names that are not blank are given. A link of the renamed graph gathers the
weights of links of the graph, so it is not below the least weight, and sums are stopped at the
greatest one. -/
theorem Invariant.rename (h : g.Invariant least) (f : Entity → Option Entity) :
    (g.rename f).Invariant least := by
  have hstart : Invariant least
      ((g.names.filterMap (g.image? f)).foldl Graph.upsert Graph.empty) := by
    refine List.foldlRecOn _ Graph.upsert (motive := Invariant least) .empty fun k hk e he => ?_
    obtain ⟨_, -, he⟩ := List.mem_filterMap.1 he
    obtain ⟨_, -, -, hblank⟩ := image?_eq_some.1 he
    exact hk.upsert hblank
  refine List.foldlRecOn _ _ (motive := Invariant least) hstart fun k hk d hd => ?_
  unfold insertImage
  split
  · next s t hs ht =>
    obtain ⟨_, -, -, hblank⟩ := image?_eq_some.1 hs
    obtain ⟨_, -, -, hblank'⟩ := image?_eq_some.1 ht
    obtain ⟨hl, hu⟩ := h.weight_mem d hd
    exact hk.insert hblank hblank' hl hu .sum
  · exact hk

end DepAtlas.Graph
