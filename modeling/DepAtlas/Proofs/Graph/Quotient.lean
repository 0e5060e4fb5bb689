import Mathlib.Algebra.Order.BigOperators.Group.List
import Mathlib.Algebra.Order.Group.Nat
import Mathlib.Data.List.Nodup
import DepAtlas.Graph.Merge
import DepAtlas.Proofs.Graph.Rename

set_option relaxedAutoImplicit false
set_option autoImplicit false

/-!
# A renamed graph is a quotient

Renaming sends every entity to a new name or to none, and every dependency to the link between the new
names of its ends. What is sent to one place falls together there: entities with the most specific of
their new kinds, dependencies with their weights added up. Nothing is counted twice, so unless a sum is
stopped at the greatest weight, the weights of what is left add up to the weights of all dependencies whose
ends both get a name.

## Main definitions

* `DepAtlas.Graph.newName?`, `DepAtlas.Graph.newLink?` — where entities and dependencies are sent.
* `DepAtlas.Graph.totalWeight` — the weights of all dependencies together.

## Main results

* `DepAtlas.Graph.foldl_upsert_perm` — the images of all entities may be added in any order.
* `DepAtlas.Graph.totalWeight_rename` — what the weights of a renamed graph add up to.
* `DepAtlas.Graph.rename_is_quotient` — entities, links and weights of a renamed graph.
-/

namespace DepAtlas

/-- A sum is the sum of its parts by key, if every key is listed once.

**Proof sketch.** Induction on the summands. The one in front adds its weight to the part of its own key
and nothing to the other parts. -/
lemma sum_parts_eq_sum {ι κ : Type} [DecidableEq κ] (key : ι → κ) (weight : ι → ℕ) {keys : List κ}
    (hn : keys.Nodup) {xs : List ι} (hkeys : ∀ x ∈ xs, key x ∈ keys) :
    (keys.map fun k => ((xs.filter fun x => key x = k).map weight).sum).sum = (xs.map weight).sum := by
  induction xs with
  | nil => simp
  | cons x xs ih =>
    have hpart : ∀ k, (((x :: xs).filter fun x => key x = k).map weight).sum =
        (if key x = k then weight x else 0) + ((xs.filter fun x => key x = k).map weight).sum := by
      intro k
      by_cases hk : key x = k <;> simp [hk]
    have hone : (keys.map fun k => if key x = k then weight x else 0).sum = weight x := by
      rw [List.sum_map_eq_nsmul_single (key x) _ fun k hk _ => if_neg (Ne.symm hk), if_pos rfl,
        List.count_eq_one_of_mem hn (hkeys x List.mem_cons_self), one_nsmul]
    simp only [hpart]
    rw [List.sum_map_add, hone, ih fun y hy => hkeys y (List.mem_cons_of_mem _ hy), List.map_cons,
      List.sum_cons]

namespace Graph

variable {f : Entity → Option Entity} {g : Graph}

/-! ## Where things are sent -/

/-- The name that an entity gets, unless it is dropped or gets a blank one. -/
def newName? (f : Entity → Option Entity) (e : Entity) : Option String :=
  ((f e).filter fun e' => !e'.isBlank).map Entity.name

/-- The link that a dependency of the graph is sent to, if both its ends get a name. -/
def newLink? (f : Entity → Option Entity) (g : Graph) (d : Dependency) : Option (String × String) :=
  (newName? f (g.entity d.source)).bind fun source =>
    (newName? f (g.entity d.target)).map fun target => (source, target)

/-- The weights of all dependencies together. -/
def totalWeight (g : Graph) : ℕ :=
  (g.dependencies.map Dependency.weight).sum

/-- The image of an entity has its new name. -/
lemma map_name_image? {name : String} (hname : g.contains name = true) :
    (g.image? f name).map Entity.name = newName? f (g.entity name) := by
  obtain ⟨kind, hkind⟩ := Option.ne_none_iff_exists'.1 (contains_iff.1 hname)
  rw [image?_eq_bind, entity, hkind]
  rfl

/-- Whether what may be there has a name is a question about its name. -/
lemma any_name_eq_iff {e : Option Entity} {name : String} :
    e.any (·.name == name) = true ↔ e.map Entity.name = some name := by
  cases e <;> simp

/-- The dependencies that fall onto a link are those that are sent to it. -/
lemma EndsDeclared.preimages_eq (hends : g.EndsDeclared) (source target : String) :
    g.preimages f source target =
      g.dependencies.filter fun d => g.newLink? f d = some (source, target) := by
  refine List.filter_congr fun d hd => ?_
  obtain ⟨hsource, htarget⟩ := hends d hd
  rw [Bool.eq_iff_iff, Bool.and_eq_true, any_name_eq_iff, any_name_eq_iff, map_name_image? hsource,
    map_name_image? htarget, decide_eq_true_iff, newLink?]
  cases newName? f (g.entity d.source) with
  | none => simp
  | some s => cases newName? f (g.entity d.target) <;> simp

/-! ## Images in any order -/

/-- Adding entities to an empty graph gives the same graph in any order. -/
lemma foldl_upsert_perm {es es' : List Entity} (h : es.Perm es') :
    es.foldl upsert empty = es'.foldl upsert empty := by
  have hrows : ∀ es : List Entity, (es.foldl upsert empty).rows = ∅ := rows_foldl_upsert empty
  refine ext_of_views ?_ ?_ (fun name => ?_) fun source target => ?_
  · rw [hrows]
    exact Rows.noEmpty_empty
  · rw [hrows]
    exact Rows.noEmpty_empty
  · rw [kind?_foldl_upsert, kind?_foldl_upsert]
    exact gather_perm Kind.join (h.map _)
  · rw [weight?, weight?, hrows, hrows]

/-! ## Weights -/

/-- A link of a renamed graph has the weights of all dependencies that are sent to it. -/
lemma weight?_rename_eq_some_iff (hends : g.EndsDeclared)
    (hweight : ∀ d ∈ g.dependencies, d.weight ≤ weightLimit) {source target : String} {weight : ℕ} :
    (g.rename f).weight? source target = some weight ↔
      (∃ d ∈ g.dependencies, g.newLink? f d = some (source, target)) ∧
        weight = min weightLimit ((g.dependencies.filter fun d =>
          g.newLink? f d = some (source, target)).map Dependency.weight).sum := by
  rw [weight?_rename f hweight, hends.preimages_eq, saturated_eq_some_iff, ne_eq, List.map_eq_nil_iff,
    List.filter_eq_nil_iff]
  simp

/-- **The weights of a renamed graph add up to those of the dependencies that survive**, if no sum is
stopped.

**Proof sketch.** The dependencies that survive are divided by the links that they are sent to. Each
part adds up to the weight of its link, because no part weighs more than the whole graph. -/
theorem totalWeight_rename (hends : g.EndsDeclared) (htotal : g.totalWeight ≤ weightLimit) :
    (g.rename f).totalWeight =
      ((g.dependencies.filter fun d => (g.newLink? f d).isSome).map Dependency.weight).sum := by
  have hweight : ∀ d ∈ g.dependencies, d.weight ≤ weightLimit := fun d hd =>
    (List.single_le_sum (fun _ _ => Nat.zero_le _) _ (List.mem_map_of_mem hd)).trans htotal
  have hlinks : ((g.rename f).dependencies.map fun r => some (r.source, r.target)).Nodup := by
    have hnodup := (g.rename f).nodup_links.map fun _ _ h => Option.some.inj h
    rwa [List.map_map] at hnodup
  have hsent : ∀ d ∈ g.dependencies.filter fun d => (g.newLink? f d).isSome,
      g.newLink? f d ∈ (g.rename f).dependencies.map fun r => some (r.source, r.target) := by
    intro d hd
    obtain ⟨hd, hsome⟩ := List.mem_filter.1 hd
    obtain ⟨⟨source, target⟩, hlink⟩ := Option.isSome_iff_exists.1 hsome
    have hthere := (weight?_rename_eq_some_iff hends hweight).2 ⟨⟨d, hd, hlink⟩, rfl⟩
    rw [hlink]
    exact List.mem_map.2 ⟨⟨source, target, _⟩, mem_dependencies.2 hthere, rfl⟩
  rw [← sum_parts_eq_sum (g.newLink? f) Dependency.weight hlinks hsent, List.map_map]
  refine congrArg List.sum (List.map_congr_left fun r hr => ?_)
  have hfibre : (g.dependencies.filter fun d => (g.newLink? f d).isSome).filter
      (fun d => g.newLink? f d = some (r.source, r.target)) =
        g.dependencies.filter fun d => g.newLink? f d = some (r.source, r.target) := by
    rw [List.filter_filter]
    refine List.filter_congr fun d _ => ?_
    cases g.newLink? f d <;> simp
  have hle : ((g.dependencies.filter fun d => g.newLink? f d = some (r.source, r.target)).map
      Dependency.weight).sum ≤ weightLimit :=
    ((List.filter_sublist.map Dependency.weight).sum_le_sum (fun _ _ => Nat.zero_le _)).trans htotal
  obtain ⟨-, hsum⟩ := (weight?_rename_eq_some_iff hends hweight).1 (mem_dependencies.1 hr)
  rw [Function.comp_apply, hfibre, hsum, Nat.min_eq_right hle]

/-! ## The quotient -/

/-- The kind of a name in a renamed graph is the most specific one of the new kinds that come with
the name.

**Proof sketch.** The kind is gathered from the images of all entities. What is gathered is one of
the kinds that are there, and none of them is more specific. -/
lemma kind?_rename_eq_some_iff {name : String} {kind : Kind} :
    (g.rename f).kind? name = some kind ↔ isBlankName name = false ∧
      (∃ e ∈ g.entities, f e = some ⟨name, kind⟩) ∧
        ∀ e ∈ g.entities, ∀ k, f e = some ⟨name, k⟩ → k.rank ≤ kind.rank := by
  have hmem : ∀ k, some k ∈ ((g.names.filterMap (g.image? f)).map fun e =>
      if e.name = name then some e.kind else none) ↔
        isBlankName name = false ∧ ∃ e ∈ g.entities, f e = some ⟨name, k⟩ := by
    intro k
    simp only [List.mem_map, List.mem_filterMap, Option.ite_none_right_eq_some, Option.some.injEq]
    constructor
    · rintro ⟨e, ⟨old, -, he⟩, rfl, rfl⟩
      obtain ⟨kind, hkind, he, hblank⟩ := image?_eq_some.1 he
      exact ⟨hblank, ⟨old, kind⟩, mem_entities.2 hkind, he⟩
    · rintro ⟨hblank, ⟨old, kind⟩, hold, he⟩
      have hkind : g.kind? old = some kind := mem_entities.1 hold
      exact ⟨⟨name, k⟩, ⟨old, mem_names_iff.2 (by simp [hkind]),
        image?_eq_some.2 ⟨kind, hkind, he, hblank⟩⟩, rfl, rfl⟩
  rw [kind?_rename, gather_join_eq_some_iff, hmem, and_assoc]
  simp only [hmem]
  refine and_congr_right fun hblank => and_congr_right fun _ => ?_
  exact ⟨fun h e he k hk => h k ⟨hblank, e, he, hk⟩, fun h k ⟨_, e, he, hk⟩ => h e he k hk⟩

/-- **A renamed graph is the quotient by the new names.** Its entities are the new names that are not
blank, each with the most specific kind that comes with it. A link is there if some dependency is sent to
it, and its weight is the sum of the weights of all dependencies that are, stopped at the greatest weight.
The images of the entities may be added in any order. And if all weights together are not above the greatest
weight, the weights of the renamed graph add up to those of the dependencies whose ends both get a name. -/
theorem rename_is_quotient (f : Entity → Option Entity) {g : Graph} (hends : g.EndsDeclared)
    (hweight : ∀ d ∈ g.dependencies, d.weight ≤ weightLimit) :
    (∀ name kind, (g.rename f).kind? name = some kind ↔ isBlankName name = false ∧
      (∃ e ∈ g.entities, f e = some ⟨name, kind⟩) ∧
        ∀ e ∈ g.entities, ∀ k, f e = some ⟨name, k⟩ → k.rank ≤ kind.rank) ∧
    (∀ source target weight, (g.rename f).weight? source target = some weight ↔
      (∃ d ∈ g.dependencies, g.newLink? f d = some (source, target)) ∧
        weight = min weightLimit ((g.dependencies.filter fun d =>
          g.newLink? f d = some (source, target)).map Dependency.weight).sum) ∧
    (∀ images : List Entity, images.Perm (g.names.filterMap (g.image? f)) →
      g.dependencies.foldl (insertImage f g) (images.foldl upsert empty) = g.rename f) ∧
    (g.totalWeight ≤ weightLimit → (g.rename f).totalWeight =
      ((g.dependencies.filter fun d => (g.newLink? f d).isSome).map Dependency.weight).sum) := by
  refine ⟨fun name kind => kind?_rename_eq_some_iff,
    fun source target weight => weight?_rename_eq_some_iff hends hweight, fun images himages => ?_,
    totalWeight_rename hends⟩
  rw [foldl_upsert_perm himages]
  rfl

/-- Six entities that are sent to two names, to a blank one and to none: a link falls onto itself, two links
fall together, and what leads to an entity without a name is lost. -/
theorem rename_onto_two_names :
    let g := (((((empty.insert ⟨"a1", .module⟩ ⟨"a2", .class⟩ 2 .sum).insert ⟨"a1", .unknown⟩
      ⟨"b1", .unknown⟩ 3 .sum).insert ⟨"a2", .unknown⟩ ⟨"b2", .function⟩ 4 .sum).insert
      ⟨"b1", .unknown⟩ ⟨"c", .unknown⟩ 5 .sum).insert ⟨"d", .unknown⟩ ⟨"a1", .unknown⟩ 6 .sum)
    let f : Entity → Option Entity := fun e =>
      if e.name = "c" then some ⟨" ", e.kind⟩ else if e.name = "d" then none
      else some ⟨String.ofList (e.name.toList.take 1), e.kind⟩
    g.EndsDeclared ∧ (∀ d ∈ g.dependencies, d.weight ≤ weightLimit) ∧ g.totalWeight ≤ weightLimit ∧
    (g.rename f).entities = [⟨"a", .class⟩, ⟨"b", .function⟩] ∧
    (g.rename f).weight? "a" "a" = some 2 ∧ (g.rename f).weight? "a" "b" = some 7 ∧
    (g.rename f).totalWeight = 9 := by
  intro g f
  have hends : ∀ d ∈ g.dependencies, g.contains d.source = true ∧ g.contains d.target = true := by
    decide +kernel
  have hweight : ∀ d ∈ g.dependencies, d.weight ≤ weightLimit := by decide +kernel
  have htotal : g.totalWeight ≤ weightLimit := by decide +kernel
  obtain ⟨-, hlinks, -, hsum⟩ := rename_is_quotient f hends hweight
  refine ⟨hends, hweight, htotal, by decide +kernel, ?_, ?_, (hsum htotal).trans (by decide +kernel)⟩
  · exact (hlinks "a" "a" 2).2 (by decide +kernel)
  · exact (hlinks "a" "b" 7).2 (by decide +kernel)

end Graph

end DepAtlas
