import DepAtlas.Proofs.Filter.Distribution
import DepAtlas.Proofs.Name.Truncation

set_option relaxedAutoImplicit false
set_option autoImplicit false

/-!
# Graphs collapsed more than once

Renaming a graph twice is renaming it once by both renamings one after the other, if the second one respects
the join of kinds: the kinds and weights that fall together in the second step were put together in parts by
the first one. Cutting names down is such a renaming, and cutting them down twice gives every entity the name
and the kind that cutting down once to the smaller number of segments gives it.

## Main definitions

* `DepAtlas.Graph.andThen` — one renaming after the other.

## Main results

* `DepAtlas.Graph.rename_rename` — renaming twice.
* `DepAtlas.Rule.newEntity?_andThen_truncated` — what becomes of an entity whose name is cut down twice.
* `DepAtlas.Rule.collapse_twice` — a graph that is collapsed twice.
-/

namespace DepAtlas

namespace Graph

variable {least : ℕ} {g : Graph} {f f' : Entity → Option Entity}

/-! ## Two renamings -/

/-- One renaming after the other. What gets a blank name in between is dropped. -/
def andThen (f f' : Entity → Option Entity) (e : Entity) : Option Entity :=
  (newEntity? f e).bind f'

/-- What an entity gets from two renamings, one after the other, with blank names dropped each time. -/
lemma newEntity?_andThen (f f' : Entity → Option Entity) (e : Entity) :
    newEntity? (andThen f f') e = (newEntity? f e).bind (newEntity? f') := by
  rw [newEntity?, andThen]
  cases newEntity? f e <;> rfl

/-- The image of an entity of a graph under two renamings is the image of its image. -/
lemma image?_andThen (f f' : Entity → Option Entity) (g : Graph) (name : String) :
    g.image? (andThen f f') name = (g.image? f name).bind (newEntity? f') := by
  simp only [image?_eq_bind, newEntity?_andThen, Option.bind_assoc]

/-- Renamings that make the same of every entity make the same of a graph. -/
lemma rename_congr (h : ∀ e, newEntity? f e = newEntity? f' e) (g : Graph) : g.rename f = g.rename f' := by
  have himage : ∀ name, g.image? f name = g.image? f' name := by
    intro name
    simp only [image?_eq_bind, h]
  have hinsert : insertImage f g = insertImage f' g := by
    funext h d
    simp only [insertImage, himage]
  rw [rename, rename, hinsert, funext himage]

/-! ## Kinds -/

/-- What an entity of the renamed graph brings to a name is brought by the entities that became it.

**Proof sketch.** Its kind is gathered from those entities. Since the second renaming respects joins, their
kinds may be renamed before they are gathered. -/
lemma broughtKind_rename (hf' : RespectsJoin f') (g : Graph) (name mid : String) :
    (g.rename f).broughtKind f' name mid = gather Kind.join (g.names.map fun old =>
      if (g.image? f old).map Entity.name = some mid then g.broughtKind (andThen f f') name old
      else none) := by
  obtain ⟨new, renamed, hjoin, hnew⟩ := hf'.exists_newEntity?_eq mid
  have hkind : (g.rename f).kind? mid = gather Kind.join (g.names.map (g.broughtKind f mid)) :=
    kind?_rename_eq_gather g.nodup_names (fun old => mem_names_iff.2) mid
  have hpart : ∀ old, (if (g.image? f old).map Entity.name = some mid then
      g.broughtKind (andThen f f') name old else none) =
        if new = some name then (g.broughtKind f mid old).map renamed else none := by
    intro old
    rw [broughtKind, broughtKind, image?_andThen]
    cases g.image? f old with
    | none => simp
    | some e =>
      by_cases hname : e.name = mid
      · subst hname
        cases new <;> simp [hnew]
      · simp [hname]
  have hleft : (g.rename f).broughtKind f' name mid =
      if new = some name then ((g.rename f).kind? mid).map renamed else none := by
    rw [broughtKind, image?_eq_bind]
    cases (g.rename f).kind? mid <;> cases new <;> simp [hnew]
  rw [hleft, hkind, map_gather Kind.join hjoin, List.map_map]
  simp only [hpart]
  split
  · rfl
  · refine ((gather_eq_none_iff Kind.join).2 fun v hv => ?_).symm
    obtain ⟨_, -, rfl⟩ := List.mem_map.1 hv
    rfl

/-! ## Weights -/

/-- Where an entity goes in the end can be seen in the renamed graph. -/
lemma getsName_andThen (hf' : RespectsJoin f') {old name : String} {e : Entity}
    (he : g.image? f old = some e) :
    g.getsName (andThen f f') name old = (g.rename f).getsName f' name e.name := by
  obtain ⟨new, renamed, -, hnew⟩ := hf'.exists_newEntity?_eq e.name
  obtain ⟨kind, hkind⟩ := Option.ne_none_iff_exists'.1 (kind?_rename_ne_none.2 ⟨old, e, he, rfl⟩)
  rw [getsName, getsName, image?_andThen, he, image?_eq_bind, hkind, Option.bind_some, Option.bind_some,
    hnew, hnew kind]
  cases new <;> rfl

/-- The link that a link of the graph is renamed to, if both its ends have images. -/
def imageLink? (f : Entity → Option Entity) (g : Graph) (link : String × String) :
    Option (String × String) :=
  (g.image? f link.1).bind fun source => (g.image? f link.2).map fun target => (source.name, target.name)

/-- What a link of the renamed graph brings to a link is brought by the links that became it.

**Proof sketch.** Which name an entity gets in the end depends on the first new name only, since the
second renaming respects joins. So all links that became one link in between go to the same link in
the end, and the saturated sum may be taken in two steps. -/
lemma broughtWeight_rename (hf' : RespectsJoin f') (hg : g.Invariant least) (source target : String)
    (mid : String × String) :
    (g.rename f).broughtWeight f' source target mid =
      gather Policy.sum.combine ((g.dependencies.map fun d => (d.source, d.target)).map fun link =>
        if g.imageLink? f link = some mid then g.broughtWeight (andThen f f') source target link
        else none) := by
  have hweight := weight?_rename_eq_gather (f := f) hg g.nodup_links (fun _ _ => mem_links.2) mid.1 mid.2
  have hpart : ∀ link, (if g.imageLink? f link = some mid then
      g.broughtWeight (andThen f f') source target link else none) =
        if (g.rename f).getsName f' source mid.1 && (g.rename f).getsName f' target mid.2 then
          g.broughtWeight f mid.1 mid.2 link else none := by
    rintro ⟨x, y⟩
    obtain ⟨a, b⟩ := mid
    rw [imageLink?, broughtWeight, broughtWeight]
    cases hx : g.image? f x with
    | none => simp [getsName, hx]
    | some s =>
      cases hy : g.image? f y with
      | none => simp [getsName, hy]
      | some t =>
        have hs : g.getsName f a x = (s.name == a) := by rw [getsName, hx, Option.any_some]
        have ht : g.getsName f b y = (t.name == b) := by rw [getsName, hy, Option.any_some]
        simp only [getsName_andThen hf' hx, getsName_andThen hf' hy, hs, ht]
        by_cases hlink : s.name = a ∧ t.name = b
        · obtain ⟨rfl, rfl⟩ := hlink
          simp
        · simp [hlink]
  simp only [hpart]
  rw [broughtWeight, hweight]
  split
  · rfl
  · refine ((gather_eq_none_iff _).2 fun v hv => ?_).symm
    obtain ⟨_, -, rfl⟩ := List.mem_map.1 hv
    rfl

/-! ## Renaming twice -/

/-- **Renaming twice is renaming once by both renamings**, if the second one respects the join of kinds.

**Proof sketch.** What the entities of the renamed graph bring to a name is gathered from the entities that
became them, and every entity became one at most, so in the end each has brought its own once. The same holds
of links. -/
theorem rename_rename (hf' : RespectsJoin f') (hg : g.Invariant least) :
    (g.rename f).rename f' = g.rename (andThen f f') := by
  have hmid := hg.rename f
  refine ext_of_views (hmid.rename f').noEmptyRow (hg.rename _).noEmptyRow (fun name => ?_)
    fun source target => ?_
  · rw [kind?_rename_eq_gather (g.rename f).nodup_names fun old => mem_names_iff.2,
      kind?_rename_eq_gather g.nodup_names fun old => mem_names_iff.2,
      funext (broughtKind_rename hf' g name)]
    refine gather_parts Kind.join _ _ (g.rename f).nodup_names fun old _ hbrought => ?_
    rw [broughtKind, image?_andThen] at hbrought
    cases he : g.image? f old with
    | none => exact absurd (by rw [he]; rfl) hbrought
    | some e =>
      exact ⟨e.name, mem_names_iff.2 (kind?_rename_ne_none.2 ⟨old, e, he, rfl⟩), rfl⟩
  · rw [weight?_rename_eq_gather hmid (g.rename f).nodup_links fun _ _ => mem_links.2,
      weight?_rename_eq_gather hg g.nodup_links fun _ _ => mem_links.2,
      funext (broughtWeight_rename hf' hg source target)]
    refine gather_parts _ _ _ (g.rename f).nodup_links fun link hlink hbrought => ?_
    obtain ⟨d, hd, rfl⟩ := List.mem_map.1 hlink
    rw [broughtWeight, getsName, getsName, image?_andThen, image?_andThen] at hbrought
    cases hs : g.image? f d.source with
    | none => exact absurd (by rw [hs]; rfl) hbrought
    | some s =>
      cases ht : g.image? f d.target with
      | none => exact absurd (by rw [ht, Option.bind_none, Option.any_none, Bool.and_false]; rfl) hbrought
      | some t =>
        refine ⟨(s.name, t.name), mem_links.2 (weight?_rename_ne_none.2 ?_), by rw [imageLink?, hs, ht]; rfl⟩
        exact ⟨d, hd, ⟨s, hs, rfl⟩, t, ht, rfl⟩

end Graph

/-! ## Cutting names down twice -/

namespace Rule

variable {least : ℕ} {g : Graph}

/-- **An entity whose name is cut down twice** has the name and the kind that it gets when its name is cut
down once to the smaller number of segments.

**Proof sketch.** If the name is the old one in the end, it was not changed by the first cut either, so the
kind stays in both steps. Otherwise one of the steps changes it and makes a module of the entity. -/
lemma truncated_truncated (n m : ℕ) (separator : String) (e : Entity) :
    truncated m separator (truncated n separator e) = truncated (min n m) separator e := by
  have htwice := Name.truncate_truncate e.name separator n m
  rw [truncated, truncated, truncated, htwice, Entity.mk.injEq]
  refine ⟨rfl, ?_⟩
  by_cases hsame : Name.truncate e.name separator (min n m) = e.name
  · have hfirst : Name.truncate e.name separator n = e.name := Name.truncate_eq_self_of_min hsame
    simp only [hsame, hfirst, if_true]
  · by_cases hfirst : Name.truncate e.name separator n = e.name
    · simp only [hsame, hfirst, if_false]
    · simp only [hsame, hfirst, if_false, ite_self]

/-- What becomes of an entity whose name is cut down twice. A name that is blank in between would be
blank in the end.

**Proof sketch.** The names agree by the law of truncations. The kind becomes a module as soon as
one of the two steps changes the name, which is so exactly if the single step changes it. -/
lemma newEntity?_andThen_truncated (n m : ℕ) (separator : String) (e : Entity) :
    Graph.newEntity? (Graph.andThen (fun e => some (truncated n separator e))
      fun e => some (truncated m separator e)) e =
        Graph.newEntity? (fun e => some (truncated (min n m) separator e)) e := by
  have hlast : Graph.newEntity? (fun e => some (truncated m separator e)) (truncated n separator e) =
      Graph.newEntity? (fun e => some (truncated (min n m) separator e)) e := by
    rw [Graph.newEntity?, Graph.newEntity?, truncated_truncated]
  rw [Graph.newEntity?_andThen]
  cases hblank : (truncated n separator e).isBlank with
  | false =>
    have hfirst : Graph.newEntity? (fun e => some (truncated n separator e)) e =
        some (truncated n separator e) := by
      simp [Graph.newEntity?, Option.filter, hblank]
    rw [hfirst, Option.bind_some, hlast]
  | true =>
    have hfirst : Graph.newEntity? (fun e => some (truncated n separator e)) e = none := by
      simp [Graph.newEntity?, Option.filter, hblank]
    have hblank' : (truncated m separator (truncated n separator e)).isBlank = true :=
      Name.isBlankName_truncate hblank separator m
    rw [hfirst, Option.bind_none, ← hlast, Graph.newEntity?]
    simp [Option.filter, hblank']

/-- **Collapsing twice is collapsing once to the smaller depth**, whatever the separator is. So collapsing
again to the same depth changes nothing, and a graph that was collapsed finely before is collapsed coarsely
to the same graph. Nothing is lost or counted twice on the way: a link weighs what all dependencies of the
graph weigh together whose ends have its names when they are cut down once, stopped at the greatest
weight. -/
theorem collapse_twice (hg : g.Invariant least) (separator : String) (n m : ℕ) :
    let collapse : ℕ → Graph → Graph := fun depth => (collapseDepth depth separator).apply
    collapse m (collapse n g) = collapse (min n m) g ∧
    collapse n (collapse n g) = collapse n g ∧
    (∀ k, collapse n (collapse (n + k) g) = collapse n g) ∧
    ∀ source target, (collapse m (collapse n g)).weight? source target =
      if isBlankName source = false ∧ isBlankName target = false then
        saturated ((g.dependencies.filter fun d =>
          Name.truncate d.source separator (min n m) == source &&
            Name.truncate d.target separator (min n m) == target).map Dependency.weight)
      else none := by
  intro collapse
  have htwice : ∀ n m, collapse m (collapse n g) = collapse (min n m) g := by
    intro n m
    have hrename := Graph.rename_rename (f := fun e => some (truncated n separator e))
      (respectsJoin_truncated m separator) hg
    exact hrename.trans (Graph.rename_congr (newEntity?_andThen_truncated n m separator) g)
  refine ⟨htwice n m, ?_, fun k => ?_, fun source target => ?_⟩
  · rw [htwice, Nat.min_self]
  · rw [htwice, Nat.min_eq_right (Nat.le_add_right n k)]
  · rw [htwice]
    exact Graph.weight?_rename_total (Settings.renamesBy_truncated (min n m) separator) hg source target

/-- Names with separators in front or too many colons, of which one has the name that another one is cut down
to: the graph that is collapsed twice is the one that is collapsed once, also where weights are stopped. -/
theorem collapse_twice_of_stray_separators :
    let g := (((Graph.empty.insert ⟨"::a::b::C", .class⟩ ⟨"a::b", .interface⟩ (weightLimit - 1) .sum).insert
      ⟨"a:::b", .function⟩ ⟨"a::b", .unknown⟩ 5 .sum).insert ⟨"a::::b::D", .unknown⟩ ⟨"::", .class⟩ 1 .sum)
    let collapse : ℕ → Graph → Graph := fun depth => (collapseDepth depth "::").apply
    g.WellFormed ∧ (collapse 2 g).entities = [⟨"a:::b", .function⟩, ⟨"a::b", .interface⟩] ∧
      collapse 1 (collapse 2 g) = collapse 1 g ∧
      (collapse 1 (collapse 2 g)).weight? "a" "a" = some weightLimit := by
  intro g collapse
  have hg : g.WellFormed := by
    refine .insert (.insert (.insert .empty ?_ ?_ ?_ ?_ .sum) ?_ ?_ ?_ ?_ .sum) ?_ ?_ ?_ ?_ .sum <;>
      decide +kernel
  obtain ⟨htwice, -, -, hweight⟩ := collapse_twice hg "::" 2 1
  exact ⟨hg, by decide +kernel, htwice, (hweight "a" "a").trans (by decide +kernel)⟩

end Rule

end DepAtlas
