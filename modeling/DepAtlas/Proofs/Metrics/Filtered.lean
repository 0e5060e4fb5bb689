import DepAtlas.Metrics.Report
import DepAtlas.Proofs.Filter.Stage
import DepAtlas.Proofs.Metrics.Cycle

set_option relaxedAutoImplicit false
set_option autoImplicit false

/-!
# Cycles of filtered graphs

A walk between two members of a cycle stays in the cycle. So wherever the links between the members of a
cycle lead to links of another graph, the members end up in one cycle there. For a graph of which something
was dropped the other graph is the whole one, and each of its cycles lies in a cycle of the whole. For a
renamed graph it is the other way round: each cycle of the graph shows again among the new names, as a link
from a name to itself if there is only one of them.

## Main results

* `DepAtlas.Graph.exists_cycle_of_map` — cycles are carried along by mappings that keep their links.
* `DepAtlas.Graph.exists_cycle_of_part`, `DepAtlas.Graph.exists_cycle_rename` — dropping and renaming.
* `DepAtlas.Settings.exists_cycle_applyPre` — the first stage with and without names cut down.
* `DepAtlas.Graph.cycles_under_filters` — all of it.
-/

namespace DepAtlas

namespace Graph

variable {g h : Graph} {a b start : String}

/-! ## Cycles along mappings -/

/-- **A walk inside a component is carried along** by a mapping that keeps the links between its members.

**Proof sketch.** Induction on the walk from its front. The second entity of the walk is reached from its
first one and reaches its last one, so it is in the component with them. -/
lemma reaches_map_of_mem_component (hg : g.EndsDeclared) {f : String → String}
    (hlinks : ∀ a ∈ g.component start, ∀ b ∈ g.component start, g.DependsOn a b → h.DependsOn (f a) (f b))
    (hab : g.Reaches a b) (ha : a ∈ g.component start) (hb : b ∈ g.component start) :
    h.Reaches (f a) (f b) := by
  induction hab using Relation.TransGen.head_induction_on with
  | single hlink => exact .single (hlinks _ ha _ hb hlink)
  | @head a c hlink hcb ih =>
    have hc : c ∈ g.component start := by
      have hstart := (mem_component hg).1 ha
      have hend := (mem_component hg).1 hb
      exact (mem_component hg).2
        ⟨Relation.TransGen.tail hstart.1 hlink, Relation.TransGen.trans hcb hend.2⟩
    exact .head (hlinks _ ha _ hc hlink) (ih hc)

/-- **Cycles are carried along** by a mapping that keeps the links between their members.

**Proof sketch.** The first member of the cycle reaches every member and is reached by it. So does its image,
and all images are in its component. -/
theorem exists_cycle_of_map (hg : g.EndsDeclared) (hh : h.EndsDeclared) {f : String → String} {c : Cycle}
    (hc : c ∈ g.cycles)
    (hlinks : ∀ a ∈ c.members, ∀ b ∈ c.members, g.DependsOn a b → h.DependsOn (f a) (f b)) :
    ∃ c' ∈ h.cycles, ∀ a ∈ c.members, f a ∈ c'.members := by
  obtain ⟨start, hmem, hmembers⟩ := exists_members_eq_component hg hc
  rw [hmembers] at hlinks ⊢
  have hcarried : ∀ a ∈ g.component start, h.Mutual (f start) (f a) := by
    intro a ha
    obtain ⟨hto, hback⟩ := (mem_component hg).1 ha
    exact ⟨reaches_map_of_mem_component hg hlinks hto hmem ha,
      reaches_map_of_mem_component hg hlinks hback ha hmem⟩
  refine (exists_mem_cycles (p := fun m => ∀ a ∈ g.component start, f a ∈ m)).2
    ⟨h.component (f start), (mem_cycleMembers hh).2 ⟨f start, ?_, rfl⟩, fun a ha => ?_⟩
  · exact (hcarried start hmem).1
  · exact (mem_component hh).2 (hcarried a ha)

/-- A graph has the cycles of its parts, at least where they were. -/
lemma exists_cycle_of_part (hg : g.EndsDeclared) (hh : h.EndsDeclared)
    (hlinks : ∀ a b weight, g.weight? a b = some weight → h.weight? a b = some weight) {c : Cycle}
    (hc : c ∈ g.cycles) : ∃ c' ∈ h.cycles, c.members ⊆ c'.members := by
  refine exists_cycle_of_map (f := id) hg hh hc fun a _ b _ hlink => ?_
  obtain ⟨weight, hweight⟩ := Option.ne_none_iff_exists'.1 hlink
  exact Option.ne_none_iff_exists'.2 ⟨weight, hlinks a b weight hweight⟩

/-! ## Renaming -/

variable {f : Entity → Option Entity}

/-- A link whose ends get names is a link between the new names. -/
lemma DependsOn.rename (hlink : g.DependsOn a b) {new new' : String}
    (ha : (g.image? f a).map Entity.name = some new) (hb : (g.image? f b).map Entity.name = some new') :
    (g.rename f).DependsOn new new' := by
  obtain ⟨d, hd, rfl, rfl⟩ := dependsOn_iff.1 hlink
  obtain ⟨s, hs, rfl⟩ := Option.map_eq_some_iff.1 ha
  obtain ⟨t, ht, rfl⟩ := Option.map_eq_some_iff.1 hb
  exact weight?_rename_ne_none.2 ⟨d, hd, ⟨s, hs, rfl⟩, t, ht, rfl⟩

/-- **A cycle whose members all get names** lies in a cycle of the renamed graph; if they all get one name,
this name depends on itself. -/
lemma exists_cycle_rename (hg : g.EndsDeclared) {c : Cycle} (hc : c ∈ g.cycles) {new : String → String}
    (hnew : ∀ a ∈ c.members, (g.image? f a).map Entity.name = some (new a)) :
    (∃ c' ∈ (g.rename f).cycles, ∀ a ∈ c.members, new a ∈ c'.members) ∧
      ∀ name, (∀ a ∈ c.members, new a = name) → (g.rename f).DependsOn name name := by
  have hlinks : ∀ a ∈ c.members, ∀ b ∈ c.members, g.DependsOn a b →
      (g.rename f).DependsOn (new a) (new b) :=
    fun a ha b hb hlink => hlink.rename (hnew a ha) (hnew b hb)
  refine ⟨exists_cycle_of_map hg (endsDeclared_rename f g) hc hlinks, fun name hone => ?_⟩
  obtain ⟨start, hmem, hmembers⟩ := exists_members_eq_component hg hc
  rw [hmembers] at hone hlinks
  obtain ⟨next, hnext, hlink⟩ := exists_dependsOn_component hg hmem
  have hself := hlinks start hmem next hnext hlink
  rwa [hone start hmem, hone next hnext] at hself

/-- A link between entities whose names do not become blank is a link after they are cut down. Its
new ends may be one entity. -/
lemma EndsDeclared.dependsOn_collapse (hg : g.EndsDeclared) {depth : ℕ} {separator : String}
    (hlink : g.DependsOn a b) (ha : isBlankName (Name.truncate a separator depth) = false)
    (hb : isBlankName (Name.truncate b separator depth) = false) :
    ((Rule.collapseDepth depth separator).apply g).DependsOn (Name.truncate a separator depth)
      (Name.truncate b separator depth) := by
  have hnew : ∀ a, g.contains a = true → isBlankName (Name.truncate a separator depth) = false →
      (g.image? (fun e => some (Rule.truncated depth separator e)) a).map Entity.name =
        some (Name.truncate a separator depth) := by
    intro a ha hblank
    obtain ⟨kind, hkind⟩ := Option.ne_none_iff_exists'.1 (contains_iff.1 ha)
    have himage : g.image? (fun e => some (Rule.truncated depth separator e)) a =
        some (Rule.truncated depth separator ⟨a, kind⟩) :=
      image?_eq_some.2 ⟨kind, hkind, rfl, hblank⟩
    rw [himage]
    rfl
  obtain ⟨hsource, htarget⟩ := hg.contains_of_dependsOn hlink
  exact hlink.rename (hnew a hsource ha) (hnew b htarget hb)

/-- Cutting names down leaves the cycles whose names do not become blank. -/
lemma exists_cycle_collapse (hg : g.EndsDeclared) {depth : ℕ} {separator : String} {c : Cycle}
    (hc : c ∈ g.cycles)
    (hnamed : ∀ a ∈ c.members, isBlankName (Name.truncate a separator depth) = false) :
    ∃ c' ∈ ((Rule.collapseDepth depth separator).apply g).cycles,
      ∀ a ∈ c.members, Name.truncate a separator depth ∈ c'.members :=
  exists_cycle_of_map hg (hg.apply _) hc fun a ha b hb hlink =>
    hg.dependsOn_collapse hlink (hnamed a ha) (hnamed b hb)

end Graph

/-! ## The first stage -/

namespace Settings

variable {s : Settings} {g : Graph} {pattern : Option Pattern}

/-- **Names that are cut down leave every cycle of the first stage visible**, unless one of its names becomes
blank or is dropped by the pattern afterwards.

**Proof sketch.** With and without names cut down, the stage drops the same entities and links before. What
the pattern drops afterwards are not the new names of the members, so their links are still there. -/
lemma exists_cycle_applyPre (hg : g.EndsDeclared) (hpattern : s.pattern? = .ok pattern)
    (hdepth : 0 < s.depth) :
    ∃ p p', Pipeline.ofSettings? { s with depth := 0 } = .ok p ∧ Pipeline.ofSettings? s = .ok p' ∧
      ∀ c ∈ (p.applyPre g).cycles,
        (∀ a ∈ c.members, isBlankName (Name.truncate a s.separator s.depth) = false ∧
          excludes pattern (Name.truncate a s.separator s.depth) = false) →
        ∃ c' ∈ (p'.applyPre g).cycles, ∀ a ∈ c.members, Name.truncate a s.separator s.depth ∈ c'.members := by
  obtain ⟨p, hp, hpre, -⟩ := exists_ofSettings?_eq_ok (s := { s with depth := 0 }) hpattern
  obtain ⟨p', hp', hpre', -⟩ := exists_ofSettings?_eq_ok hpattern
  refine ⟨p, p', hp, hp', fun c hc hnamed => ?_⟩
  -- What is dropped before does not depend on the depth, so both stages continue with the same graph.
  set g₁ := applyRules s.droppingRules g with hg₁
  have hdropped : g₁.EndsDeclared := hg.applyRules _
  have hplain : p.applyPre g = applyRules (pattern.toList.map .excludePattern) g₁ := by
    rw [Pipeline.applyPre, hpre, preRules, applyRules_append, applyRules_append]
    rfl
  have hcut : p'.applyPre g = applyRules (pattern.toList.map .excludePattern)
      ((Rule.collapseDepth s.depth s.separator).apply g₁) := by
    rw [Pipeline.applyPre, hpre', preRules, applyRules_append, applyRules_append, depthRule, if_pos hdepth,
      applyRules_singleton]
  rw [hplain] at hc
  rw [hcut]
  refine Graph.exists_cycle_of_map (hdropped.applyRules _) ((hdropped.apply _).applyRules _) hc
    fun a ha b hb hlink => ?_
  obtain ⟨hablank, hakept⟩ := hnamed a ha
  obtain ⟨hbblank, hbkept⟩ := hnamed b hb
  have hbefore : g₁.DependsOn a b := ((restricts_pattern hdropped pattern).dependsOn_iff.1 hlink).1
  have hafter := hdropped.dependsOn_collapse hbefore hablank hbblank
  exact (restricts_pattern (hdropped.apply _) pattern).dependsOn_iff.2 ⟨hafter, hakept, hbkept⟩

end Settings

/-! ## Both -/

/-- The report of a graph has its cycles. -/
lemma Report.cycles_ofGraph (g : Graph) : (Report.ofGraph g).cycles = g.cycles := rfl

namespace Graph

/-- **Dropping invents no cycle, and renaming hides none.** Each cycle of what is kept of a graph lies in a
cycle of the graph, whether entities or links were dropped. A cycle whose members all get names, none of them
blank, lies in one cycle of the renamed graph; where the members all get one name, this name depends on
itself. So the report of a graph with its names cut down shows every cycle of the report of the graph, unless
one of its names becomes blank; and settings that cut names down show every cycle that they show without
doing so, unless one of its names becomes blank or is dropped by the pattern. -/
theorem cycles_under_filters {g : Graph} (hg : g.EndsDeclared) :
    (∀ keep : Entity → Bool, ∀ c ∈ (g.retainEntities keep).cycles,
      ∃ c' ∈ g.cycles, c.members ⊆ c'.members) ∧
    (∀ keep : String → String → Bool, ∀ c ∈ (g.retainLinks keep).cycles,
      ∃ c' ∈ g.cycles, c.members ⊆ c'.members) ∧
    (∀ (f : Entity → Option Entity) (new : String → String), ∀ c ∈ g.cycles,
      (∀ a ∈ c.members, (g.image? f a).map Entity.name = some (new a)) →
      (∃ c' ∈ (g.rename f).cycles, ∀ a ∈ c.members, new a ∈ c'.members) ∧
        ∀ name, (∀ a ∈ c.members, new a = name) → (g.rename f).DependsOn name name) ∧
    (∀ (depth : ℕ) (separator : String), ∀ c ∈ (Report.ofGraph g).cycles,
      (∀ a ∈ c.members, isBlankName (Name.truncate a separator depth) = false) →
      ∃ c' ∈ (Report.ofGraph ((Rule.collapseDepth depth separator).apply g)).cycles,
        ∀ a ∈ c.members, Name.truncate a separator depth ∈ c'.members) ∧
    ∀ (s : Settings) (pattern : Option Pattern), s.pattern? = .ok pattern → 0 < s.depth →
      ∃ p p', Pipeline.ofSettings? { s with depth := 0 } = .ok p ∧ Pipeline.ofSettings? s = .ok p' ∧
        ∀ c ∈ (Report.ofGraph (p.applyPre g)).cycles,
          (∀ a ∈ c.members, isBlankName (Name.truncate a s.separator s.depth) = false ∧
            Settings.excludes pattern (Name.truncate a s.separator s.depth) = false) →
          ∃ c' ∈ (Report.ofGraph (p'.applyPre g)).cycles,
            ∀ a ∈ c.members, Name.truncate a s.separator s.depth ∈ c'.members := by
  refine ⟨fun keep c hc => ?_, fun keep c hc => ?_, fun f new c hc hnew => exists_cycle_rename hg hc hnew,
    fun depth separator c hc hnamed => exists_cycle_collapse hg hc hnamed,
    fun s pattern hpattern hdepth => Settings.exists_cycle_applyPre hg hpattern hdepth⟩
  · exact exists_cycle_of_part (endsDeclared_retainEntities keep g) hg
      (fun _ _ _ hweight => (weight?_retainEntities_eq_some.1 hweight).1) hc
  · exact exists_cycle_of_part (hg.retainLinks keep) hg
      (fun _ _ _ hweight => (weight?_retainLinks_eq_some.1 hweight).1) hc

/-- A cycle through two files of one crate, cut down to the name of the crate: it becomes a link from the
crate to itself and is reported as such, by the rule alone and by settings that ask for it. -/
theorem cycle_within_crate :
    let e : String → Entity := fun name => ⟨name, .module⟩
    let g := ofFacts [⟨e "app::read", e "app::show"⟩, ⟨e "app::show", e "app::read"⟩,
      ⟨e "app::show", e "std"⟩]
    let g' := (Rule.collapseDepth 1 "::").apply g
    g.EndsDeclared ∧ (∃ c ∈ g.cycles, c.members = ["app::read", "app::show"]) ∧
      g'.DependsOn "app" "app" ∧ (∃ c ∈ (Report.ofGraph g').cycles, "app" ∈ c.members) ∧
      ∃ p, Pipeline.ofSettings? { depth := 1 } = .ok p ∧
        ∃ c ∈ (Report.ofGraph (p.applyPre g)).cycles, "app" ∈ c.members := by
  intro e g g'
  have hg : g.EndsDeclared := (Reachable.ofFacts _).wellFormed.endsDeclared
  have hcycles : g.cycles = [⟨0, 2, ["app::read", "app::show"], 2⟩] := by decide +kernel
  have hcycle : ⟨0, 2, ["app::read", "app::show"], 2⟩ ∈ g.cycles := hcycles ▸ List.mem_singleton_self _
  have hreported : ⟨0, 2, ["app::read", "app::show"], 2⟩ ∈ (Report.ofGraph g).cycles := by
    rw [Report.cycles_ofGraph]
    exact hcycle
  have happ : Name.truncate "app::read" "::" 1 = "app" := by decide +kernel
  obtain ⟨-, -, hrename, hcollapse, hsettings⟩ := cycles_under_filters hg
  refine ⟨hg, ⟨_, hcycle, rfl⟩, ?_, ?_, ?_⟩
  · have hself := hrename (fun e => some (Rule.truncated 1 "::" e)) (fun _ => "app") _ hcycle
      (by decide +kernel)
    exact hself.2 "app" fun _ _ => rfl
  · obtain ⟨c, hc, hmem⟩ := hcollapse 1 "::" _ hreported (by decide +kernel)
    exact ⟨c, hc, happ ▸ hmem "app::read" List.mem_cons_self⟩
  · obtain ⟨p, p', hp, hp', hshown⟩ := hsettings { depth := 1 } none rfl Nat.one_pos
    obtain rfl : ⟨[], []⟩ = p := Except.ok.inj hp
    rw [Pipeline.applyPre, applyRules_nil] at hshown
    obtain ⟨c, hc, hmem⟩ := hshown _ hreported (by decide +kernel)
    exact ⟨p', hp', c, hc, happ ▸ hmem "app::read" List.mem_cons_self⟩

end Graph

end DepAtlas
