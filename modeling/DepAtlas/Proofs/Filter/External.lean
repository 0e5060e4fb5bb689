import DepAtlas.Proofs.Filter.Stage
import DepAtlas.Proofs.Source.Declared

set_option relaxedAutoImplicit false
set_option autoImplicit false

/-!
# What the analysed code does not own

The rule against what the analysed code does not own keeps every entity that a dependency starts at, of
known kind or not. In the graph of an analysis dependencies start at known entities, so only what some file
declares is left, also if other rules come in between. On such a graph all rules of the first stage that
drop something have nothing left to do when they are applied again.

## Main results

* `DepAtlas.Settings.exists_owned_of_kind?_preRules` — where the entities of the first stage come from.
* `DepAtlas.Settings.applyRules_preRules_of_settled` — when the first stage changes nothing.
* `DepAtlas.Settings.no_external_keeps_declared` — the first stage after an analysis.
-/

namespace DepAtlas

variable {least : ℕ} {g h : Graph}

namespace Settings

variable {s : Settings} {pattern : Option Pattern} {owns : String → Prop}

/-! ## Admitted entities -/

/-- Of a graph in which dependencies start at known entities, only known ones are admitted. -/
lemma knows_of_passes (howned : g.Owned owns) (hexternal : s.noExternal = true) {name : String}
    (h : s.passes g name = true) : g.Knows name := by
  simp only [passes, isKnown, hexternal, Bool.not_true, Bool.false_or, Bool.and_eq_true,
    Bool.or_eq_true, Option.any_eq_true, bne_iff_ne, List.any_eq_true] at h
  obtain ⟨⟨-, ⟨kind, hkind, hne⟩ | ⟨d, hd, -⟩⟩, -⟩ := h
  · exact ⟨kind, hkind, hne⟩
  · obtain ⟨hmem, rfl⟩ := Graph.mem_dependenciesOf.1 hd
    exact howned.knows_source d.source d.target (Graph.dependsOn_iff.2 ⟨d, hmem, rfl, rfl⟩)

/-- A known entity counts as known for the rules. -/
lemma isKnown_of_knows {name : String} (h : g.Knows name) : s.isKnown g name = true := by
  obtain ⟨kind, hkind, hne⟩ := h
  simp [isKnown, hkind, hne]

/-- An entity of the first stage gets its name from one that is known and owned. -/
lemma exists_owned_of_kind?_preRules (hg : g.Invariant least) (howned : g.Owned owns)
    (hexternal : s.noExternal = true) {name : String}
    (hname : (applyRules (s.preRules pattern) g).kind? name ≠ none) :
    ∃ old, g.Knows old ∧ owns old ∧ s.collapsed old = name := by
  obtain ⟨-, -, old, -, ⟨hpasses, -⟩, hcollapsed⟩ := (kind?_preRules hg pattern).1 hname
  have hknows := knows_of_passes howned hexternal hpasses
  exact ⟨old, hknows, howned.owns_of_knows old hknows, hcollapsed⟩

/-! ## Without names cut down -/

/-- If no names are cut down, the first stage drops entities and links, and changes nothing else.
What is left is given by the conditions of the rules and of the pattern together. -/
lemma restricts_preRules (hg : g.Invariant least) (hdepth : s.depth = 0) (pattern : Option Pattern) :
    g.Restricts (applyRules (s.preRules pattern) g)
      (fun name => s.Remains g name ∧ excludes pattern name = false)
      fun source target => s.admits g source target = true ∧
        excludes pattern source = false ∧ excludes pattern target = false := by
  have hnone : s.depthRule = [] := by simp [depthRule, hdepth]
  have hdropped := restricts_droppingRules hg s
  have hpattern := restricts_pattern (hg.applyRules s.droppingRules).endsDeclared pattern
  rw [preRules, hnone, List.append_nil, applyRules_append]
  refine ⟨fun name kind => ?_, fun source target weight => ?_⟩
  · rw [hpattern.kind?_iff, hdropped.kind?_iff, and_assoc]
  · rw [hpattern.weight?_iff, hdropped.weight?_iff, and_assoc]

/-- A graph has nothing in it that the rules of the first stage drop. Applying them to it again is
then without effect. -/
structure Settled (s : Settings) (pattern : Option Pattern) (g : Graph) : Prop where
  entity : ∀ name, g.kind? name ≠ none →
    s.isOwn name = true ∧ g.Knows name ∧ s.isInside name = true ∧ excludes pattern name = false
  start : ∀ source target, g.DependsOn source target → s.mayStart source = true

/-- **The first stage does not change a graph that has nothing in it to drop.**

**Proof sketch.** All entities and all links are admitted. So an entity with a link keeps it, and one
without a link is left alone by the rule for links. -/
theorem applyRules_preRules_of_settled (hg : g.Invariant least) (hdepth : s.depth = 0)
    (hsettled : s.Settled pattern g) : applyRules (s.preRules pattern) g = g := by
  have hpasses : ∀ name, g.kind? name ≠ none → s.passes g name = true := by
    intro name hname
    obtain ⟨hown, hknows, hinside, -⟩ := hsettled.entity name hname
    simp only [passes, hown, isKnown_of_knows hknows, hinside, Bool.and_self]
  have hends : ∀ source target, g.DependsOn source target →
      g.kind? source ≠ none ∧ g.kind? target ≠ none := by
    intro source target hlink
    obtain ⟨weight, hweight⟩ := Option.ne_none_iff_exists'.1 hlink
    exact hg.kind?_ne_none hweight
  have hadmits : ∀ source target, g.DependsOn source target → s.admits g source target = true := by
    intro source target hlink
    obtain ⟨hs, ht⟩ := hends source target hlink
    exact (admits_iff hlink).2 ⟨⟨hpasses source hs, hpasses target ht⟩,
      hsettled.start source target hlink⟩
  refine (restricts_preRules hg hdepth pattern).eq_of_forall hg (hg.applyRules _)
    (fun name hname => ⟨⟨hpasses name hname, ?_⟩, (hsettled.entity name hname).2.2.2⟩)
    fun source target hlink => ?_
  · by_cases hend : ∃ d ∈ g.dependencies, d.source = name ∨ d.target = name
    · obtain ⟨d, hd, hname⟩ := hend
      exact Or.inl ⟨d, hd, hadmits _ _ (Graph.dependsOn_iff.2 ⟨d, hd, rfl, rfl⟩), hname⟩
    · exact Or.inr fun d hd _ _ => not_or.1 fun hname => hend ⟨d, hd, hname⟩
  · obtain ⟨hs, ht⟩ := hends source target hlink
    exact ⟨hadmits source target hlink, (hsettled.entity source hs).2.2.2,
      (hsettled.entity target ht).2.2.2⟩

/-- What the first stage leaves of a graph in which dependencies start at known entities has nothing
in it to drop.

**Proof sketch.** Entities and links of the outcome satisfied all conditions in the graph they come
from. The conditions are about names, except that an entity has to be known, and here it is so by
its own kind, which is not lost. -/
lemma settled_applyRules_preRules (hg : g.Invariant least) (howned : g.Owned owns)
    (hexternal : s.noExternal = true) (hdepth : s.depth = 0) :
    s.Settled pattern (applyRules (s.preRules pattern) g) := by
  have hr := restricts_preRules hg hdepth pattern
  refine ⟨fun name hname => ?_, fun source target hlink => ?_⟩
  · obtain ⟨-, ⟨hpasses, -⟩, hexcludes⟩ := hr.kind?_ne_none_iff.1 hname
    obtain ⟨kind, hkind, hne⟩ := knows_of_passes howned hexternal hpasses
    have hleft : (applyRules (s.preRules pattern) g).Knows name := by
      obtain ⟨kind', hkind'⟩ := Option.ne_none_iff_exists'.1 hname
      obtain rfl : kind' = kind :=
        Option.some.inj (((hr.kind?_iff name kind').1 hkind').1.symm.trans hkind)
      exact ⟨kind', hkind', hne⟩
    simp only [passes, Bool.and_eq_true] at hpasses
    exact ⟨hpasses.1.1, hleft, hpasses.2, hexcludes⟩
  · obtain ⟨weight, hweight⟩ := Option.ne_none_iff_exists'.1 hlink
    obtain ⟨-, hadmits, -⟩ := (hr.weight?_iff source target weight).1 hweight
    simp only [admits, Bool.and_eq_true] at hadmits
    exact hadmits.2

/-! ## After an analysis -/

/-- The rules of a pipeline before the last stage are those of its settings. -/
lemma exists_pre_eq_of_ofSettings?_eq_ok {p : Pipeline} (hp : Pipeline.ofSettings? s = .ok p) :
    ∃ pattern, p.pre = s.preRules pattern := by
  cases hpattern : s.pattern? with
  | error e =>
    simp [Pipeline.ofSettings?, rules?, hpattern, Except.map] at hp
  | ok pattern =>
    obtain ⟨p', hp', hpre, -⟩ := exists_ofSettings?_eq_ok hpattern
    obtain rfl := Except.ok.inj (hp'.symm.trans hp)
    exact ⟨pattern, hpre⟩

/-- **Without what is external, only analysed code is left.** If no source file has a syntax error, there
is a graph of all of them. If the settings drop what the analysed code does not own, then whatever else
they ask for, each entity of this graph after the first stage is one that some file declares, as its module
or as one of its items, and its kind is known; and the first stage changes nothing if it is applied again.
If names are cut down, each entity has the cut name of one that some file declares. -/
theorem no_external_keeps_declared {w : World} {paths : List String} {p : Pipeline}
    (hsound : ∀ path ∈ paths, Source.IsSound w path) (hexternal : s.noExternal = true)
    (hp : Pipeline.ofSettings? s = .ok p) :
    ∃ g, Source.analyse w paths = .ok g ∧
      (s.depth = 0 →
        (∀ e ∈ (p.applyPre g).entities, Source.Declared w paths e.name ∧ e.kind ≠ .unknown) ∧
          p.applyPre (p.applyPre g) = p.applyPre g) ∧
      (0 < s.depth →
        ∀ e ∈ (p.applyPre g).entities, ∃ name, Source.Declared w paths name ∧
          e.name = Name.truncate name s.separator s.depth) := by
  have hanalyse := Source.analyse_eq_ok_iff.2 ⟨hsound, rfl⟩
  have hg : (Graph.total (paths.map (Source.fileGraph w))).Regular :=
    Graph.regular_total fun _ => Source.regular_of_mem_map_fileGraph
  have howned := Source.owned_analyse hanalyse
  obtain ⟨pattern, hpre⟩ := exists_pre_eq_of_ofSettings?_eq_ok hp
  have horigin : ∀ e ∈ (p.applyPre (.total (paths.map (Source.fileGraph w)))).entities,
      ∃ old, Source.Declared w paths old ∧ s.collapsed old = e.name := by
    intro e he
    rw [Pipeline.applyPre, hpre, Graph.mem_entities] at he
    obtain ⟨old, -, hdeclared, hcollapsed⟩ := exists_owned_of_kind?_preRules hg howned hexternal
      (he ▸ Option.some_ne_none e.kind)
    exact ⟨old, hdeclared, hcollapsed⟩
  refine ⟨_, hanalyse, fun hdepth => ⟨fun e he => ⟨?_, ?_⟩, ?_⟩, fun hdepth e he => ?_⟩
  · obtain ⟨old, hdeclared, hcollapsed⟩ := horigin e he
    have hsame : s.collapsed old = old := by simp [collapsed, hdepth]
    rwa [← hcollapsed, hsame]
  · rw [Pipeline.applyPre, hpre, Graph.mem_entities] at he
    obtain ⟨-, ⟨kind, hkind, hne⟩, -⟩ := (settled_applyRules_preRules hg howned hexternal hdepth).entity
      e.name (he ▸ Option.some_ne_none e.kind)
    obtain rfl := Option.some.inj (he.symm.trans hkind)
    exact hne
  · rw [Pipeline.applyPre, Pipeline.applyPre, hpre]
    exact applyRules_preRules_of_settled (hg.applyRules _) hdepth
      (settled_applyRules_preRules hg howned hexternal hdepth)
  · obtain ⟨old, hdeclared, hcollapsed⟩ := horigin e he
    refine ⟨old, hdeclared, ?_⟩
    rw [← hcollapsed, collapsed, if_pos hdepth]

/-- Of a name that no file declares and one that a second file does, only the second is left, with the
module that uses both. -/
theorem external_name_goes :
    let w : World :=
      { files := .directory [("lib.rs", .file "use crate::a::Thing;\nuse other::Thing;".toUTF8),
          ("a.rs", .file "pub struct Thing;".toUTF8)] }
    let s : Settings := { noExternal := true }
    ∃ g p, Source.analyse w ["lib.rs", "a.rs"] = .ok g ∧ Pipeline.ofSettings? s = .ok p ∧
      g.contains "other::Thing" = true ∧
      (p.applyPre g).names = ["crate", "crate::a", "crate::a::Thing"] ∧
      (∀ e ∈ (p.applyPre g).entities,
        Source.Declared w ["lib.rs", "a.rs"] e.name ∧ e.kind ≠ .unknown) ∧
      p.applyPre (p.applyPre g) = p.applyPre g := by
  intro w s
  have hok : (Source.analyse w ["lib.rs", "a.rs"]).isOk = true := by decide +kernel
  have hsound : ∀ path ∈ ["lib.rs", "a.rs"], Source.IsSound w path := by
    cases hg : Source.analyse w ["lib.rs", "a.rs"] with
    | error e =>
      rw [hg] at hok
      exact nomatch hok
    | ok g => exact (Source.analyse_eq_ok_iff.1 hg).1
  have hpattern : s.pattern? = .ok none := rfl
  obtain ⟨p, hp, hpre, -⟩ := exists_ofSettings?_eq_ok hpattern
  obtain ⟨g, hg, hzero, -⟩ := no_external_keeps_declared hsound rfl hp
  obtain ⟨hentities, hagain⟩ := hzero rfl
  have hnames : (Source.analyse w ["lib.rs", "a.rs"]).toOption.map
      (fun g => (g.contains "other::Thing", (applyRules (s.preRules none) g).names)) =
        some (true, ["crate", "crate::a", "crate::a::Thing"]) := by
    decide +kernel
  rw [hg] at hnames
  obtain ⟨hcontains, hleft⟩ := Prod.mk.inj (Option.some.inj hnames)
  refine ⟨g, p, hg, hp, hcontains, ?_, hentities, hagain⟩
  rw [Pipeline.applyPre, hpre]
  exact hleft

end Settings

end DepAtlas
