import DepAtlas.Filter.Pipeline
import DepAtlas.Proofs.Filter.Restriction
import DepAtlas.Proofs.Graph.Reachable

set_option relaxedAutoImplicit false
set_option autoImplicit false

/-!
# The first filter stage in one pass

The rules of the first stage are applied one after the other, each to what the one before left.
This file says in one formula what the whole stage makes of a graph: which of its dependencies are
admitted, onto which link each of them falls, and what weight a link has in the end.

## Main definitions

* `DepAtlas.Settings.passes`, `DepAtlas.Settings.admits` — the entities and the dependencies that
  are admitted.
* `DepAtlas.Settings.collapsed` — the name that an entity gets.
* `DepAtlas.Settings.fallen` — the admitted dependencies that fall onto a link.
* `DepAtlas.Settings.firstStage` — the stage with any predicate on names in the place of the pattern.

## Main results

* `DepAtlas.Settings.filter_stage_rulesWith` — the rules of the first stage.
* `DepAtlas.Settings.restricts_internals` and the lemmas after it — what each rule leaves.
* `DepAtlas.Settings.restricts_droppingRules` — what all rules leave that drop something.
* `DepAtlas.Settings.weight?_firstStage`, `DepAtlas.Settings.kind?_firstStage` — the stage for any
  predicate on names.
* `DepAtlas.Settings.applyPre_in_one_pass` — the whole stage.
-/

namespace DepAtlas

/-! ## Runs of rules -/

/-- No rules leave a graph as it is. -/
lemma applyRules_nil (g : Graph) : applyRules [] g = g := rfl

/-- A single rule is applied once. -/
lemma applyRules_singleton (rule : Rule) (g : Graph) : applyRules [rule] g = rule.apply g := rfl

/-- Rules behind others are applied to what these leave. -/
lemma applyRules_append (rules rules' : List Rule) (g : Graph) :
    applyRules (rules ++ rules') g = applyRules rules' (applyRules rules g) :=
  List.foldl_append

/-- Rules keep the invariant. -/
lemma Graph.Invariant.applyRules {least : ℕ} {g : Graph} (hg : g.Invariant least)
    (rules : List Rule) : (DepAtlas.applyRules rules g).Invariant least :=
  List.foldlRecOn rules _ (motive := Invariant least) hg fun _ hh rule _ => hh.apply rule

/-- Rules keep the ends of links declared. -/
lemma Graph.EndsDeclared.applyRules {g : Graph} (hg : g.EndsDeclared) (rules : List Rule) :
    (DepAtlas.applyRules rules g).EndsDeclared :=
  List.foldlRecOn rules _ (motive := EndsDeclared) hg fun _ hh rule _ => hh.apply rule

namespace Settings

/-! ## What is admitted -/

/-- Whether an entity does not belong to the language itself, or need not. What belongs to it is
told by the first segment of the name, for any list of prefixes. -/
def isOwn (s : Settings) (name : String) : Bool :=
  s.internals || s.internalPrefixes.isEmpty ||
    !s.internalPrefixes.contains (Name.root name s.separator)

/-- Whether an entity is known: its kind is, or it depends on one that does not belong to the
language. It is enough to look at the graph as it was before the stage. -/
def isKnown (s : Settings) (g : Graph) (name : String) : Bool :=
  !s.noExternal || (g.kind? name).any (· != .unknown) ||
    (g.dependenciesOf name).any fun d => s.isOwn d.target

/-- Whether an entity is in the namespace that the settings ask for. -/
def isInside (s : Settings) (name : String) : Bool :=
  (nonBlank? s.filterNamespace).all fun around => Name.isWithin name around s.separator

/-- Whether dependencies may start at an entity. -/
def mayStart (s : Settings) (name : String) : Bool :=
  (nonBlank? s.filterFrom).all fun around => Name.isWithin name around s.separator

/-- Whether an entity is admitted. -/
def passes (s : Settings) (g : Graph) (name : String) : Bool :=
  s.isOwn name && s.isKnown g name && s.isInside name

/-- Whether a link is admitted. Whether its source is known need not be asked. -/
def admits (s : Settings) (g : Graph) (source target : String) : Bool :=
  s.isOwn source && s.isOwn target && s.isKnown g target &&
    s.isInside source && s.isInside target && s.mayStart source

/-- The name that an entity gets. A depth of zero means that names are not cut down. -/
def collapsed (s : Settings) (name : String) : String :=
  if s.depth > 0 then Name.truncate name s.separator s.depth else name

/-- Whether a name is dropped by the pattern, if there is one. This is all that the stage has to do
with patterns. -/
def excludes (pattern : Option Pattern) (name : String) : Bool :=
  pattern.any (·.occursIn name)

/-- The admitted dependencies that fall onto a link when names are cut down. -/
def fallen (s : Settings) (g : Graph) (source target : String) : List Dependency :=
  g.dependencies.filter fun d =>
    s.admits g d.source d.target &&
      (s.collapsed d.source == source && s.collapsed d.target == target)

/-! ## The rules of the stage -/

/-- The rules that drop entities and links. -/
def droppingRules (s : Settings) : List Rule :=
  s.internalsRule ++ s.externalRule ++ s.namespaceRule ++ s.fromRule

/-- The rules of the first stage. -/
def preRules (s : Settings) (pattern : Option Pattern) : List Rule :=
  s.droppingRules ++ s.depthRule ++ pattern.toList.map .excludePattern

/-- All rules but the one for namespaces in the place of entities run in the first stage, in the
order in which they are listed. -/
lemma filter_stage_rulesWith (s : Settings) (pattern : Option Pattern) :
    (s.rulesWith pattern).filter (fun rule => rule.stage == .pre) = s.preRules pattern := by
  have hpre : ∀ rule ∈ s.preRules pattern, (rule.stage == .pre) = true := by
    intro rule hrule
    simp only [preRules, droppingRules, internalsRule, externalRule, namespaceRule, fromRule, depthRule,
      List.mem_append, List.mem_ite_nil_right, List.mem_singleton, List.mem_map] at hrule
    rcases hrule with (((((⟨-, rfl⟩ | ⟨-, rfl⟩) | ⟨_, -, rfl⟩) | ⟨_, -, rfl⟩) | ⟨-, rfl⟩) |
      ⟨_, -, rfl⟩) <;> rfl
  have hpost : s.classesRule.filter (fun rule => rule.stage == .pre) = [] := by
    unfold classesRule
    split <;> rfl
  rw [rulesWith, List.filter_append, hpost, List.append_nil]
  exact List.filter_eq_self.2 hpre

variable {least : ℕ} {s : Settings} {g h : Graph}

/-! ## Rules that drop something -/

/-- What belongs to the language goes, if the settings do not ask for it and name something that
belongs to it. -/
lemma restricts_internals (hg : g.Invariant least) :
    g.Restricts (applyRules s.internalsRule g) (fun name => s.isOwn name = true)
      fun source target => s.isOwn source = true ∧ s.isOwn target = true := by
  unfold internalsRule
  split
  · next hrule =>
    have hown : ∀ name, (!s.internalPrefixes.contains (Name.root name s.separator)) =
        s.isOwn name := by
      intro name
      simp only [Bool.and_eq_true, Bool.not_eq_true'] at hrule
      simp only [isOwn, hrule.1, hrule.2, Bool.false_or]
    rw [applyRules_singleton, Rule.apply]
    simp only [hown]
    exact .refl_retainEntities hg.endsDeclared fun _ _ _ => Iff.rfl
  · next hrule =>
    refine .refl_of_forall g fun name => ?_
    simp only [Bool.and_eq_true, Bool.not_eq_true', not_and_or, Bool.not_eq_false] at hrule
    rcases hrule with hrule | hrule
    · simp only [isOwn, hrule, Bool.true_or]
    · simp only [isOwn, hrule, Bool.true_or, Bool.or_true]

/-- Whether an entity is known can be seen in the graph as it was.

**Proof sketch.** In what is left of the graph, an entity has a dependency exactly if it had one on
an entity that does not belong to the language. -/
lemma restricts_external (hh : h.Invariant least)
    (hr : g.Restricts h (fun name => s.isOwn name = true)
      fun source target => s.isOwn source = true ∧ s.isOwn target = true) :
    g.Restricts (applyRules s.externalRule h)
      (fun name => s.isOwn name = true ∧ s.isKnown g name = true)
      fun source target => (s.isOwn source = true ∧ s.isOwn target = true) ∧
        s.isKnown g source = true ∧ s.isKnown g target = true := by
  unfold externalRule
  split
  · next hrule =>
    rw [applyRules_singleton, Rule.apply]
    refine hr.retainEntities hh.endsDeclared fun name kind hkind => ?_
    obtain ⟨hkind, hown⟩ := (hr.kind?_iff name kind).1 hkind
    have hdepends : h.hasDependencies name = true ↔
        ∃ d ∈ g.dependenciesOf name, s.isOwn d.target = true := by
      rw [Graph.hasDependencies_iff]
      refine exists_congr fun d => ?_
      rw [hr.mem_dependencies_iff, Graph.mem_dependenciesOf]
      constructor
      · rintro ⟨⟨hd, -, htarget⟩, hsource⟩
        exact ⟨⟨hd, hsource⟩, htarget⟩
      · rintro ⟨⟨hd, rfl⟩, htarget⟩
        exact ⟨⟨hd, hown, htarget⟩, rfl⟩
    rw [Bool.or_eq_true, hdepends, isKnown, hrule, hkind]
    simp
  · next hrule =>
    have hknown : ∀ name, s.isKnown g name = true := fun name => by simp [isKnown, hrule]
    refine hr.congr (fun name => ?_) fun source target _ => ?_
    · exact (and_iff_left (hknown name)).symm
    · exact (and_iff_left ⟨hknown source, hknown target⟩).symm

/-- Entities outside the namespace go. Without a namespace that the settings ask for, all of them
are inside. -/
lemma restricts_namespace {keep : String → Prop} {allow : String → String → Prop}
    (hh : h.Invariant least) (hr : g.Restricts h keep allow) :
    g.Restricts (applyRules s.namespaceRule h) (fun name => keep name ∧ s.isInside name = true)
      fun source target => allow source target ∧
        s.isInside source = true ∧ s.isInside target = true := by
  unfold namespaceRule isInside
  cases nonBlank? s.filterNamespace with
  | none => exact hr.congr (fun _ => by simp) fun _ _ _ => by simp
  | some around =>
    rw [Option.toList_some, List.map_singleton, applyRules_singleton, Rule.apply]
    exact hr.retainEntities hh.endsDeclared fun _ _ _ => Iff.rfl

/-- Links that start outside the other namespace go, and what is left without a link.

**Proof sketch.** Which entities are left depends on the graph that the rule is applied to: an
entity without links in it stays. Without the rule, every entity is an end of a link or of none. -/
lemma restricts_from {keep : String → Prop} {allow : String → String → Prop}
    (hr : g.Restricts h keep allow) :
    g.Restricts (applyRules s.fromRule h)
      (fun name => keep name ∧
        ((∃ d ∈ h.dependencies, s.mayStart d.source = true ∧
            (d.source = name ∨ d.target = name)) ∨
          ∀ d ∈ h.dependencies, d.source ≠ name ∧ d.target ≠ name))
      fun source target => allow source target ∧ s.mayStart source = true := by
  unfold fromRule mayStart
  cases nonBlank? s.filterFrom with
  | none =>
    refine hr.congr (fun name => (and_iff_left ?_).symm) fun _ _ _ => by simp
    -- Without the rule every source may start a link, so one of the two cases always holds.
    by_cases hend : ∃ d ∈ h.dependencies, d.source = name ∨ d.target = name
    · simpa using Or.inl hend
    · exact Or.inr fun d hd => not_or.1 fun hname => hend ⟨d, hd, hname⟩
  | some around => exact hr.retainLinks fun source _ => Name.isWithin source around s.separator

/-- An admitted entity that the last rule leaves: it is an end of an admitted link, or of no link
between admitted entities. So an entity goes whose links are all taken from it, while one that never
had a link stays. -/
def Remains (s : Settings) (g : Graph) (name : String) : Prop :=
  s.passes g name = true ∧
    ((∃ d ∈ g.dependencies, s.admits g d.source d.target = true ∧
        (d.source = name ∨ d.target = name)) ∨
      ∀ d ∈ g.dependencies, s.passes g d.source = true → s.passes g d.target = true →
        d.source ≠ name ∧ d.target ≠ name)

/-- A link is admitted if its ends are and it starts where it may: the source of a link to an
admitted entity is known anyway. -/
lemma admits_iff {source target : String} (hlink : g.DependsOn source target) :
    s.admits g source target = true ↔
      (s.passes g source = true ∧ s.passes g target = true) ∧ s.mayStart source = true := by
  have hsource : s.isOwn target = true → s.isKnown g source = true := by
    intro htarget
    obtain ⟨d, hd, rfl, rfl⟩ := Graph.dependsOn_iff.1 hlink
    have hany : (g.dependenciesOf d.source).any (fun d => s.isOwn d.target) = true :=
      List.any_eq_true.2 ⟨d, Graph.mem_dependenciesOf.2 ⟨hd, rfl⟩, htarget⟩
    rw [isKnown, hany, Bool.or_true]
  simp only [admits, passes, Bool.and_eq_true]
  constructor
  · rintro ⟨⟨⟨⟨⟨hs, ht⟩, hknown⟩, hs'⟩, ht'⟩, hstart⟩
    exact ⟨⟨⟨⟨hs, hsource ht⟩, hs'⟩, ⟨ht, hknown⟩, ht'⟩, hstart⟩
  · rintro ⟨⟨⟨⟨hs, -⟩, hs'⟩, ⟨ht, hknown⟩, ht'⟩, hstart⟩
    exact ⟨⟨⟨⟨⟨hs, ht⟩, hknown⟩, hs'⟩, ht'⟩, hstart⟩

/-- The rules that drop entities leave the admitted ones, and the links between these. The
conditions of the single rules are put together to the one for being admitted. -/
lemma restricts_passes (hg : g.Invariant least) (s : Settings) :
    g.Restricts (applyRules s.namespaceRule (applyRules s.externalRule
        (applyRules s.internalsRule g)))
      (fun name => s.passes g name = true)
      fun source target => s.passes g source = true ∧ s.passes g target = true := by
  have hinternals := restricts_internals (s := s) hg
  have hexternal := restricts_external (hg.applyRules _) hinternals
  have hnamespace := restricts_namespace (s := s) ((hg.applyRules _).applyRules _) hexternal
  refine hnamespace.congr (fun name => ?_) fun source target _ => ?_
  · simp only [passes, Bool.and_eq_true]
  · simp only [passes, Bool.and_eq_true]
    tauto

/-- **The rules that drop something leave the admitted links.**

**Proof sketch.** Before the last of these rules, the links that are left are those between admitted
entities. -/
theorem restricts_droppingRules (hg : g.Invariant least) (s : Settings) :
    g.Restricts (applyRules s.droppingRules g) (s.Remains g)
      fun source target => s.admits g source target = true := by
  have hpasses := restricts_passes hg s
  rw [droppingRules, applyRules_append, applyRules_append, applyRules_append]
  refine (restricts_from hpasses).congr (fun name => and_congr_right fun _ => ?_)
    fun source target hlink => (admits_iff hlink).symm
  have hadmits : ∀ d ∈ g.dependencies, s.admits g d.source d.target = true ↔
      (s.passes g d.source = true ∧ s.passes g d.target = true) ∧ s.mayStart d.source = true :=
    fun d hd => admits_iff (Graph.dependsOn_iff.2 ⟨d, hd, rfl, rfl⟩)
  simp only [hpasses.mem_dependencies_iff]
  refine or_congr (exists_congr fun d => ?_) (forall_congr' fun d => ?_)
  · rw [and_assoc]
    refine and_congr_right fun hd => ?_
    simp only [hadmits d hd, and_assoc]
  · rw [and_imp]
    exact forall_congr' fun _ => and_imp

/-! ## Dropping entities by name -/

/-- Entities go whose names a predicate holds for, and the links between them and others go with
them. -/
lemma restricts_dropped (hh : h.EndsDeclared) (dropped : String → Bool) :
    h.Restricts (h.retainEntities fun e => !dropped e.name) (fun name => dropped name = false)
      fun source target => dropped source = false ∧ dropped target = false :=
  .refl_retainEntities hh fun _ _ _ => by rw [Bool.not_eq_true']

/-- Entities in whose name the pattern occurs go. -/
lemma restricts_pattern (hh : h.EndsDeclared) (pattern : Option Pattern) :
    h.Restricts (applyRules (pattern.toList.map .excludePattern) h)
      (fun name => excludes pattern name = false)
      fun source target => excludes pattern source = false ∧ excludes pattern target = false := by
  cases pattern with
  | none => exact .refl_of_forall h fun _ => rfl
  | some pattern => exact restricts_dropped hh pattern.occursIn

/-! ## The rule that cuts names down -/

/-- Cutting names down gives every entity a new name, which depends on its name only. -/
lemma renamesBy_truncated (depth : ℕ) (separator : String) :
    Graph.RenamesBy (fun e => some (Rule.truncated depth separator e))
      fun name => Name.truncate name separator depth :=
  fun _ _ => rfl

/-- The weight of a link after names are cut down, if they are. If not, the link is the only one
that falls onto it. -/
lemma weight?_depthRule (hh : h.Invariant least) (source target : String) :
    (applyRules s.depthRule h).weight? source target =
      if isBlankName source = false ∧ isBlankName target = false then
        saturated ((h.dependencies.filter fun d =>
          s.collapsed d.source == source && s.collapsed d.target == target).map Dependency.weight)
      else none := by
  unfold depthRule collapsed
  split
  · exact Graph.weight?_rename_total (renamesBy_truncated s.depth s.separator) hh source target
  · rw [applyRules_nil, Graph.saturated_filter_link hh]
    split
    · rfl
    · next hblank =>
      refine Option.eq_none_iff_forall_ne_some.2 fun weight hw => hblank ?_
      obtain ⟨hs, ht⟩ := hh.kind?_ne_none hw
      exact ⟨hh.isBlankName_eq_false hs, hh.isBlankName_eq_false ht⟩

/-- The entities after names are cut down, if they are. -/
lemma kind?_depthRule (hh : h.Invariant least) {name : String} :
    (applyRules s.depthRule h).kind? name ≠ none ↔
      isBlankName name = false ∧ ∃ old, h.kind? old ≠ none ∧ s.collapsed old = name := by
  unfold depthRule collapsed
  split
  · exact Graph.kind?_rename_total (renamesBy_truncated s.depth s.separator)
  · rw [applyRules_nil]
    constructor
    · exact fun hname => ⟨hh.isBlankName_eq_false hname, name, hname, rfl⟩
    · rintro ⟨-, old, hold, rfl⟩
      exact hold

/-! ## The whole stage -/

/-- Settings whose pattern can be read describe a pipeline: its first stage has the rules above, and
its second stage has those that say so. -/
lemma exists_ofSettings?_eq_ok {pattern : Option Pattern} (hpattern : s.pattern? = .ok pattern) :
    ∃ p, Pipeline.ofSettings? s = .ok p ∧ p.pre = s.preRules pattern ∧
      p.post = (s.rulesWith pattern).filter fun rule => rule.stage == .post := by
  refine ⟨⟨(s.rulesWith pattern).filter fun rule => rule.stage == .pre,
    (s.rulesWith pattern).filter fun rule => rule.stage == .post⟩, ?_,
    s.filter_stage_rulesWith pattern, rfl⟩
  rw [Pipeline.ofSettings?, rules?, hpattern]
  rfl

/-- What the first stage makes of a graph if any predicate on names tells which entities go at its
end. The rules before it do not look at the pattern, so what is proved about this holds for any
notation of patterns. -/
def firstStage (s : Settings) (dropped : String → Bool) (g : Graph) : Graph :=
  (applyRules (s.droppingRules ++ s.depthRule) g).retainEntities fun e => !dropped e.name

/-- The weight of a link after the first stage, whatever the predicate is that drops names.

**Proof sketch.** The dependencies before names are cut down are the admitted ones. Cutting names
down sums up what falls onto a link, and the predicate drops whole links of that. -/
theorem weight?_firstStage (hg : g.Invariant least) (s : Settings) (dropped : String → Bool)
    (source target : String) :
    (s.firstStage dropped g).weight? source target =
      if isBlankName source = false ∧ isBlankName target = false ∧
          dropped source = false ∧ dropped target = false ∧ s.fallen g source target ≠ [] then
        some (min weightLimit ((s.fallen g source target).map Dependency.weight).sum)
      else none := by
  have hleft := hg.applyRules s.droppingRules
  have hfallen : (applyRules s.droppingRules g).dependencies.filter (fun d =>
      s.collapsed d.source == source && s.collapsed d.target == target) =
        s.fallen g source target := by
    rw [(restricts_droppingRules hg s).dependencies_eq fun _ _ => Iff.rfl, List.filter_filter,
      fallen]
    exact List.filter_congr fun d _ => Bool.and_comm _ _
  have hdropped := restricts_dropped (hleft.applyRules s.depthRule).endsDeclared dropped
  rw [firstStage, applyRules_append]
  refine Option.ext fun weight => ?_
  -- A saturated sum is missing only if nothing falls onto the link, as the formula says.
  rw [hdropped.weight?_iff, weight?_depthRule hleft, hfallen, saturated]
  simp only [List.map_eq_nil_iff, Option.ite_none_left_eq_some, Option.ite_none_right_eq_some,
    Option.some.injEq]
  tauto

/-- The entities after the first stage, whatever the predicate is that drops names. They are what the
remaining entities are called after their names are cut down. -/
theorem kind?_firstStage (hg : g.Invariant least) (s : Settings) (dropped : String → Bool)
    {name : String} :
    (s.firstStage dropped g).kind? name ≠ none ↔
      isBlankName name = false ∧ dropped name = false ∧
        ∃ old, g.kind? old ≠ none ∧ s.Remains g old ∧ s.collapsed old = name := by
  have hleft := hg.applyRules s.droppingRules
  have hdropped := restricts_dropped (hleft.applyRules s.depthRule).endsDeclared dropped
  rw [firstStage, applyRules_append, hdropped.kind?_ne_none_iff, kind?_depthRule hleft, and_assoc,
    and_comm (b := dropped name = false)]
  simp only [(restricts_droppingRules hg s).kind?_ne_none_iff, and_assoc]

/-- The rules of the first stage drop at its end what the pattern finds. Without a pattern nothing is
dropped there. -/
lemma applyRules_preRules (hg : g.Invariant least) (s : Settings) (pattern : Option Pattern) :
    applyRules (s.preRules pattern) g = s.firstStage (excludes pattern) g := by
  rw [preRules, applyRules_append, firstStage]
  have hleft := hg.applyRules (s.droppingRules ++ s.depthRule)
  cases pattern with
  | none =>
    exact ((restricts_dropped hleft.endsDeclared (excludes none)).eq_of_forall hleft
      (hleft.retainEntities _) (fun _ _ => rfl) fun _ _ _ => ⟨rfl, rfl⟩).symm
  | some pattern => rfl

/-- The entities after the first stage are the names that the remaining entities get, without blank
ones and those that the pattern finds. -/
lemma kind?_preRules (hg : g.Invariant least) (pattern : Option Pattern) {name : String} :
    (applyRules (s.preRules pattern) g).kind? name ≠ none ↔
      isBlankName name = false ∧ excludes pattern name = false ∧
        ∃ old, g.kind? old ≠ none ∧ s.Remains g old ∧ s.collapsed old = name := by
  rw [applyRules_preRules hg]
  exact kind?_firstStage hg s _

/-- **The first filter stage in one pass.** Settings whose pattern can be read describe a pipeline.
After its first stage a link is there exactly if its ends have names that the pattern does not drop
and some admitted dependency falls onto it, and its weight is the saturated sum of the weights of
all that do. The entities are the names that the remaining entities get, but for blank and dropped
ones. -/
theorem applyPre_in_one_pass (hg : g.Invariant least) {pattern : Option Pattern}
    (hpattern : s.pattern? = .ok pattern) :
    ∃ p, Pipeline.ofSettings? s = .ok p ∧
      (∀ source target, (p.applyPre g).weight? source target =
        if isBlankName source = false ∧ isBlankName target = false ∧
            excludes pattern source = false ∧ excludes pattern target = false ∧
            s.fallen g source target ≠ [] then
          some (min weightLimit ((s.fallen g source target).map Dependency.weight).sum)
        else none) ∧
      ∀ name, (p.applyPre g).contains name = true ↔
        isBlankName name = false ∧ excludes pattern name = false ∧
          ∃ old, g.contains old = true ∧ s.Remains g old ∧ s.collapsed old = name := by
  obtain ⟨p, hp, hpre, -⟩ := exists_ofSettings?_eq_ok hpattern
  refine ⟨p, hp, fun source target => ?_, fun name => ?_⟩
  · rw [Pipeline.applyPre, hpre, applyRules_preRules hg]
    exact weight?_firstStage hg s _ source target
  · simp only [Pipeline.applyPre, hpre, Graph.contains_iff]
    exact kind?_preRules hg pattern

/-- Two dependencies fall onto one link when names are cut down to two segments. An entity that is
known only by what it depends on stays, but one that the pattern finds goes. -/
theorem applyPre_two_segments :
    let e : String → Entity := fun name => ⟨name, .unknown⟩
    let g := Graph.ofFacts [⟨e "app::a::x", e "app::b::y"⟩, ⟨e "app::a::z", e "app::b::y"⟩,
      ⟨e "app::b::y", e "app::skip"⟩, ⟨e "app::skip", e "app::a::x"⟩, ⟨e "app::b::y", e "std::io"⟩]
    let s : Settings :=
      { internalPrefixes := ["std"], noExternal := true, filterNamespace := some " app ",
        depth := 2, excludeRegex := some "sk.p" }
    g.WellFormed ∧ s.pattern? = .ok (Pattern.read? "sk.p") ∧
      ∃ p, Pipeline.ofSettings? s = .ok p ∧
        (p.applyPre g).weight? "app::a" "app::b" = some 2 ∧
        (p.applyPre g).contains "app::skip" = false := by
  intro e g s
  have hg : g.WellFormed := (Graph.Reachable.ofFacts _).wellFormed
  have hpattern : s.pattern? = .ok (Pattern.read? "sk.p") := by
    have hread : (Pattern.read? "sk.p").isSome = true := by decide +kernel
    have htrimmed : nonBlank? s.excludeRegex = some "sk.p" := by decide +kernel
    obtain ⟨pattern, hpattern⟩ := Option.isSome_iff_exists.1 hread
    simp only [Settings.pattern?, htrimmed, hpattern]
  obtain ⟨p, hp, hweight, hcontains⟩ := applyPre_in_one_pass hg hpattern
  refine ⟨hg, hpattern, p, hp, ?_, Bool.eq_false_iff.2 fun hmem => ?_⟩
  · rw [hweight]
    decide +kernel
  · obtain ⟨-, hexcludes, -⟩ := (hcontains _).1 hmem
    exact absurd hexcludes (by decide +kernel)

end Settings

end DepAtlas
