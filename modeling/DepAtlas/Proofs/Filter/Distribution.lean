import DepAtlas.Proofs.Filter.Stage

set_option relaxedAutoImplicit false
set_option autoImplicit false

/-!
# Filtering distributes over merging

Two graphs may be merged and then filtered, or filtered and then merged. Rules that decide about an
entity by its name alone drop the same entities of both graphs and of their merge. A renaming that
respects the join of kinds puts the same links together on both sides, so that summed weights agree
even where they stop at the greatest weight.

## Main definitions

* `DepAtlas.Graph.RespectsJoin` — a renaming for which it is all the same whether kinds are joined
  before or after it.
* `DepAtlas.Rule.DistributesOver` — a rule for which it is all the same whether graphs are merged
  before or after it.

## Main results

* `DepAtlas.Graph.Restricts.merge` — parts of two graphs given by the same conditions.
* `DepAtlas.Graph.rename_merge` — a renaming that respects joins distributes over sums of graphs.
* `DepAtlas.Settings.firstStage_merge` — so does the first stage, for any predicate on names.
* `DepAtlas.Settings.stages_distribute_over_merge` — so do both filter stages.
-/

namespace DepAtlas

namespace Graph

variable {least : ℕ} {g h : Graph}

/-! ## Parts -/

/-- **Parts of two graphs given by the same conditions**, merged, are the part of the merge given by
these conditions.

**Proof sketch.** Where the condition on a name holds, its kinds in the parts are those in the
graphs, and where it does not hold, the parts have none. The same goes for links. -/
theorem Restricts.merge {g' h' m : Graph} {keep : String → Prop}
    {allow : String → String → Prop} {policy : Policy} (hg : g.Restricts g' keep allow)
    (hh : h.Restricts h' keep allow) (hm : (g.merge h policy).Restricts m keep allow)
    (hinv : h.Invariant least) (hinv' : h'.Invariant least) (hrows : m.rows.NoEmpty)
    (hrows' : (g'.merge h' policy).rows.NoEmpty) : m = g'.merge h' policy := by
  refine ext_of_views hrows hrows' (fun name => ?_) fun source target => ?_
  · rw [kind?_merge g' hinv']
    by_cases hkeep : keep name
    · have hpart : ∀ {g h : Graph}, g.Restricts h keep allow → h.kind? name = g.kind? name :=
        fun hr => Option.ext fun kind => (hr.kind?_iff name kind).trans (and_iff_left hkeep)
      rw [hpart hm, hpart hg, hpart hh, kind?_merge g hinv]
    · have hpart : ∀ {g h : Graph}, g.Restricts h keep allow → h.kind? name = none :=
        fun hr => not_ne_iff.1 fun hname => hkeep (hr.kind?_ne_none_iff.1 hname).2
      rw [hpart hm, hpart hg, hpart hh, Option.merge_none_left]
  · rw [weight?_merge]
    by_cases hallow : allow source target
    · have hpart : ∀ {g h : Graph}, g.Restricts h keep allow →
          h.weight? source target = g.weight? source target := fun hr =>
        Option.ext fun weight => (hr.weight?_iff source target weight).trans (and_iff_left hallow)
      rw [hpart hm, hpart hg, hpart hh, weight?_merge]
    · have hpart : ∀ {g h : Graph}, g.Restricts h keep allow → h.weight? source target = none :=
        fun hr => Option.eq_none_iff_forall_ne_some.2 fun weight hw =>
          hallow ((hr.weight?_iff source target weight).1 hw).2
      rw [hpart hm, hpart hg, hpart hh, Option.merge_none_left]

/-- Dropping entities by their names distributes over merging. Whether an entity stays is the same
question in both graphs and in their merge. -/
lemma retainEntities_merge (hg : g.Invariant least) (hh : h.Invariant least) (policy : Policy)
    (p : String → Bool) :
    (g.merge h policy).retainEntities (fun e => p e.name) =
      (g.retainEntities fun e => p e.name).merge (h.retainEntities fun e => p e.name) policy := by
  have hpart : ∀ {g : Graph}, g.Invariant least →
      g.Restricts (g.retainEntities fun e => p e.name) (fun name => p name = true)
        fun source target => p source = true ∧ p target = true :=
    fun hg => .refl_retainEntities hg.endsDeclared fun _ _ _ => Iff.rfl
  have hmerge := hg.merge hh policy
  exact (hpart hg).merge (hpart hh) (hpart hmerge) hh (hh.retainEntities _)
    (hmerge.retainEntities _).noEmptyRow
    ((hg.retainEntities _).merge (hh.retainEntities _) policy).noEmptyRow

/-! ## Renamings -/

/-- The new name of an entity does not depend on its kind, and joined kinds have joined new kinds. A
renaming that looked at kinds could put an entity in two places in two graphs, and in a third one in
their merge. -/
def RespectsJoin (f : Entity → Option Entity) : Prop :=
  ∀ name, ∃ (new : Option String) (renamed : Kind → Kind),
    (∀ k l, renamed (k.join l) = (renamed k).join (renamed l)) ∧
    ∀ kind, f ⟨name, kind⟩ = new.map fun name => ⟨name, renamed kind⟩

/-- The kind that an entity of the graph brings to a new name. -/
def broughtKind (f : Entity → Option Entity) (g : Graph) (name old : String) : Option Kind :=
  (g.image? f old).bind fun e => if e.name = name then some e.kind else none

/-- Whether an entity of the graph gets the new name. -/
def getsName (f : Entity → Option Entity) (g : Graph) (name old : String) : Bool :=
  (g.image? f old).any (·.name == name)

/-- The weight that a link of the graph brings to a new link. -/
def broughtWeight (f : Entity → Option Entity) (g : Graph) (source target : String)
    (link : String × String) : Option ℕ :=
  if g.getsName f source link.1 && g.getsName f target link.2 then g.weight? link.1 link.2 else none

variable {f : Entity → Option Entity}

/-- The kind of a new name is gathered from any list that has all entities. -/
lemma kind?_rename_eq_gather {names : List String} (hn : names.Nodup)
    (hnames : ∀ old, g.kind? old ≠ none → old ∈ names) (name : String) :
    (g.rename f).kind? name = gather Kind.join (names.map (g.broughtKind f name)) := by
  rw [kind?_rename, gather_map_filterMap]
  refine gather_map_eq_of_nodup Kind.join g.nodup_names hn fun old hold => ?_
  have hdeclared : g.kind? old ≠ none := by
    intro hnone
    refine hold ?_
    rw [image?, hnone]
    rfl
  exact iff_of_true (mem_names_iff.2 hdeclared) (hnames old hdeclared)

/-- A link brings no more than its own weight. -/
lemma broughtWeight_eq_some {source target : String} {link : String × String} {weight : ℕ}
    (hw : g.broughtWeight f source target link = some weight) :
    g.weight? link.1 link.2 = some weight := by
  unfold broughtWeight at hw
  exact (Option.ite_none_right_eq_some.1 hw).2

/-- The weight of a new link is gathered from any list that has all links.

**Proof sketch.** The saturated sum over the dependencies that fall onto the link is what its links
bring, summed one after the other; links of the list that the graph does not have bring nothing. -/
lemma weight?_rename_eq_gather (hg : g.Invariant least) {links : List (String × String)}
    (hl : links.Nodup)
    (hlinks : ∀ source target, g.weight? source target ≠ none → (source, target) ∈ links)
    (source target : String) :
    (g.rename f).weight? source target =
      gather Policy.sum.combine (links.map (g.broughtWeight f source target)) := by
  have hpreimages : (g.preimages f source target).map Dependency.weight =
      ((g.dependencies.map fun d => (d.source, d.target)).map
        (g.broughtWeight f source target)).reduceOption := by
    rw [List.map_map, preimages, ← reduceOption_map_ite]
    refine congrArg _ (List.map_congr_left fun d hd => ?_)
    rw [Function.comp_apply, broughtWeight, mem_dependencies.1 hd]
    rfl
  rw [weight?_rename f (fun d hd => (hg.weight_mem d hd).2), hpreimages, ← gather_sum]
  · refine gather_map_eq_of_nodup _ g.nodup_links hl fun link hbrought => ?_
    obtain ⟨s, t⟩ := link
    obtain ⟨w, hw⟩ := Option.ne_none_iff_exists'.1 hbrought
    have hw : g.weight? s t = some w := broughtWeight_eq_some hw
    refine iff_of_true (List.mem_map.2 ⟨⟨s, t, w⟩, mem_dependencies.2 hw, rfl⟩) (hlinks s t ?_)
    simp [hw]
  · intro w hw
    obtain ⟨link, -, hbrought⟩ := List.mem_map.1 hw
    exact (hg.weight?_mem (broughtWeight_eq_some hbrought)).2

/-- What a renaming that respects joins makes of all entities of one name. -/
lemma RespectsJoin.exists_newEntity?_eq (hf : RespectsJoin f) (name : String) :
    ∃ (new : Option String) (renamed : Kind → Kind),
      (∀ k l, renamed (k.join l) = (renamed k).join (renamed l)) ∧
      ∀ kind, newEntity? f ⟨name, kind⟩ = new.map fun name => ⟨name, renamed kind⟩ := by
  obtain ⟨new, renamed, hjoin, hf⟩ := hf name
  refine ⟨new.filter fun name => !isBlankName name, renamed, hjoin, fun kind => ?_⟩
  rw [newEntity?, hf]
  cases new with
  | none => rfl
  | some name => cases hblank : isBlankName name <;> simp [Entity.isBlank, Option.filter, hblank]

/-- What a renaming that respects joins makes of an entity of a graph: the new name if there is one
that is not blank, whatever the kind is. -/
lemma RespectsJoin.image?_eq (hf : RespectsJoin f) (old : String) :
    ∃ (new : Option String) (renamed : Kind → Kind),
      (∀ k l, renamed (k.join l) = (renamed k).join (renamed l)) ∧
      ∀ g : Graph, g.image? f old = new.bind fun name => (g.kind? old).map fun kind =>
        ⟨name, renamed kind⟩ := by
  obtain ⟨new, renamed, hjoin, hnew⟩ := hf.exists_newEntity?_eq old
  refine ⟨new, renamed, hjoin, fun g => ?_⟩
  rw [image?_eq_bind]
  cases hkind : g.kind? old <;> cases new <;> simp [hnew]

/-- An entity of a merge brings what it brings in both graphs.

**Proof sketch.** Its new name is the same in all of them, and its new kind in the merge is the join
of its new kinds in the two graphs. -/
lemma broughtKind_merge (hf : RespectsJoin f) (g : Graph) (hh : h.Invariant least)
    (policy : Policy) (name old : String) :
    (g.merge h policy).broughtKind f name old =
      (g.broughtKind f name old).merge Kind.join (h.broughtKind f name old) := by
  obtain ⟨new, renamed, hjoin, himage⟩ := hf.image?_eq old
  have hbrought : ∀ g : Graph, g.broughtKind f name old =
      if new = some name then (g.kind? old).map renamed else none := by
    intro g
    rw [broughtKind, himage]
    cases new <;> cases g.kind? old <;> simp
  rw [hbrought, hbrought, hbrought, kind?_merge g hh]
  split
  · cases g.kind? old <;> cases h.kind? old <;> simp [hjoin]
  · rfl

/-- A link of a merge brings what it brings in both graphs.

**Proof sketch.** Where a link is there, its ends are entities, so whether they get the names of the
new link depends on the renaming only and not on the graph. -/
lemma broughtWeight_merge (hf : RespectsJoin f) (hg : g.Invariant least) (hh : h.Invariant least)
    (policy : Policy) (source target : String) (link : String × String) :
    (g.merge h policy).broughtWeight f source target link =
      (g.broughtWeight f source target link).merge policy.combine
        (h.broughtWeight f source target link) := by
  obtain ⟨s, _, -, hs⟩ := hf.image?_eq link.1
  obtain ⟨t, _, -, ht⟩ := hf.image?_eq link.2
  have hbrought : ∀ {k : Graph}, k.Invariant least → k.broughtWeight f source target link =
      if s = some source ∧ t = some target then k.weight? link.1 link.2 else none := by
    intro k hk
    rw [broughtWeight, getsName, getsName, hs, ht]
    cases hw : k.weight? link.1 link.2 with
    | none => simp
    | some w =>
      obtain ⟨hsource, htarget⟩ := hk.kind?_ne_none hw
      obtain ⟨_, hsource⟩ := Option.ne_none_iff_exists'.1 hsource
      obtain ⟨_, htarget⟩ := Option.ne_none_iff_exists'.1 htarget
      cases s <;> cases t <;> simp [hsource, htarget]
  rw [hbrought (hg.merge hh policy), hbrought hg, hbrought hh, weight?_merge]
  split
  · rfl
  · rfl

/-- **Renaming distributes over sums of graphs** if it respects the join of kinds.

**Proof sketch.** Both kinds and weights are gathered from lists that have all entities and all
links of the merge. Every entry of these lists brings what it brings in both graphs, and gathering
does not depend on the order. -/
theorem rename_merge (hf : RespectsJoin f) (hg : g.Invariant least) (hh : h.Invariant least) :
    (g.merge h .sum).rename f = (g.rename f).merge (h.rename f) .sum := by
  have hmerge := hg.merge hh .sum
  refine ext_of_views (hmerge.rename f).noEmptyRow ((hg.rename f).merge (hh.rename f) .sum).noEmptyRow
    (fun name => ?_) fun source target => ?_
  · have hnames : ∀ old, (g.merge h .sum).kind? old ≠ none → old ∈ (g.merge h .sum).names :=
      fun old => mem_names_iff.2
    have hn := (g.merge h .sum).nodup_names
    have hnames₁ : ∀ old, g.kind? old ≠ none → old ∈ (g.merge h .sum).names :=
      fun old hold => hnames old (by simp [kind?_merge g hh, hold])
    have hnames₂ : ∀ old, h.kind? old ≠ none → old ∈ (g.merge h .sum).names :=
      fun old hold => hnames old (by simp [kind?_merge g hh, hold])
    rw [kind?_merge _ (hh.rename f), kind?_rename_eq_gather hn hnames,
      kind?_rename_eq_gather hn hnames₁, kind?_rename_eq_gather hn hnames₂, ← gather_map_merge]
    exact congrArg _ (List.map_congr_left fun old _ => broughtKind_merge hf g hh .sum name old)
  · have hlinks : ∀ s t, (g.merge h .sum).weight? s t ≠ none →
        (s, t) ∈ (g.merge h .sum).dependencies.map fun d => (d.source, d.target) := fun _ _ => mem_links.2
    have hn := (g.merge h .sum).nodup_links
    rw [weight?_merge, weight?_rename_eq_gather hmerge hn hlinks,
      weight?_rename_eq_gather hg hn, weight?_rename_eq_gather hh hn, ← gather_map_merge]
    · exact congrArg _ (List.map_congr_left fun link _ =>
        broughtWeight_merge hf hg hh .sum source target link)
    · exact fun s t hlink => hlinks s t (by simp [weight?_merge, hlink])
    · exact fun s t hlink => hlinks s t (by simp [weight?_merge, hlink])

end Graph

/-! ## Rules -/

namespace Rule

/-- It is all the same whether graphs are merged by the policy before or after the rule. The graphs
have to be regular, so that sums stop at the greatest weight on both sides. -/
def DistributesOver (policy : Policy) (rule : Rule) : Prop :=
  ∀ {g h : Graph}, g.Regular → h.Regular →
    rule.apply (g.merge h policy) = (rule.apply g).merge (rule.apply h) policy

/-- Cutting names down respects the join of kinds: a kind stays, or all become modules. -/
lemma respectsJoin_truncated (depth : ℕ) (separator : String) :
    Graph.RespectsJoin fun e => some (truncated depth separator e) := by
  intro name
  by_cases hsame : Name.truncate name separator depth = name
  · exact ⟨some name, id, fun _ _ => rfl, fun kind => by simp [truncated, hsame]⟩
  · refine ⟨some (Name.truncate name separator depth), fun _ => .module, fun _ _ => rfl, ?_⟩
    exact fun kind => by simp [truncated, hsame]

/-- Putting entities into their namespaces respects the join of kinds: all become modules. -/
lemma respectsJoin_enclosing? (separator : String) : Graph.RespectsJoin (enclosing? separator) :=
  fun name => ⟨Name.namespace? name separator, fun _ => .module, fun _ _ => rfl, fun _ => rfl⟩

/-- A rule that decides about every entity by its name distributes over merging. -/
lemma distributesOver_of_name {rule : Rule} (p : String → Bool)
    (hrule : ∀ g, rule.apply g = g.retainEntities fun e => p e.name) (policy : Policy) :
    rule.DistributesOver policy := by
  intro g h hg hh
  rw [hrule, hrule, hrule, Graph.retainEntities_merge hg hh]

/-- A rule that renames and respects joins distributes over sums. -/
lemma distributesOver_of_rename {rule : Rule} {f : Entity → Option Entity}
    (hrule : ∀ g, rule.apply g = g.rename f) (hf : Graph.RespectsJoin f) :
    rule.DistributesOver .sum := by
  intro g h hg hh
  rw [hrule, hrule, hrule, Graph.rename_merge hf hg hh]

/-- Whether a rule can be told to distribute over merges by a policy: a rule that looks at links
cannot, and a rule that renames can over sums only. -/
def SuitsMerge : Rule → Policy → Prop
  | excludeExternal, _ | filterFrom _ _, _ => False
  | collapseDepth _ _, policy | collapseToNamespace _, policy => policy = .sum
  | excludeInternals _ _, _ | filterNamespace _ _, _ | excludePattern _, _ => True

/-- **Rules that do not look at links distribute over merging.** Those that decide by names do so
for both policies, those that rename for sums only, as the greatest weight of two sums is not the
sum of the greatest weights. -/
theorem SuitsMerge.distributesOver {rule : Rule} {policy : Policy}
    (hrule : rule.SuitsMerge policy) : rule.DistributesOver policy := by
  cases rule with
  | excludeInternals prefixes separator =>
    exact distributesOver_of_name (fun name => !prefixes.contains (Name.root name separator))
      (fun _ => rfl) policy
  | excludeExternal => exact hrule.elim
  | filterNamespace around separator =>
    exact distributesOver_of_name (fun name => Name.isWithin name around separator)
      (fun _ => rfl) policy
  | filterFrom _ _ => exact hrule.elim
  | collapseDepth depth separator =>
    obtain rfl : policy = .sum := hrule
    exact distributesOver_of_rename (fun _ => rfl) (respectsJoin_truncated depth separator)
  | excludePattern pattern =>
    exact distributesOver_of_name (fun name => !pattern.occursIn name) (fun _ => rfl) policy
  | collapseToNamespace separator =>
    obtain rfl : policy = .sum := hrule
    exact distributesOver_of_rename (fun _ => rfl) (respectsJoin_enclosing? separator)

end Rule

/-! ## Stages -/

/-- Rules that distribute over merging do so one after the other.

**Proof sketch.** Induction on the rules: every rule hands regular graphs to the next. -/
lemma applyRules_merge {policy : Policy} {rules : List Rule}
    (hrules : ∀ rule ∈ rules, rule.SuitsMerge policy) {g h : Graph} (hg : g.Regular)
    (hh : h.Regular) :
    applyRules rules (g.merge h policy) = (applyRules rules g).merge (applyRules rules h) policy := by
  induction rules generalizing g h with
  | nil => rfl
  | cons rule rules ih =>
    have hrule : rule.apply (g.merge h policy) = (rule.apply g).merge (rule.apply h) policy :=
      (hrules rule List.mem_cons_self).distributesOver hg hh
    have hrest := ih (fun r hr => hrules r (List.mem_cons_of_mem _ hr)) (hg.apply rule)
      (hh.apply rule)
    rw [← hrule] at hrest
    exact hrest

namespace Settings

variable {g h : Graph} {s : Settings} {pattern : Option Pattern}

/-- What settings ask for that do not look at links can be told to distribute over sums, and over
merges by every policy if no rule renames. -/
lemma suitsMerge_of_mem (hexternal : s.noExternal = false) (hfrom : nonBlank? s.filterFrom = none)
    {rule : Rule} (hrule : rule ∈ s.rulesWith pattern) {policy : Policy}
    (hpolicy : policy = .sum ∨ s.depth = 0 ∧ rule.stage = .pre) : rule.SuitsMerge policy := by
  simp only [rulesWith, internalsRule, externalRule, namespaceRule, fromRule, depthRule, classesRule,
    hexternal, hfrom, List.mem_append, List.mem_ite_nil_right, List.mem_singleton, List.mem_map,
    Option.toList_none, List.not_mem_nil, Bool.false_eq_true, false_and, exists_false, or_false]
    at hrule
  rcases hrule with (((⟨-, rfl⟩ | ⟨_, -, rfl⟩) | ⟨hdepth, rfl⟩) | ⟨_, -, rfl⟩) | ⟨-, rfl⟩
  · trivial
  · trivial
  · exact hpolicy.resolve_right fun h => absurd h.1 (Nat.ne_of_gt hdepth)
  · trivial
  · exact hpolicy.resolve_right fun h => Stage.noConfusion h.2

/-- **The first stage distributes over merging, whatever the predicate is that drops names.**

**Proof sketch.** None of the rules before the predicate looks at links, so they distribute one after
the other. The predicate then drops the same names on both sides. -/
theorem firstStage_merge (hg : g.Regular) (hh : h.Regular) (hexternal : s.noExternal = false)
    (hfrom : nonBlank? s.filterFrom = none) (dropped : String → Bool) {policy : Policy}
    (hpolicy : policy = .sum ∨ s.depth = 0) :
    s.firstStage dropped (g.merge h policy) =
      (s.firstStage dropped g).merge (s.firstStage dropped h) policy := by
  have hrules : ∀ rule ∈ s.droppingRules ++ s.depthRule, rule.SuitsMerge policy := by
    intro rule hrule
    -- These are the rules of the first stage when there is no pattern.
    have hmem : rule ∈ (s.rulesWith none).filter fun rule => rule.stage == .pre := by
      rw [filter_stage_rulesWith]
      exact List.mem_append_left _ hrule
    obtain ⟨hmem, hstage⟩ := List.mem_filter.1 hmem
    exact suitsMerge_of_mem hexternal hfrom hmem
      (hpolicy.imp_right fun hdepth => ⟨hdepth, beq_iff_eq.1 hstage⟩)
  rw [firstStage, applyRules_merge hrules hg hh]
  exact Graph.retainEntities_merge (hg.applyRules _) (hh.applyRules _) policy fun name => !dropped name

/-- **Filtering distributes over merging.** Settings whose pattern can be read and which do not ask
for rules that look at links describe a pipeline both of whose stages may be run before or after two
graphs are summed up. If names are not cut down either, the first stage may also be run before or
after the graphs are merged by the greater weight.

**Proof sketch.** The first stage is the one for the predicate that the pattern gives. The only rule
of the second stage renames, and respects joins. -/
theorem stages_distribute_over_merge (hg : g.Regular) (hh : h.Regular)
    (hpattern : s.pattern? = .ok pattern) (hexternal : s.noExternal = false)
    (hfrom : nonBlank? s.filterFrom = none) :
    ∃ p, Pipeline.ofSettings? s = .ok p ∧
      p.applyPre (g.merge h .sum) = (p.applyPre g).merge (p.applyPre h) .sum ∧
      p.applyPost (p.applyPre (g.merge h .sum)) =
        (p.applyPost (p.applyPre g)).merge (p.applyPost (p.applyPre h)) .sum ∧
      (s.depth = 0 → p.applyPre (g.merge h .max) = (p.applyPre g).merge (p.applyPre h) .max) := by
  obtain ⟨p, hp, hpre, hpost⟩ := exists_ofSettings?_eq_ok hpattern
  have hfirst : ∀ {policy : Policy}, policy = .sum ∨ s.depth = 0 →
      p.applyPre (g.merge h policy) = (p.applyPre g).merge (p.applyPre h) policy := by
    intro policy hpolicy
    simp only [Pipeline.applyPre, hpre, applyRules_preRules (hg.merge hh policy),
      applyRules_preRules hg, applyRules_preRules hh]
    exact firstStage_merge hg hh hexternal hfrom _ hpolicy
  refine ⟨p, hp, hfirst (.inl rfl), ?_, fun hdepth => hfirst (.inr hdepth)⟩
  rw [hfirst (.inl rfl)]
  refine applyRules_merge (fun rule hrule => ?_) (hg.applyRules p.pre) (hh.applyRules p.pre)
  rw [hpost] at hrule
  exact suitsMerge_of_mem hexternal hfrom (List.mem_filter.1 hrule).1 (.inl rfl)

/-- Two graphs that know one entity with different kinds, and whose links fall together when names
are cut down, with a sum above the greatest weight: what is left after both stages is the same
whether they are summed up before or after. -/
theorem stages_distribute_over_saturating_sum :
    let g := Graph.empty.insert ⟨"a::x::One", .class⟩ ⟨"b::y::Two", .unknown⟩ (weightLimit - 1) .sum
    let h := (Graph.empty.insert ⟨"a::x::Three", .unknown⟩ ⟨"b::y", .interface⟩ 5 .sum).insert
      ⟨"std::io", .unknown⟩ ⟨"b::y::Two", .class⟩ 1 .sum
    let s : Settings :=
      { internalPrefixes := ["std"], depth := 2, excludeRegex := some "^c", noClasses := true }
    (g.Regular ∧ h.Regular ∧ s.pattern? = .ok (Pattern.read? "^c") ∧ s.noExternal = false ∧
      nonBlank? s.filterFrom = none) ∧
    ∃ p, Pipeline.ofSettings? s = .ok p ∧
      p.applyPost (p.applyPre (g.merge h .sum)) =
        (p.applyPost (p.applyPre g)).merge (p.applyPost (p.applyPre h)) .sum ∧
      (p.applyPost (p.applyPre (g.merge h .sum))).weight? "a" "b" = some weightLimit := by
  intro g h s
  have hg : g.Regular := .insert .empty (by decide +kernel) (by decide +kernel) (by decide)
    (by decide) .sum
  have hh : h.Regular := .insert (.insert .empty (by decide +kernel) (by decide +kernel) (by decide)
    (by decide) .sum) (by decide +kernel) (by decide +kernel) (by decide) (by decide) .sum
  have hpattern : s.pattern? = .ok (Pattern.read? "^c") := by
    have hread : (Pattern.read? "^c").isSome = true := by decide +kernel
    have htrimmed : nonBlank? s.excludeRegex = some "^c" := by decide +kernel
    obtain ⟨pattern, hpattern⟩ := Option.isSome_iff_exists.1 hread
    simp only [Settings.pattern?, htrimmed, hpattern]
  have hweight : (Pipeline.ofSettings? s).toOption.bind (fun p =>
      (p.applyPost (p.applyPre (g.merge h .sum))).weight? "a" "b") = some weightLimit := by
    decide +kernel
  obtain ⟨p, hp, -, hpost, -⟩ := stages_distribute_over_merge hg hh hpattern rfl rfl
  rw [hp] at hweight
  exact ⟨⟨hg, hh, hpattern, rfl, rfl⟩, p, hp, hpost, hweight⟩

end Settings

end DepAtlas
