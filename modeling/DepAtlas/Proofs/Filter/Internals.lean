import DepAtlas.Config.Layers
import DepAtlas.Proofs.Filter.Stage
import DepAtlas.Proofs.Name.Segments
import DepAtlas.Source.File

set_option relaxedAutoImplicit false
set_option autoImplicit false

/-!
# What belongs to the language

The rule against what belongs to the language goes by the root of a name. For names that do not begin
with a separator this is their first segment. A name with a separator in front has an empty root: the
rule does not see its first segment, which shows again when names are cut down.

## Main definitions

* `DepAtlas.Name.Leads` — a separator stands in front of a name.

## Main results

* `DepAtlas.Settings.internals_by_first_segment` — which entities the rule keeps, and which first
  segments are left after the first stage.
* `DepAtlas.Settings.leading_separator_hides_internals` — a name of the standard library that is left.
-/

namespace DepAtlas

/-- A separator stands in front of the name. -/
def Name.Leads (separator name : String) : Prop :=
  separator.toList <+: name.toList

namespace Settings

variable {least : ℕ} {s : Settings} {g : Graph}

/-- The rule keeps the entities whose root is none of the prefixes. -/
lemma kind?_excludeInternals (prefixes : List String) (separator name : String) (kind : Kind) :
    ((Rule.excludeInternals prefixes separator).apply g).kind? name = some kind ↔
      g.kind? name = some kind ∧ Name.root name separator ∉ prefixes := by
  rw [Rule.apply, Graph.kind?_retainEntities, Option.filter_eq_some_iff]
  simp

/-- Cutting names down to some segments keeps the first one. -/
lemma head?_segments_collapsed (hsep : s.separator ≠ "") (name : String) :
    (Name.segments (s.collapsed name) s.separator).head? =
      (Name.segments name s.separator).head? := by
  unfold collapsed
  split
  · next hdepth =>
    rw [Name.segments_truncate hsep, List.head?_take, if_neg (Nat.ne_of_gt hdepth)]
  · rfl

/-- An entity that is left after the first stage comes from one whose root does not belong to the
language. -/
lemma exists_root_not_mem (hg : g.Invariant least) (hinternals : s.internals = false)
    {pattern : Option Pattern} {name : String}
    (hname : (applyRules (s.preRules pattern) g).kind? name ≠ none) :
    ∃ old, g.kind? old ≠ none ∧ s.collapsed old = name ∧
      Name.root old s.separator ∉ s.internalPrefixes := by
  obtain ⟨-, -, old, hold, ⟨hpasses, -⟩, hcollapsed⟩ := (kind?_preRules hg pattern).1 hname
  refine ⟨old, hold, hcollapsed, fun hmem => ?_⟩
  have hne : s.internalPrefixes ≠ [] := List.ne_nil_of_mem hmem
  simp [passes, isOwn, hinternals, hne, hmem] at hpasses

/-- A name of the first stage whose first segment belongs to the language comes from an entity with a
separator in front.

**Proof sketch.** The first segment of the name is that of the entity. Without a separator in front
it would be the root of the entity, which does not belong to the language. -/
lemma exists_leads_of_internal (hsep : s.separator ≠ "") (hg : g.Invariant least)
    (hinternals : s.internals = false) {pattern : Option Pattern} {name first : String}
    (hname : (applyRules (s.preRules pattern) g).kind? name ≠ none)
    (hfirst : (Name.segments name s.separator).head? = some first)
    (hmem : first ∈ s.internalPrefixes) :
    ∃ old, g.kind? old ≠ none ∧ Name.Leads s.separator old ∧ s.collapsed old = name := by
  obtain ⟨old, hold, rfl, hroot⟩ := exists_root_not_mem hg hinternals hname
  refine ⟨old, hold, by_contra fun hleads => hroot ?_, rfl⟩
  have hne : old ≠ "" := by
    rintro rfl
    exact absurd (hg.isBlankName_eq_false hold) (by decide)
  rw [head?_segments_collapsed hsep, Name.head?_segments hsep hne hleads] at hfirst
  exact Option.some.inj hfirst ▸ hmem

/-- **The rule against what belongs to the language goes by the first segment**, unless a separator
stands in front of a name. Of the names without a separator in front it keeps those whose first
segment is none of the prefixes; names with a separator in front it keeps, unless the empty text is a
prefix. The links that are left are those between entities that are left. A first segment that
belongs to the language is left after the first stage only where it comes from an entity with a
separator in front. -/
theorem internals_by_first_segment {separator : String} (hsep : separator ≠ "")
    (prefixes : List String) (g : Graph) :
    let h := (Rule.excludeInternals prefixes separator).apply g
    (∀ name kind, name ≠ "" → ¬ Name.Leads separator name →
      (h.kind? name = some kind ↔ g.kind? name = some kind ∧
        ∃ first, (Name.segments name separator).head? = some first ∧ first ∉ prefixes)) ∧
    (∀ name kind, Name.Leads separator name →
      (h.kind? name = some kind ↔ g.kind? name = some kind ∧ "" ∉ prefixes)) ∧
    (∀ source target weight, h.weight? source target = some weight ↔
      g.weight? source target = some weight ∧ h.contains source = true ∧
        h.contains target = true) ∧
    ∀ (s : Settings) (pattern : Option Pattern), s.separator = separator → s.internals = false →
      s.pattern? = .ok pattern → g.Regular →
      ∃ p, Pipeline.ofSettings? s = .ok p ∧
        ∀ name first, (p.applyPre g).contains name = true →
          (Name.segments name separator).head? = some first → first ∈ s.internalPrefixes →
          ∃ old, g.contains old = true ∧ Name.Leads separator old ∧ s.collapsed old = name := by
  intro h
  refine ⟨fun name kind hname hleads => ?_, fun name kind hleads => ?_,
    fun source target weight => ?_, fun s pattern hs hinternals hpattern hg => ?_⟩
  · rw [kind?_excludeInternals, Name.head?_segments hsep hname hleads]
    simp
  · rw [kind?_excludeInternals, Name.root_eq_empty hsep hleads]
  · rw [Graph.contains_iff, Graph.contains_iff]
    exact Graph.weight?_retainEntities_eq_some
  · subst hs
    obtain ⟨p, hp, hpre, -⟩ := exists_ofSettings?_eq_ok hpattern
    refine ⟨p, hp, fun name first hname hfirst hmem => ?_⟩
    simp only [Graph.contains_iff, Pipeline.applyPre, hpre] at hname ⊢
    exact exists_leads_of_internal hsep hg hinternals hname hfirst hmem

/-- With three dots as separator, a name of the language goes with its link, and one that only begins
with the same letters stays. -/
theorem internals_with_dotted_names :
    let e : String → Entity := fun name => ⟨name, .unknown⟩
    let g := Graph.ofFacts [⟨e "app...a", e "std...io"⟩, ⟨e "app...a", e "stdx...io"⟩]
    let h := (Rule.excludeInternals ["std"] "...").apply g
    "..." ≠ "" ∧ h.kind? "std...io" = none ∧ h.kind? "stdx...io" = some .unknown ∧
      h.weight? "app...a" "stdx...io" = some 1 := by
  intro e g h
  obtain ⟨hplain, -, hlinks, -⟩ := internals_by_first_segment (by decide : "..." ≠ "") ["std"] g
  have hleads : ¬ Name.Leads "..." "std...io" ∧ ¬ Name.Leads "..." "stdx...io" := by
    simp only [Name.Leads, ← List.isPrefixOf_iff_prefix]
    decide
  refine ⟨by decide, Option.eq_none_iff_forall_ne_some.2 fun kind hkind => ?_, ?_, ?_⟩
  · obtain ⟨-, first, hfirst, hmem⟩ := (hplain _ kind (by decide) hleads.1).1 hkind
    obtain rfl : "std" = first := Option.some.inj (Eq.trans (by decide +kernel) hfirst)
    exact hmem (by decide)
  · exact (hplain _ _ (by decide) hleads.2).2
      ⟨by decide +kernel, "stdx", by decide +kernel, by decide⟩
  · exact (hlinks _ _ _).2 ⟨by decide +kernel, by decide +kernel, by decide +kernel⟩

/-- **A separator in front hides what belongs to the language.** A source may name the standard library
with a separator in front. By the default settings the name stays, although its first segment is one of
the prefixes, and cut down to one segment it is the bare prefix. -/
theorem leading_separator_hides_internals :
    let g := Graph.ofFacts [⟨⟨"crate", .module⟩, ⟨"::std::fmt", .unknown⟩⟩]
    let s : Settings := { ({} : Config).filters with depth := 1 }
    (Source.SourceFile.ofText? "use ::std::fmt;").toOption.map (·.targets "crate") =
      some ["::std::fmt"] ∧
    (Name.segments "::std::fmt" s.separator).head? = some "std" ∧ "std" ∈ s.internalPrefixes ∧
    ((Rule.excludeInternals s.internalPrefixes s.separator).apply g).contains "::std::fmt" = true ∧
    (Pipeline.ofSettings? s).toOption.map (fun p => (p.applyPre g).names) =
      some ["crate", "std"] := by
  decide +kernel

end Settings

end DepAtlas
