import DepAtlas.Proofs.Name.Hierarchy
import DepAtlas.Proofs.Source.Resolve

set_option relaxedAutoImplicit false
set_option autoImplicit false

/-!
# Relative paths

A star at the end of a path, and then a `self`, do not count. What is left is a walk and a rest. In a module
that is made of segments the walk leads to the module that is made of the first segments, one less for each
step up, and the rest comes behind them.

## Main definitions

* `DepAtlas.Source.IsWithout` — what is left of a text without an ending.

## Main results

* `DepAtlas.Source.resolve?_of_walk` — what a path names, and that this is no empty name.
-/

namespace DepAtlas.Source

variable {segs : List String} {text : String} {path rest : List Char} {steps : List Step}

/-- What is left of a text without an ending, which the text may have or not. If it has the ending,
this is always taken off. -/
def IsWithout (ending text left : List Char) : Prop :=
  text = left ++ ending ∨ left = text ∧ ¬ ending <:+ text

/-- Taking an ending off leaves what is left without it. -/
lemma IsWithout.getD_beforeSuffix?_eq {ending text left : List Char} (h : IsWithout ending text left) :
    (Text.beforeSuffix? ending text).getD text = left := by
  rcases h with rfl | ⟨rfl, hfree⟩
  · rw [UsePath.beforeSuffix?_append, Option.getD_some]
  · rw [UsePath.beforeSuffix?_eq_none hfree, Option.getD_none]

/-- What is left of a path without a star at its end and then without a `self`. -/
lemma withoutTail_eq {text middle : List Char}
    (hstar : IsWithout "::*".toList text middle) (hself : IsWithout "::self".toList middle path) :
    withoutTail text = path := by
  rw [withoutTail, hstar.getD_beforeSuffix?_eq]
  exact hself.getD_beforeSuffix?_eq

/-- Something is left of every text. -/
lemma exists_isWithout (ending text : List Char) : ∃ left, IsWithout ending text left := by
  by_cases h : ending <:+ text
  · obtain ⟨left, hleft⟩ := h
    exact ⟨left, .inl hleft.symm⟩
  · exact ⟨text, .inr ⟨rfl, h⟩⟩

/-- The rest of a path is one more name behind a module made of segments. -/
lemma ite_below_join (hsegs : "" ∉ segs) (rest : List Char) :
    (if rest = [] then Name.join segs Name.defaultSeparator
      else below (Name.join segs Name.defaultSeparator) (String.ofList rest)) =
        Name.join (segs ++ if rest = [] then [] else [String.ofList rest]) Name.defaultSeparator := by
  split
  · rw [List.append_nil]
  · have hsolid : segs ≠ [""] := by
      rintro rfl
      exact hsegs List.mem_cons_self
    have hbelow := UsePath.below_join_append hsolid (List.cons_ne_nil (String.ofList rest) [])
    rwa [Name.join_singleton] at hbelow

/-- With a step in front a path leads as many levels up as it has steps up, if the module has more
segments than that, and the rest comes behind.

**Proof sketch.** The walk ends at the ancestor that many levels up, which is made of the first
segments, and there is none if no segment would be left. -/
lemma resolve?_of_steps (hne : segs ≠ [])
    (hsegs : ∀ segment ∈ segs, segment ≠ "" ∧ ':' ∉ segment.toList) (hpath : Walk steps rest path)
    (hrest : LeadsOn rest) (htail : withoutTail (Text.dropBlanks text.toList) = path)
    (hsteps : steps ≠ []) : resolve? (Name.join segs Name.defaultSeparator) text =
      if segs.length ≤ steps.count .up then none
      else some (Name.join (segs.take (segs.length - steps.count .up) ++
        if rest = [] then [] else [String.ofList rest]) Name.defaultSeparator) := by
  obtain ⟨hsolid, hnostar⟩ := hpath.ne_nil_and_ne_star hsteps
  have hsegments : ∀ segment ∈ segs, Name.IsSegment Name.defaultSeparator segment := fun s hs =>
    (Name.isPlain_of_colon_not_mem (hsegs s hs).1 (hsegs s hs).2).isSegment (by decide)
  have hnone : "" ∉ segs.take (segs.length - steps.count .up) := fun hempty =>
    (hsegs "" (List.mem_of_mem_take hempty)).1 rfl
  rw [resolve?_eq_of_walk hpath hrest htail hsolid hnostar, if_neg hsteps,
    Name.ancestor?_join (by decide) hne hsegments, ← ite_below_join hnone]
  by_cases hups : segs.length ≤ steps.count .up
  · rw [if_neg (Nat.not_lt.2 hups), if_pos hups]
    rfl
  · rw [if_pos (Nat.not_le.1 hups), if_neg hups]
    rfl

/-- **A relative path is a walk through the modules.** Let a module be made of segments without colons, and
let what is left of a path without blanks, without a star at its end and then without a `self` be a walk
and a rest that begins with no further step. If nothing or only a star is left, the path names nothing. If
there are no steps it names the rest. Otherwise it names nothing if there are as many steps up as the module
has segments, and else the module that many levels up with the rest behind it. Every text has these parts,
the loop comes to an end on every text and in every module, and what a path names is not empty. -/
theorem resolve?_of_walk {segs : List String} (hne : segs ≠ [])
    (hsegs : ∀ segment ∈ segs, segment ≠ "" ∧ ':' ∉ segment.toList) {text : String}
    {middle path rest : List Char} {steps : List Step}
    (hstar : IsWithout "::*".toList (Text.dropBlanks text.toList) middle)
    (hself : IsWithout "::self".toList middle path) (hpath : Walk steps rest path)
    (hrest : LeadsOn rest) :
    let module := Name.join segs Name.defaultSeparator
    let ups := steps.count .up
    (path = [] ∨ path = ['*'] → resolve? module text = none) ∧
    (path ≠ [] → path ≠ ['*'] → steps = [] → resolve? module text = some (String.ofList rest)) ∧
    (steps ≠ [] → resolve? module text =
      if segs.length ≤ ups then none
      else some (Name.join (segs.take (segs.length - ups) ++
        if rest = [] then [] else [String.ofList rest]) Name.defaultSeparator)) ∧
    (∀ text : String, ∃ middle path steps rest,
      IsWithout "::*".toList (Text.dropBlanks text.toList) middle ∧
        IsWithout "::self".toList middle path ∧ Walk steps rest path ∧ LeadsOn rest) ∧
    (∀ (base : String) (path : List Char), Climbs base path (climb? base path.length path)) ∧
    ∀ (base text name : String), base ≠ "" → resolve? base text = some name → name ≠ "" := by
  intro module ups
  have htail := withoutTail_eq hstar hself
  refine ⟨resolve?_eq_none htail, fun hsolid hnostar hsteps => ?_,
    resolve?_of_steps hne hsegs hpath hrest htail, fun text => ?_,
    fun base path => climbs_climb? base (Nat.le_refl _), fun _ _ _ hbase => resolve?_ne_empty hbase⟩
  · rw [resolve?_eq_of_walk hpath hrest htail hsolid hnostar, if_pos hsteps]
  · obtain ⟨middle, hmiddle⟩ := exists_isWithout "::*".toList (Text.dropBlanks text.toList)
    obtain ⟨path, hpath⟩ := exists_isWithout "::self".toList middle
    obtain ⟨steps, rest, hwalk, hrest⟩ := exists_walk path
    exact ⟨middle, path, steps, rest, hmiddle, hpath, hwalk, hrest⟩

/-- Steps of both kinds in front of a star behind a `self`, with blanks, and a name that only begins like a
step; and one step up too many. -/
theorem resolve?_of_mixed_steps :
    let text := "super::self :: super:: supers::self::*"
    IsWithout "::*".toList (Text.dropBlanks text.toList) "super::self::super::supers::self".toList ∧
      IsWithout "::self".toList "super::self::super::supers::self".toList
        "super::self::super::supers".toList ∧
      Walk [.up, .stay, .up] "supers".toList "super::self::super::supers".toList ∧
      LeadsOn "supers".toList ∧ resolve? "crate::graph::ir" text = some "crate::supers" ∧
      resolve? "crate::ir" text = none := by
  intro text
  have hstar : IsWithout "::*".toList (Text.dropBlanks text.toList)
      "super::self::super::supers::self".toList := .inl (by decide)
  have hself : IsWithout "::self".toList "super::self::super::supers::self".toList
      "super::self::super::supers".toList := .inl (by decide)
  have hpath : Walk [.up, .stay, .up] "supers".toList "super::self::super::supers".toList :=
    .step .up (.step .stay (.step .up (.rest _)))
  have hrest : LeadsOn "supers".toList := fun step =>
    behind?_eq_none_iff.1 (by cases step <;> decide)
  obtain ⟨-, -, hdeep, -⟩ := resolve?_of_walk (by decide : ["crate", "graph", "ir"] ≠ [])
    (by decide) hstar hself hpath hrest
  obtain ⟨-, -, hflat, -⟩ := resolve?_of_walk (by decide : ["crate", "ir"] ≠ [])
    (by decide) hstar hself hpath hrest
  exact ⟨hstar, hself, hpath, hrest, (hdeep (by decide)).trans (by decide),
    (hflat (by decide)).trans (by decide)⟩

end DepAtlas.Source
