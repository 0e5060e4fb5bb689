import Mathlib.Data.List.TakeWhile
import DepAtlas.Proofs.Source.Walk

set_option relaxedAutoImplicit false
set_option autoImplicit false

/-!
# Paths as lists of names

A path is resolved as a text: a star and a `self` are cut off at its end, and `self` and `super` in
front of it one by one. For a path that is spelled from names this comes down to its names. A last
`self` does not count, the names `self` and `super` in front lead to a module above, and the other names
lead on from there.

## Main definitions

* `DepAtlas.Source.IsPiece` — what may stand between two separators of a path.
* `DepAtlas.Source.UsePath.steps`, `DepAtlas.Source.UsePath.remainder` — the parts of a path.
* `DepAtlas.Source.UsePath.meaning?` — the entity that a list of names stands for inside a module.

## Main results

* `DepAtlas.Source.UsePath.walk_spelled` — the walk that the names in front of a path are.
* `DepAtlas.Source.UsePath.resolve?_join`, `DepAtlas.Source.UsePath.resolve?_join_star` — resolving a
  path that is spelled from names, with and without a star behind it.
* `DepAtlas.Source.UsePath.meaning?_eq_none_iff` — which paths name nothing.
-/

namespace DepAtlas.Source

/-- A text without the characters that divide paths, stand for all names or get lost when a path is
read. It may be empty, as in front of the separator at the beginning of a path. -/
def IsPiece (piece : String) : Prop :=
  ∀ c ∈ piece.toList, c ≠ ':' ∧ c ≠ '*' ∧ c ≠ '\uFFFD' ∧ Text.isBlank c = false

-- Only the characters of the text are tried; a search for an instance may also find the one that tries
-- all characters there are.
/-- Whether a text is such a piece can be decided character by character. -/
instance (piece : String) : Decidable (IsPiece piece) :=
  List.decidableBAll _ _

namespace UsePath

variable {module text piece : String} {above path : List String}

/-! ## What a list of names stands for -/

/-- A path without a last `self`, unless it stands alone. -/
def withoutSelf (path : List String) : List String :=
  if path.getLast? = some "self" ∧ path.length ≠ 1 then path.dropLast else path

/-- Whether a name leads to a module and not into it. -/
def isStep (name : String) : Bool :=
  name == "self" || name == "super"

/-- The names in front of a path that lead to a module. -/
def steps (path : List String) : List String :=
  (withoutSelf path).takeWhile isStep

/-- What no separator stands behind is nothing if it is empty. -/
def solid (path : List String) : List String :=
  if path = [""] then [] else path

/-- The names that a path goes on with from the module where it starts. -/
def remainder (path : List String) : List String :=
  solid ((withoutSelf path).dropWhile isStep)

/-- The entity that a list of names stands for inside a module: the names themselves, or if some
names in front lead to a module, what lies below it. It says what paths mean in terms of names,
without any text. -/
def meaning? (module : String) (path : List String) : Option String :=
  if steps path = [] then
    if remainder path = [] then none else some (Name.join (remainder path) Name.defaultSeparator)
  else
    (Name.ancestor? Name.defaultSeparator module ((steps path).count "super")).map fun around =>
      Name.join (around :: remainder path) Name.defaultSeparator

/-! ## Texts of paths -/

/-- The characters of a path with these names. -/
def spelled (path : List String) : List Char :=
  Text.joinWith [':', ':'] (path.map String.toList)

/-- A path is spelled as its names with separators in between. -/
lemma toList_join_eq_spelled (path : List String) :
    (Name.join path Name.defaultSeparator).toList = spelled path :=
  Name.toList_join path _

/-- The spelling of a path is the text of it. -/
lemma ofList_spelled (path : List String) :
    String.ofList (spelled path) = Name.join path Name.defaultSeparator := by
  rw [← toList_join_eq_spelled, String.ofList_toList]

/-- A name in front is spelled in front, with a separator behind it. -/
lemma spelled_cons (h : path ≠ []) :
    spelled (piece :: path) = piece.toList ++ ':' :: ':' :: spelled path := by
  rw [spelled, List.map_cons, Text.joinWith_cons (by simpa using h)]
  simp [spelled]

/-- A name at the end is spelled at the end, with a separator in front of it. -/
lemma spelled_concat (h : path ≠ []) :
    spelled (path ++ [piece]) = spelled path ++ ':' :: ':' :: piece.toList := by
  rw [spelled, List.map_append, Text.joinWith_append (by simpa using h) (by simp)]
  simp [spelled, Text.joinWith]

/-- Only a path of nothing is spelled as nothing. -/
lemma spelled_eq_nil_iff : spelled path = [] ↔ solid path = [] := by
  rw [spelled, Text.joinWith_eq_nil_iff (by decide), solid]
  match path with
  | [] => simp
  | [piece] => simp
  | piece :: next :: rest => simp

/-- The characters of a path are colons and those of its pieces. -/
lemma mem_spelled {c : Char} (h : c ∈ spelled path) : c = ':' ∨ ∃ piece ∈ path, c ∈ piece.toList := by
  rcases Text.mem_joinWith h with hc | ⟨chars, hchars, hc⟩
  · exact .inl (by simpa using hc)
  · obtain ⟨piece, hpiece, rfl⟩ := List.mem_map.1 hchars
    exact .inr ⟨piece, hpiece, hc⟩

/-- No star is in the spelling of pieces. -/
lemma star_not_mem_spelled (h : ∀ piece ∈ path, IsPiece piece) : '*' ∉ spelled path := by
  intro hstar
  rcases mem_spelled hstar with hc | ⟨piece, hpiece, hc⟩
  · exact absurd hc (by decide)
  · exact (h piece hpiece '*' hc).2.1 rfl

/-- No blank is in the spelling of pieces. -/
lemma isBlank_eq_false_of_mem (h : ∀ piece ∈ path, IsPiece piece) {c : Char}
    (hc : c ∈ spelled path) : Text.isBlank c = false := by
  rcases mem_spelled hc with rfl | ⟨piece, hpiece, hc⟩
  · decide
  · exact (h piece hpiece c hc).2.2.2

/-- No piece has a colon in it. -/
lemma colon_not_mem (h : IsPiece piece) : ':' ∉ piece.toList :=
  fun hc => (h ':' hc).1 rfl

/-! ## The end of a path -/

/-- A text ends with what was put behind it. -/
lemma beforeSuffix?_append (x sep : List Char) : Text.beforeSuffix? sep (x ++ sep) = some x := by
  simp [Text.beforeSuffix?]

/-- What a text does not end with cannot be cut off. -/
lemma beforeSuffix?_eq_none {sep s : List Char} (h : ¬ sep <:+ s) :
    Text.beforeSuffix? sep s = none := by
  simp [Text.beforeSuffix?, h]

/-- Cutting off a `self` behind a separator drops the last name if it is `self`.

**Proof sketch.** If the last name is another one, the spelling cannot end with the separator and
`self`, because the name has no colon: it would have to end with `self` and be longer, with a colon
in it. -/
lemma getD_beforeSuffix?_self (h : ∀ piece ∈ path, IsPiece piece) :
    (Text.beforeSuffix? "::self".toList (spelled path)).getD (spelled path) =
      spelled (withoutSelf path) := by
  rcases List.eq_nil_or_concat' path with rfl | ⟨front, last, rfl⟩
  · rfl
  have hlast : ':' ∉ last.toList := colon_not_mem (h last (by simp))
  by_cases hfront : front = []
  · subst hfront
    have hfree : ¬ "::self".toList <:+ last.toList := fun hsuffix =>
      hlast (hsuffix.subset (by decide))
    rw [List.nil_append, withoutSelf, if_neg (by simp)]
    exact congrArg (Option.getD · last.toList) (beforeSuffix?_eq_none hfree)
  · rw [spelled_concat hfront]
    by_cases hself : last = "self"
    · subst hself
      rw [withoutSelf, if_pos (by simpa using hfront), List.dropLast_concat]
      exact congrArg (Option.getD · _) (beforeSuffix?_append (spelled front) _)
    · have hfree : ¬ "::self".toList <:+ spelled front ++ ':' :: ':' :: last.toList := by
        rintro ⟨before, hbefore⟩
        have hdivided : (before ++ [':']) ++ ':' :: "self".toList =
            (spelled front ++ [':']) ++ ':' :: last.toList := by
          simpa using hbefore
        have hinj := Text.append_cons_inj_right (by decide) hlast hdivided
        exact hself (String.toList_inj.1 hinj.2.symm)
      rw [beforeSuffix?_eq_none hfree, withoutSelf, if_neg (by simp [hself]), spelled_concat hfront]
      rfl

/-- A path without a star at its end loses a last `self` only. -/
lemma withoutTail_spelled (h : ∀ piece ∈ path, IsPiece piece) :
    withoutTail (spelled path) = spelled (withoutSelf path) := by
  have hfree : ¬ "::*".toList <:+ spelled path := fun hsuffix =>
    star_not_mem_spelled h (hsuffix.subset (by decide))
  rw [withoutTail, beforeSuffix?_eq_none hfree]
  exact getD_beforeSuffix?_self h

/-- A star behind a path is taken off, and then a last `self` in front of it. -/
lemma withoutTail_spelled_star (hne : path ≠ []) (h : ∀ piece ∈ path, IsPiece piece) :
    withoutTail (spelled (path ++ ["*"])) = spelled (withoutSelf path) := by
  have hstar : Text.beforeSuffix? "::*".toList (spelled (path ++ ["*"])) = some (spelled path) := by
    rw [spelled_concat hne]
    exact beforeSuffix?_append (spelled path) _
  rw [withoutTail, hstar]
  exact getD_beforeSuffix?_self h

/-! ## The front of a path -/

/-- The step that a name in front of a path stands for. Of names that are no steps nothing is asked. -/
def stepOf (name : String) : Step :=
  if name = "super" then .up else .stay

/-- The keyword of the step is the name. -/
lemma keyword_stepOf (h : isStep piece = true) : (stepOf piece).keyword = piece.toList := by
  obtain rfl | rfl : piece = "self" ∨ piece = "super" := by simpa [isStep] using h
  all_goals rfl

/-- The steps up are the names `super`. -/
lemma count_map_stepOf (names : List String) :
    (names.map stepOf).count .up = names.count "super" := by
  rw [List.count, List.count, List.countP_map]
  refine List.countP_congr fun name _ => ?_
  by_cases hup : name = "super" <;> simp [stepOf, hup]

/-- A path that begins with another name than `self` and `super` begins with no step.

**Proof sketch.** If its spelling began with a keyword, the name would end where the keyword does,
because no name has a colon, and would be the keyword. -/
lemma leadsOn_spelled_cons (hpiece : IsPiece piece) (h : isStep piece = false) :
    LeadsOn (spelled (piece :: path)) := by
  intro step
  have hcolon : ':' ∉ piece.toList := colon_not_mem hpiece
  have hkeyword : ':' ∉ step.keyword := by cases step <;> decide
  have hne : piece.toList ≠ step.keyword := by
    obtain ⟨hself, hsuper⟩ : piece ≠ "self" ∧ piece ≠ "super" := by simpa [isStep] using h
    cases step with
    | stay => exact mt String.toList_inj.1 hself
    | up => exact mt String.toList_inj.1 hsuper
  by_cases hnil : path = []
  · subst hnil
    exact ⟨hne, fun hbegins => hcolon (hbegins.subset (by simp))⟩
  · rw [spelled_cons hnil]
    refine ⟨fun heq => hkeyword (heq ▸ by simp), ?_⟩
    rintro ⟨rest, hrest⟩
    have hdivided : step.keyword ++ ':' :: (':' :: rest) =
        piece.toList ++ ':' :: (':' :: spelled path) := by
      simpa using hrest
    exact hne (Text.append_cons_inj_left hkeyword hcolon hdivided).1.symm

/-- **A path that is spelled from names is a walk**: the names `self` and `super` in front are its steps,
and the other names are its rest.

**Proof sketch.** Induction on the names. Behind the last name there is no separator. -/
lemma walk_spelled (h : ∀ piece ∈ path, IsPiece piece) :
    Walk ((path.takeWhile isStep).map stepOf) (spelled (path.dropWhile isStep)) (spelled path) ∧
      LeadsOn (spelled (path.dropWhile isStep)) := by
  induction path with
  | nil => exact ⟨.rest _, leadsOn_nil⟩
  | cons piece path ih =>
    cases hstep : isStep piece with
    | false =>
      rw [List.takeWhile_cons_of_neg (by simp [hstep]), List.dropWhile_cons_of_neg (by simp [hstep])]
      exact ⟨.rest _, leadsOn_spelled_cons (h piece List.mem_cons_self) hstep⟩
    | true =>
      obtain ⟨hwalk, hrest⟩ := ih fun p hp => h p (List.mem_cons_of_mem _ hp)
      rw [List.takeWhile_cons_of_pos hstep, List.dropWhile_cons_of_pos hstep, List.map_cons]
      refine ⟨?_, hrest⟩
      by_cases hnil : path = []
      · subst hnil
        have hlast := Walk.last (stepOf piece)
        rwa [keyword_stepOf hstep] at hlast
      · have htext : spelled (piece :: path) =
            (stepOf piece).keyword ++ "::".toList ++ spelled path := by
          rw [spelled_cons hnil, keyword_stepOf hstep]
          simp
        exact htext ▸ .step (stepOf piece) hwalk

/-- Without steps in front, the whole path is behind them. -/
lemma dropWhile_isStep (h : path.takeWhile isStep = []) : path.dropWhile isStep = path :=
  List.dropWhile_eq_self_iff.2 (List.takeWhile_eq_nil_iff.1 h)

/-! ## Resolving -/

/-- Dropping a last `self` leaves pieces. -/
lemma isPiece_of_mem_withoutSelf (h : ∀ piece ∈ path, IsPiece piece) :
    ∀ piece ∈ withoutSelf path, IsPiece piece := by
  intro piece hpiece
  unfold withoutSelf at hpiece
  split at hpiece
  · exact h piece (List.mem_of_mem_dropLast hpiece)
  · exact h piece hpiece

/-- A path that is spelled as something is solid. -/
lemma solid_eq_self (h : spelled path ≠ []) : solid path = path := by
  rw [solid, if_neg]
  rintro rfl
  exact h rfl

/-- What a path below another one is spelled from. -/
lemma below_join_append (habove : above ≠ [""]) (hpath : path ≠ []) :
    below (Name.join above Name.defaultSeparator) (Name.join path Name.defaultSeparator) =
      Name.join (above ++ path) Name.defaultSeparator := by
  by_cases hnil : above = []
  · subst hnil
    rfl
  · have hsome : Name.join above Name.defaultSeparator ≠ "" :=
      mt (Name.join_eq_empty_iff (by decide)).1 (not_or.2 ⟨hnil, habove⟩)
    rw [below, if_neg (by simpa using hsome), ← String.toList_inj, String.toList_append,
      String.toList_append, Name.toList_join, Name.toList_join, Name.toList_join, List.map_append,
      Text.joinWith_append (by simpa using hnil) (by simpa using hpath)]

/-- What lies below a module, or the module itself if nothing is left of the path. -/
lemma ite_below_spelled {around : String} (haround : around ≠ "") (path : List String) :
    (if spelled path = [] then around else below around (String.ofList (spelled path))) =
      Name.join (around :: solid path) Name.defaultSeparator := by
  by_cases hrest : spelled path = []
  · rw [if_pos hrest, spelled_eq_nil_iff.1 hrest, Name.join_singleton]
  · have hlong : path ≠ [] := fun heq => hrest (by rw [heq]; rfl)
    have hbelow := below_join_append (by simpa using haround : [around] ≠ [""]) hlong
    rw [Name.join_singleton] at hbelow
    rw [if_neg hrest, solid_eq_self hrest, ofList_spelled, hbelow]
    rfl

/-- A path is resolved to what its names stand for as soon as this is what is left of its text.

**Proof sketch.** What is left of the text is a walk and a rest. Without steps the rest is all names, and
otherwise it is put behind the module where the walk ends. -/
lemma resolve?_eq_meaning? (hmodule : module ≠ "") (h : ∀ piece ∈ path, IsPiece piece)
    (htext : withoutTail (Text.dropBlanks text.toList) = spelled (withoutSelf path)) :
    resolve? module text = meaning? module path := by
  have hpieces := isPiece_of_mem_withoutSelf h
  unfold meaning? remainder steps
  generalize withoutSelf path = names at hpieces htext
  obtain ⟨hwalk, hrest⟩ := walk_spelled hpieces
  by_cases hnil : spelled names = []
  · have hstep : names.takeWhile isStep = [] := by
      have hlength := hwalk.length_add_le
      rw [hnil, List.length_nil, List.length_map] at hlength
      exact List.eq_nil_of_length_eq_zero (by omega)
    rw [resolve?_eq_none htext (.inl hnil), if_pos hstep, dropWhile_isStep hstep,
      if_pos (spelled_eq_nil_iff.1 hnil)]
  · have hstar : spelled names ≠ ['*'] := fun heq => star_not_mem_spelled hpieces (by simp [heq])
    rw [resolve?_eq_of_walk hwalk hrest htext hnil hstar, count_map_stepOf]
    simp only [List.map_eq_nil_iff]
    by_cases hstep : names.takeWhile isStep = []
    · have hne : names ≠ [] := fun heq => hnil (by rw [heq]; rfl)
      simp [hstep, dropWhile_isStep hstep, hne, solid_eq_self hnil, ofList_spelled]
    · rw [if_neg hstep, if_neg hstep]
      cases haround : Name.ancestor? Name.defaultSeparator module
        ((names.takeWhile isStep).count "super") with
      | none => rfl
      | some around =>
        exact congrArg some (ite_below_spelled (Name.ancestor?_ne_empty hmodule haround) _)

/-- **A path that is spelled from names stands for what the names stand for.** -/
theorem resolve?_join (hmodule : module ≠ "") (h : ∀ piece ∈ path, IsPiece piece) :
    resolve? module (Name.join path Name.defaultSeparator) = meaning? module path := by
  refine resolve?_eq_meaning? hmodule h ?_
  have hblanks : Text.dropBlanks (spelled path) = spelled path :=
    List.filter_eq_self.2 fun c hc => by simp [isBlank_eq_false_of_mem h hc]
  rw [toList_join_eq_spelled, hblanks, withoutTail_spelled h]

/-- **A path with a star behind it stands for what the path stands for**, and a star alone for
nothing.

**Proof sketch.** The star is taken off before the path is looked at. -/
theorem resolve?_join_star (hmodule : module ≠ "") (h : ∀ piece ∈ path, IsPiece piece) :
    resolve? module (Name.join (path ++ ["*"]) Name.defaultSeparator) = meaning? module path := by
  by_cases hnil : path = []
  · subst hnil
    rfl
  · refine resolve?_eq_meaning? hmodule h ?_
    have hblanks : Text.dropBlanks (spelled (path ++ ["*"])) = spelled (path ++ ["*"]) := by
      refine List.filter_eq_self.2 fun c hc => ?_
      rw [spelled_concat hnil] at hc
      rcases List.mem_append.1 hc with hc | hc
      · simp [isBlank_eq_false_of_mem h hc]
      · obtain rfl | rfl : c = ':' ∨ c = '*' := by simpa using hc
        all_goals decide
    rw [toList_join_eq_spelled, hblanks, withoutTail_spelled_star hnil h]

/-! ## Paths that name nothing -/

/-- When nothing is left of a path: it is empty, or it is a separator with nothing behind it but
perhaps a `self`. -/
lemma solid_withoutSelf_eq_nil_iff :
    solid (withoutSelf path) = [] ↔ path = [] ∨ path = [""] ∨ path = ["", "self"] := by
  match path with
  | [] => simp [withoutSelf, solid]
  | [piece] => simp [withoutSelf, solid]
  | [piece, last] =>
    by_cases hself : last = "self"
    · simp [withoutSelf, solid, hself]
    · simp [withoutSelf, solid, hself]
  | piece :: next :: last :: rest =>
    unfold withoutSelf
    split
    · simp [solid]
    · simp [solid]

/-- **A path names nothing** if it is empty, if only a separator stands in front of its last `self`, or
if it leads above the root. -/
theorem meaning?_eq_none_iff : meaning? module path = none ↔
    (path = [] ∨ path = [""] ∨ path = ["", "self"]) ∨
      Name.ancestor? Name.defaultSeparator module ((steps path).count "super") = none := by
  rw [← solid_withoutSelf_eq_nil_iff]
  unfold meaning?
  by_cases hsteps : steps path = []
  · rw [if_pos hsteps, remainder, dropWhile_isStep hsteps]
    simp [hsteps, Name.ancestor?]
  · have hsolid : solid (withoutSelf path) ≠ [] := by
      intro hnil
      rcases solid_withoutSelf_eq_nil_iff.1 hnil with rfl | rfl | rfl
      all_goals exact hsteps rfl
    rw [if_neg hsteps, Option.map_eq_none_iff, or_iff_right hsolid]

end UsePath

end DepAtlas.Source
