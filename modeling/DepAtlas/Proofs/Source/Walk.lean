import DepAtlas.Proofs.Name.Ancestor
import DepAtlas.Source.UseTree

set_option relaxedAutoImplicit false
set_option autoImplicit false

/-!
# Walks through the modules

A path is resolved by a loop that takes one keyword after the other from its front and climbs from module to
module. Every text is some keywords in front of a rest that begins with none, so the loop is a walk: each
`super` goes to the module above, each `self` stays, and the rest leads on from the module where the walk
ends. What stands in the rest does not matter.

## Main definitions

* `DepAtlas.Source.Step` — one step of a walk, and `DepAtlas.Source.Step.keyword`.
* `DepAtlas.Source.Walk` — a text that is a walk and a rest.
* `DepAtlas.Source.Climbs` — how the loop goes, without a bound on its turns.

## Main results

* `DepAtlas.Source.exists_walk` — every text is a walk and a rest.
* `DepAtlas.Source.climbs_climb?` — the loop comes to an end.
* `DepAtlas.Source.Walk.climb?_eq` — where it ends.
* `DepAtlas.Source.resolve?_eq_of_walk` — what a path names.
-/

namespace DepAtlas.Source

/-! ## Walks -/

/-- One step of a walk through the modules. -/
inductive Step where
  | stay
  | up
deriving DecidableEq, Repr

/-- The keyword for a step. -/
def Step.keyword : Step → List Char
  | stay => "self".toList
  | up => "super".toList

/-- The module where a step leads to. -/
def Step.target? (module : String) : Step → Option String
  | stay => some module
  | up => Name.namespace? module Name.defaultSeparator

/-- The rest of a path begins with no step. -/
def LeadsOn (rest : List Char) : Prop :=
  ∀ step : Step, rest ≠ step.keyword ∧ ¬ step.keyword ++ "::".toList <+: rest

/-- A text that is a walk and a rest. A separator stands behind each step, but behind the last one it may be
missing if nothing follows. -/
inductive Walk : List Step → (rest text : List Char) → Prop where
  | rest (rest : List Char) : Walk [] rest rest
  | last (step : Step) : Walk [step] [] step.keyword
  | step (step : Step) {steps : List Step} {rest text : List Char} (h : Walk steps rest text) :
      Walk (step :: steps) rest (step.keyword ++ "::".toList ++ text)

/-- How climbing goes: one turn for each keyword, and an end where none is in front. It describes
the loop without its fuel. -/
inductive Climbs : String → List Char → Option (String × List Char) → Prop where
  | up {base above : String} {path rest : List Char} {result : Option (String × List Char)}
      (hfront : behind? "super".toList path = some rest)
      (habove : Name.namespace? base Name.defaultSeparator = some above)
      (h : Climbs above rest result) : Climbs base path result
  | lost {base : String} {path rest : List Char} (hfront : behind? "super".toList path = some rest)
      (habove : Name.namespace? base Name.defaultSeparator = none) : Climbs base path none
  | stay {base : String} {path rest : List Char} {result : Option (String × List Char)}
      (hnot : behind? "super".toList path = none) (hfront : behind? "self".toList path = some rest)
      (h : Climbs base rest result) : Climbs base path result
  | arrived {base : String} {path : List Char} (hup : behind? "super".toList path = none)
      (hstay : behind? "self".toList path = none) : Climbs base path (some (base, path))

variable {module text base : String} {steps : List Step} {rest path : List Char} {step : Step}

/-! ## Keywords in front -/

/-- Nothing is behind a keyword that a path does not begin with as a whole name. -/
lemma behind?_eq_none_iff {keyword : List Char} : behind? keyword path = none ↔
    path ≠ keyword ∧ ¬ keyword ++ "::".toList <+: path := by
  unfold behind? Text.afterPrefix?
  by_cases heq : path = keyword
  · simp [heq]
  · simp [heq, Name.defaultSeparator]

/-- Behind a keyword that is the whole path nothing is left. -/
lemma behind?_self (keyword : List Char) : behind? keyword keyword = some [] :=
  if_pos rfl

/-- Behind a keyword and a separator the rest is left. -/
lemma behind?_append (keyword path : List Char) :
    behind? keyword (keyword ++ "::".toList ++ path) = some path := by
  have hlonger : keyword ++ "::".toList ++ path ≠ keyword := by
    simp [List.append_assoc]
  rw [behind?, if_neg hlonger]
  simp [Text.afterPrefix?, Name.defaultSeparator, List.drop_append]

/-- What stands behind a keyword makes a text with it again. -/
lemma eq_of_behind?_eq_some {keyword : List Char} (h : behind? keyword path = some rest) :
    path = keyword ∧ rest = [] ∨ path = keyword ++ "::".toList ++ rest := by
  unfold behind? Text.afterPrefix? at h
  split at h
  · next heq => exact .inl ⟨heq, (Option.some.inj h).symm⟩
  · split at h
    · next hbegins =>
      obtain ⟨more, rfl⟩ := List.isPrefixOf_iff_prefix.1 hbegins
      rw [List.drop_left] at h
      exact .inr (by rw [← Option.some.inj h]; rfl)
    · exact nomatch h

/-- What is behind a keyword is shorter than the path, so that climbing comes to an end. -/
lemma length_lt_of_behind? (step : Step) (h : behind? step.keyword path = some rest) :
    rest.length < path.length := by
  have hpos : 0 < step.keyword.length := by cases step <;> decide
  rcases eq_of_behind?_eq_some h with ⟨rfl, rfl⟩ | rfl
  · exact hpos
  · simp only [List.length_append]
    omega

/-- No path begins with both keywords. -/
lemma behind?_up_eq_none (h : behind? Step.stay.keyword path = some rest) :
    behind? Step.up.keyword path = none := by
  rw [behind?_eq_none_iff]
  rcases eq_of_behind?_eq_some h with ⟨rfl, -⟩ | rfl
  · decide
  · simp [Step.keyword]

/-- No keyword is in front of what leads on. -/
lemma LeadsOn.behind?_eq_none (h : LeadsOn rest) (step : Step) : behind? step.keyword rest = none :=
  behind?_eq_none_iff.2 (h step)

/-- Nothing begins with no step. -/
lemma leadsOn_nil : LeadsOn [] := fun step => by
  cases step <;> simp [Step.keyword]

/-- **Every text is a walk and a rest.**

**Proof sketch.** Induction on the length of the text; what stands behind a keyword is shorter. -/
lemma exists_walk (path : List Char) : ∃ steps rest, Walk steps rest path ∧ LeadsOn rest := by
  induction hn : path.length using Nat.strong_induction_on generalizing path with
  | _ n ih =>
    by_cases hfront : ∃ step : Step, ∃ more, behind? step.keyword path = some more
    · obtain ⟨step, more, hmore⟩ := hfront
      obtain ⟨steps, rest, hwalk, hrest⟩ := ih more.length (hn ▸ length_lt_of_behind? step hmore) more rfl
      rcases eq_of_behind?_eq_some hmore with ⟨rfl, rfl⟩ | rfl
      · exact ⟨[step], [], .last step, leadsOn_nil⟩
      · exact ⟨step :: steps, rest, .step step hwalk, hrest⟩
    · push Not at hfront
      refine ⟨[], path, .rest path, fun step => behind?_eq_none_iff.1 ?_⟩
      exact Option.eq_none_iff_forall_ne_some.2 (hfront step)

/-! ## The end of the loop -/

/-- **The loop comes to an end**, and climbing with as many turns as there are characters goes like it.

**Proof sketch.** Induction on the number of turns; each takes at least one character away. -/
lemma climbs_climb? (base : String) {path : List Char} {fuel : ℕ} (hfuel : path.length ≤ fuel) :
    Climbs base path (climb? base fuel path) := by
  induction fuel generalizing base path with
  | zero =>
    obtain rfl := List.eq_nil_of_length_eq_zero (Nat.le_zero.1 hfuel)
    exact .arrived (leadsOn_nil.behind?_eq_none .up) (leadsOn_nil.behind?_eq_none .stay)
  | succ fuel ih =>
    rw [climb?]
    split
    · next rest hup =>
      have hshorter : rest.length ≤ fuel := by
        have := length_lt_of_behind? .up hup
        omega
      cases habove : Name.namespace? base Name.defaultSeparator with
      | none => exact .lost hup habove
      | some above => exact .up hup habove (ih above hshorter)
    · next hup =>
      split
      · next rest hstay =>
        have hshorter : rest.length ≤ fuel := by
          have := length_lt_of_behind? .stay hstay
          omega
        exact .stay hup hstay (ih base hshorter)
      · next hstay => exact .arrived hup hstay

/-- Climbing never ends at an empty name. -/
lemma Climbs.ne_empty {result : Option (String × List Char)} (h : Climbs base path result)
    (hbase : base ≠ "") {above : String} (hresult : result = some (above, rest)) : above ≠ "" := by
  induction h with
  | up _ habove _ ih => exact ih (Name.namespace?_ne_empty habove) hresult
  | lost => exact nomatch hresult
  | stay _ _ _ ih => exact ih hbase hresult
  | arrived => exact (Prod.mk.inj (Option.some.inj hresult)).1 ▸ hbase

/-- Below a path that is not empty there is no empty text. -/
lemma below_ne_empty {above : String} (habove : above ≠ "") (path : String) :
    below above path ≠ "" := by
  rw [below, if_neg (by simpa using habove)]
  intro heq
  have hlist := congrArg String.toList heq
  simp [habove] at hlist

/-- **No path names the empty text.**

**Proof sketch.** Climbing starts at the module and never ends at an empty name, and what lies below
such a name is not empty. Without a step in front, the path itself is named, if something is left of
it. -/
lemma resolve?_ne_empty (hmodule : module ≠ "") {name : String}
    (h : resolve? module text = some name) : name ≠ "" := by
  unfold resolve? at h
  generalize withoutTail (Text.dropBlanks text.toList) = path at h
  simp only at h
  split at h
  · exact nomatch h
  · next hsolid =>
    split at h
    · exact nomatch h
    · next above rest hclimb =>
      have habove : above ≠ "" := (climbs_climb? module (Nat.le_refl _)).ne_empty hmodule hclimb
      split at h
      · rw [← Option.some.inj h]
        simpa using (not_or.1 (by simpa using hsolid)).1
      · split at h
        · exact Option.some.inj h ▸ habove
        · exact Option.some.inj h ▸ below_ne_empty habove _

/-! ## Where the loop ends -/

/-- One turn goes to the target of the step in front. -/
lemma climb?_of_behind? {fuel : ℕ} (base : String) (h : behind? step.keyword path = some rest) :
    climb? base (fuel + 1) path = (step.target? base).bind (climb? · fuel rest) := by
  cases step with
  | up =>
    rw [climb?, show behind? "super".toList path = some rest from h]
    rfl
  | stay =>
    rw [climb?, show behind? "super".toList path = none from behind?_up_eq_none h,
      show behind? "self".toList path = some rest from h]
    rfl

/-- Climbing ends at once where no step is in front. -/
lemma climb?_of_leadsOn (base : String) (fuel : ℕ) (h : LeadsOn rest) :
    climb? base fuel rest = some (base, rest) := by
  cases fuel with
  | zero => rfl
  | succ fuel =>
    rw [climb?, show behind? "super".toList rest = none from h.behind?_eq_none .up,
      show behind? "self".toList rest = none from h.behind?_eq_none .stay]

/-- Climbing one level for each `super`. -/
lemma ancestor?_count_cons (base : String) (step : Step) (steps : List Step) :
    Name.ancestor? Name.defaultSeparator base ((step :: steps).count .up) =
      (step.target? base).bind (Name.ancestor? Name.defaultSeparator · (steps.count .up)) := by
  cases step with
  | up => rw [List.count_cons_self, Name.ancestor?, Step.target?]
  | stay => simp [Step.target?]

/-- **A walk ends as many levels up as it has steps up.**

**Proof sketch.** Induction on the walk. A step to where the path already is changes nothing, and
one upwards goes to the namespace around. -/
lemma Walk.climb?_eq (h : Walk steps rest path) (hrest : LeadsOn rest) (base : String) {fuel : ℕ}
    (hfuel : steps.length ≤ fuel) : climb? base fuel path =
      (Name.ancestor? Name.defaultSeparator base (steps.count .up)).map (·, rest) := by
  induction h generalizing base fuel with
  | rest rest => exact climb?_of_leadsOn base fuel hrest
  | last step =>
    obtain ⟨fuel, rfl⟩ := Nat.exists_eq_add_one_of_ne_zero (Nat.ne_of_gt hfuel)
    rw [climb?_of_behind? base (behind?_self _), ancestor?_count_cons]
    simp only [climb?_of_leadsOn _ _ leadsOn_nil]
    cases step.target? base <;> rfl
  | @step step steps rest path _ ih =>
    rw [List.length_cons] at hfuel
    obtain ⟨fuel, rfl⟩ := Nat.exists_eq_add_one_of_ne_zero (by omega : fuel ≠ 0)
    rw [climb?_of_behind? base (behind?_append _ _), ancestor?_count_cons, Option.map_bind]
    exact congrArg (Option.bind _) (funext fun above => ih hrest above (by omega))

/-- Each step of a walk takes at least one character. -/
lemma Walk.length_add_le (h : Walk steps rest path) : steps.length + rest.length ≤ path.length := by
  have hpos : ∀ step : Step, 0 < step.keyword.length := fun step => by cases step <;> decide
  induction h with
  | rest => simp
  | last step => simpa [Nat.succ_le_iff] using hpos step
  | step step _ ih =>
    have := hpos step
    simp only [List.length_append, List.length_cons]
    omega

/-- A walk with a step begins with its keyword. -/
lemma Walk.head?_eq (h : Walk steps rest path) (hsteps : steps ≠ []) : path.head? = some 's' := by
  cases h with
  | rest => exact absurd rfl hsteps
  | last step => cases step <;> rfl
  | step step _ => cases step <;> rfl

/-- A walk with a step is more than a star. -/
lemma Walk.ne_nil_and_ne_star (h : Walk steps rest path) (hsteps : steps ≠ []) :
    path ≠ [] ∧ path ≠ ['*'] := by
  have hhead := h.head?_eq hsteps
  constructor <;> rintro rfl
  · exact nomatch hhead
  · exact absurd hhead (by decide)

/-! ## What a path names -/

/-- A path of which nothing or only a star is left names nothing. -/
lemma resolve?_eq_none (htail : withoutTail (Text.dropBlanks text.toList) = path)
    (h : path = [] ∨ path = ['*']) : resolve? module text = none := by
  unfold resolve?
  simp only [htail]
  rcases h with rfl | rfl <;> rfl

/-- **What a path names**: the rest if there are no steps, and otherwise what lies below the module where
the walk ends.

**Proof sketch.** Where climbing ends is the rest of the path. It is the whole path only if there are no
steps, because each takes a character. -/
lemma resolve?_eq_of_walk (hpath : Walk steps rest path) (hrest : LeadsOn rest)
    (htail : withoutTail (Text.dropBlanks text.toList) = path) (hsolid : path ≠ [])
    (hnostar : path ≠ ['*']) : resolve? module text =
      if steps = [] then some (String.ofList rest)
      else (Name.ancestor? Name.defaultSeparator module (steps.count .up)).map fun above =>
        if rest = [] then above else below above (String.ofList rest) := by
  have hlength := hpath.length_add_le
  unfold resolve?
  simp only [htail, hpath.climb?_eq hrest module (by omega : steps.length ≤ path.length)]
  rw [if_neg (by simp [hsolid, hnostar])]
  by_cases hsteps : steps = []
  · subst hsteps
    cases hpath
    simp [Name.ancestor?]
  · have hpos : 0 < steps.length := List.length_pos_iff.2 hsteps
    have hmoved : rest ≠ path := by
      rintro rfl
      omega
    rw [if_neg hsteps]
    cases Name.ancestor? Name.defaultSeparator module (steps.count .up) with
    | none => rfl
    | some above =>
      simp only [Option.map_some, if_neg hmoved, List.isEmpty_iff]
      exact (apply_ite some _ _ _).symm

end DepAtlas.Source
