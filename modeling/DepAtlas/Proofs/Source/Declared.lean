import DepAtlas.Proofs.Metrics.Reach
import DepAtlas.Proofs.Source.Analysis

set_option relaxedAutoImplicit false
set_option autoImplicit false

/-!
# What the analysed files declare

The analysis knows the kind of an entity only from the file that declares it: its module, or one of its
items. Dependencies start at modules of analysed files, so names of which nothing is known are only ever
targets. This holds after every step of the analysis, whatever the order of the files.

## Main definitions

* `DepAtlas.Graph.Knows` — the kind of a name is known.
* `DepAtlas.Graph.Owned` — the invariant: what is known is owned, and dependencies start at what is known.
* `DepAtlas.Source.Declared` — a name that one of some files declares.

## Main results

* `DepAtlas.Graph.Owned.upsert`, `DepAtlas.Graph.Owned.insert` — adding to a graph keeps the invariant.
* `DepAtlas.Source.owned_analyse` — the analysis only knows what the files declare.
-/

namespace DepAtlas

/-- What every successful step keeps, a successful run of steps keeps. This is the induction by
which the analysis of a list of files is followed file by file. -/
lemma foldlM_induction {ε α β : Type} {step : β → α → Except ε β} {motive : β → Prop} {xs : List α}
    (hstep : ∀ x ∈ xs, ∀ b b', motive b → step b x = .ok b' → motive b') {b b' : β} (hb : motive b)
    (h : xs.foldlM step b = .ok b') : motive b' := by
  induction xs generalizing b with
  | nil =>
    obtain rfl := Except.ok.inj h
    exact hb
  | cons x xs ih =>
    rw [List.foldlM_cons] at h
    cases hc : step b x with
    | error e =>
      rw [hc] at h
      exact nomatch h
    | ok c =>
      rw [hc] at h
      have hnext : motive c := hstep x List.mem_cons_self b c hb hc
      exact ih (fun y hy => hstep y (List.mem_cons_of_mem _ hy)) hnext h

/-- The more specific of two kinds is unknown only if both are. -/
lemma Kind.join_eq_unknown_iff {k l : Kind} : k.join l = .unknown ↔ k = .unknown ∧ l = .unknown := by
  cases k <;> cases l <;> decide

namespace Graph

variable {g : Graph} {owns : String → Prop}

/-! ## Known entities -/

/-- The kind of a name is known: it is an entity, and not only a target. -/
def Knows (g : Graph) (name : String) : Prop :=
  ∃ kind, g.kind? name = some kind ∧ kind ≠ .unknown

/-- One more entity is known if its kind is, and what was known stays known, since the join of two
kinds is unknown only if both are. -/
lemma knows_upsert_iff {e : Entity} {name : String} :
    (g.upsert e).Knows name ↔ (e.name = name ∧ e.kind ≠ .unknown) ∨ g.Knows name := by
  unfold Knows
  rw [kind?_upsert]
  by_cases hname : e.name = name
  · cases hkind : g.kind? name with
    | none => simp [hname]
    | some kind =>
      simp only [hname, if_true, Option.merge_some_some, Option.some.injEq, exists_eq_left', ne_eq,
        Kind.join_eq_unknown_iff, true_and]
      tauto
  · simp [hname]

/-- What is known is owned, and dependencies start at what is known. The analysis keeps this for the
names that the files declare: they are owned, and everything else is only a target. -/
structure Owned (owns : String → Prop) (g : Graph) : Prop where
  owns_of_knows : ∀ name, g.Knows name → owns name
  knows_source : ∀ source target, g.DependsOn source target → g.Knows source

namespace Owned

/-- In the empty graph nothing is known. -/
lemma empty : Graph.empty.Owned owns where
  owns_of_knows := by simp [Knows]
  knows_source := by simp [DependsOn]

/-- One more entity keeps the invariant if it is owned or of unknown kind. -/
lemma upsert (h : g.Owned owns) {e : Entity} (he : e.kind ≠ .unknown → owns e.name) :
    (g.upsert e).Owned owns := by
  refine ⟨fun name hname => ?_, fun source target hlink => ?_⟩
  · rcases knows_upsert_iff.1 hname with ⟨rfl, hkind⟩ | hold
    · exact he hkind
    · exact h.owns_of_knows name hold
  · exact knows_upsert_iff.2 (Or.inr (h.knows_source source target hlink))

/-- Declaring an entity keeps the invariant if it is owned. -/
lemma declare (h : g.Owned owns) {e : Entity} (he : owns e.name) : (g.declare e).Owned owns := by
  unfold Graph.declare
  split
  · exact h
  · exact h.upsert fun _ => he

/-- **One more dependency keeps the invariant** if its source is owned and known, and its target is owned
or unknown. -/
lemma insert (h : g.Owned owns) {source target : Entity} (hs : owns source.name)
    (hknown : source.kind ≠ .unknown) (ht : target.kind ≠ .unknown → owns target.name) (weight : ℕ)
    (policy : Policy) : (g.insert source target weight policy).Owned owns := by
  have hends : ((g.upsert source).upsert target).Owned owns := (h.upsert fun _ => hs).upsert ht
  refine ⟨hends.owns_of_knows, fun a b hlink => ?_⟩
  have hnew : ((g.upsert source).upsert target).Knows source.name :=
    knows_upsert_iff.2 (Or.inr (knows_upsert_iff.2 (Or.inl ⟨rfl, hknown⟩)))
  by_cases ha : source.name = a
  · exact ha ▸ hnew
  · have hold : g.DependsOn a b := by
      rw [DependsOn, weight?_insert, if_neg (fun h => ha h.1), Option.merge_none_right] at hlink
      exact hlink
    exact hends.knows_source a b hold

end Owned

end Graph

/-! ## Observations -/

namespace Builder

variable {b : Builder} {owns : String → Prop}

/-- Declaring what is owned keeps the invariant. -/
lemma owned_declare (h : b.graph.Owned owns) {e : Entity} (he : owns e.name) :
    (b.declare e).graph.Owned owns := by
  unfold declare
  split
  · exact h
  · exact h.declare he

/-- A fact about an owned module and a name of which nothing is known keeps the invariant. -/
lemma owned_add (h : b.graph.Owned owns) {source target : String} (hs : owns source) :
    (b.add ⟨⟨source, .module⟩, ⟨target, .unknown⟩⟩).graph.Owned owns := by
  unfold add addWeighted
  split
  · exact h
  · exact h.insert hs Kind.noConfusion (fun hne => absurd rfl hne) 1 .sum

end Builder

/-! ## Files -/

namespace Source

variable {w : World} {owns : String → Prop}

/-- A name that one of some files declares: the name of its module, or of one of its items. -/
def Declared (w : World) (paths : List String) (name : String) : Prop :=
  ∃ path ∈ paths, ∃ contents f, w.read? path = some contents ∧
    SourceFile.ofBytes? contents = .ok f ∧
    ∃ e ∈ f.declared (moduleName path), e.name = name

/-- What a file says keeps the invariant if all that it declares is owned.

**Proof sketch.** Its declarations come first. Each of its facts starts at its module, which is one of the
declarations, and leads to a name of which it says nothing. -/
lemma owned_addFile {b : Builder} (h : b.graph.Owned owns) {path : String} {f : SourceFile}
    (hdeclared : ∀ e ∈ f.declared (moduleName path), owns e.name) :
    (addFile b path f).graph.Owned owns := by
  have hmodule : owns (moduleName path) := hdeclared ⟨moduleName path, .module⟩ List.mem_cons_self
  have hdeclarations : (b.declareAll (f.declared (moduleName path))).graph.Owned owns :=
    List.foldlRecOn _ Builder.declare (motive := fun b => b.graph.Owned owns) h
      fun _ hb e he => Builder.owned_declare hb (hdeclared e he)
  refine List.foldlRecOn _ Builder.add (motive := fun b => b.graph.Owned owns) hdeclarations
    fun _ hb fact hfact => ?_
  obtain ⟨target, -, rfl⟩ := List.mem_map.1 hfact
  exact Builder.owned_add hb hmodule

/-- One file of the analysis keeps the invariant: it declares its own names, and its facts start at
its module. -/
lemma owned_analyseFile {paths : List String} {path : String} (hpath : path ∈ paths) {b b' : Builder}
    (hb : b.graph.Owned (Declared w paths)) (h : analyseFile w b path = .ok b') :
    b'.graph.Owned (Declared w paths) := by
  unfold analyseFile at h
  split at h
  · obtain rfl := Except.ok.inj h
    exact hb
  · next contents hread =>
    split at h
    · next f hf =>
      obtain rfl := Except.ok.inj h
      exact owned_addFile hb fun e he => ⟨path, hpath, contents, f, hread, hf, e, he, rfl⟩
    · exact nomatch h

/-- **The analysis only knows what the files declare**, and its dependencies start at what it knows.

**Proof sketch.** The invariant is about what all files declare, so it is kept whatever comes first. -/
theorem owned_analyse {paths : List String} {g : Graph} (h : analyse w paths = .ok g) :
    g.Owned (Declared w paths) := by
  unfold analyse at h
  cases hb : paths.foldlM (analyseFile w) Builder.empty with
  | error e =>
    rw [hb] at h
    exact nomatch h
  | ok b =>
    rw [hb] at h
    obtain rfl := Except.ok.inj h
    exact foldlM_induction (fun _ hpath _ _ => owned_analyseFile hpath) .empty hb

end Source

end DepAtlas
