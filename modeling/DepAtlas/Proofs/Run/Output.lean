import DepAtlas.Run.Program
import Mathlib.Data.List.Basic

set_option relaxedAutoImplicit false
set_option autoImplicit false

/-!
# The two halves of a run

A run first works out what it has to show, and this half only reads the world. The second half puts the
output where it belongs, and only this half has effects.

## Main definitions

* `DepAtlas.Halt` — why a run has nothing to show.
* `DepAtlas.ArgumentList.output?` — what a run has to show.

## Main results

* `DepAtlas.Arguments.run_eq`, `DepAtlas.ArgumentList.run_eq` — a run in two halves.
* `DepAtlas.Arguments.output?_ne_tool` — no tool is at fault before there is an output.
-/

namespace DepAtlas

/-! ## Errors of steps -/

section Errors

variable {ε ε' α β : Type} {x : Except ε α}

/-- A step and what follows it end with an error if one of them does. -/
lemma bind_eq_error_iff {f : α → Except ε β} {e : ε} :
    (x >>= f) = .error e ↔ x = .error e ∨ ∃ a, x = .ok a ∧ f a = .error e := by
  cases x <;> simp [bind, Except.bind]

/-- A renamed error comes from an error. -/
lemma mapError_eq_error_iff {f : ε → ε'} {e : ε'} :
    x.mapError f = .error e ↔ ∃ e', x = .error e' ∧ f e' = e := by
  cases x <;> simp [Except.mapError]

/-- What ends with a value is no error. -/
lemma eq_ok_of_toOption_eq_some {a : α} (h : x.toOption = some a) : x = .ok a := by
  cases x with
  | error e => exact nomatch h
  | ok a' => exact congrArg Except.ok (Option.some.inj h)

end Errors

/-! ## The output of a command -/

/-- Why a run has nothing to show: its arguments cannot be used, or something failed. -/
inductive Halt where
  | usage (command : Command) (error : UsageError)
  | failure (error : Failure)

/-- How a run ends that has nothing to show. A syntax error has an exit code of its own. -/
def Halt.result (s : Session) : Halt → Result
  | usage command error => (.ok error.exitCode, s.say (error.report command))
  | failure (.sourceSyntax error) => (.ok failureCode, s.say (errorLine error.message))
  | failure error => (.error error, s)

/-- What the arguments of a command have to show: the configuration, the patterns for files and the rules
are worked out before the graph. -/
def Arguments.output? (a : Arguments) (w : World) : Except Failure Output := do
  let config ← (w.config a.overrides).mapError .config
  let s ← (Selection.ofPatterns? config.includes config.excludes).mapError .ofLocate
  let pipeline ← (Pipeline.ofSettings? config.filters).mapError fun _ => .badPattern
  let g ← show Except Failure Graph from
    (w.collaborators s).graph a.sources a.trace config.weights
  let shown := pipeline.applyPre g
  pure (a.presentation.output config.tools
    (if a.presentation.appliesPostFilters then applyRules pipeline.post shown else shown))

/-- **A command in two halves.** It works out its output, and then puts it where it belongs.

**Proof sketch.** Each step of the command may fail before there is an output: the configuration,
the patterns of the selection, the pipeline and the graph. The two halves fail at the same step. -/
theorem Arguments.run_eq (a : Arguments) (box : Toolbox) (s : Session) :
    a.run box s = match a.output? s.world with
      | .ok o => o.emit box s
      | .error e => (Halt.failure e).result s := by
  unfold Arguments.run Arguments.output?
  cases s.world.config a.overrides with
  | error e => rfl
  | ok config =>
    simp only [Except.mapError, bind, Except.bind]
    cases Selection.ofPatterns? config.includes config.excludes with
    | error e => cases e <;> rfl
    | ok selection =>
      simp only [Collaborators.dispatch]
      cases Pipeline.ofSettings? config.filters with
      | error e => rfl
      | ok pipeline =>
        simp only [bind]
        cases (s.world.collaborators selection).graph a.sources a.trace config.weights with
        | error e => cases e <;> rfl
        | ok g => rfl

/-- No tool is at fault when there is no graph.

**Proof sketch.** Locating, the analysis and reading a trace have failures of their own, and none of
them runs a tool. -/
lemma World.graph_ne_tool {w : World} {s : Selection} {sources : List String} {trace : Option String}
    {policy : Policy} {name : String} {fault : ToolFault} :
    (w.collaborators s).graph sources trace policy ≠ .error (.tool name fault) := by
  intro h
  simp only [Collaborators.graph, collaborators, bind, pure] at h
  cases hlocate : w.locate s sources with
  | error e =>
    simp only [hlocate, Except.mapError] at h
    cases e <;> cases h
  | ok files =>
    cases hanalyse : Source.analyse w files with
    | error e =>
      simp only [hlocate, hanalyse, Except.mapError] at h
      cases h
    | ok static =>
      simp only [hlocate, hanalyse, Except.mapError] at h
      cases trace with
      | none => cases h
      | some path =>
        simp only [traceGraph] at h
        split at h
        · cases h
        · split at h <;> cases h

/-- **No tool is at fault before there is an output.** A fault of a tool is thus one of the run of a
tool. -/
theorem Arguments.output?_ne_tool {a : Arguments} {w : World} {name : String} {fault : ToolFault} :
    a.output? w ≠ .error (.tool name fault) := by
  intro h
  simp only [Arguments.output?, bind_eq_error_iff, mapError_eq_error_iff] at h
  obtain ⟨e, -, he⟩ | ⟨config, -, h⟩ := h
  · exact nomatch he
  obtain ⟨e, -, he⟩ | ⟨s, -, h⟩ := h
  · cases e <;> exact nomatch he
  obtain ⟨e, -, he⟩ | ⟨pipeline, -, h⟩ := h
  · exact nomatch he
  obtain hgraph | ⟨g, -, he⟩ := h
  · exact World.graph_ne_tool hgraph
  · exact nomatch he

/-! ## The output of a command line -/

namespace ArgumentList

/-- What a run has to show. -/
def output? (l : ArgumentList) (w : World) : Except Halt Output :=
  match l.route with
  | .analyze command => do
    let a ← (Arguments.ofTokens command (l.commandArgs command.name)).mapError (.usage command)
    (a.output? w).mapError .failure
  | route => .ok route.diagnosis

/-- **A run in two halves.** Only a run that has something to show has effects, where help, the
version and the other diagnoses are outputs as well.

**Proof sketch.** The arguments of a command are read in both halves alike, and the rest is known of
the command. -/
theorem run_eq (l : ArgumentList) (box : Toolbox) (s : Session) :
    l.run box s = match l.output? s.world with
      | .ok o => o.emit box s
      | .error halt => halt.result s := by
  unfold run output?
  cases l.route with
  | analyze command =>
    cases h : Arguments.ofTokens command (l.commandArgs command.name) with
    | error e => simp [h, Except.mapError, bind, Except.bind, Halt.result]
    | ok a =>
      simp only [h, Arguments.run_eq, Except.mapError, bind, Except.bind]
      cases a.output? s.world <;> rfl
  | _ => rfl

/-- No tool is at fault before there is an output. -/
lemma output?_ne_tool {l : ArgumentList} {w : World} {name : String} {fault : ToolFault} :
    l.output? w ≠ .error (.failure (.tool name fault)) := by
  intro h
  unfold output? at h
  split at h
  · simp only [bind_eq_error_iff, mapError_eq_error_iff] at h
    obtain ⟨e, -, he⟩ | ⟨a, -, e, hoe, he⟩ := h
    · exact nomatch he
    · obtain rfl : e = .tool name fault := Halt.failure.inj he
      exact Arguments.output?_ne_tool hoe
  · exact nomatch h

end ArgumentList

end DepAtlas
