import DepAtlas.Proofs.Run.Output

set_option relaxedAutoImplicit false
set_option autoImplicit false

/-!
# Diagnoses do not depend on the world

A command line that asks for help, for the version, for one of the commands that look at no source, or for
a command that there is not, is answered from the command line alone. Every other one goes to the command
that its first word names.

## Main definitions

* `DepAtlas.ArgumentList.AsksForDiagnosis` — the command lines of the first kind, by their tokens.
* `DepAtlas.Output.answer?` — the answer that an output is which goes to the two streams.

## Main results

* `DepAtlas.ArgumentList.route_eq_analyze_iff` — which command lines go to a command.
* `DepAtlas.ArgumentList.diagnosis_ignores_world` — the answer is the same in every world.
-/

namespace DepAtlas

/-! ## Outputs that go to the streams -/

/-- What a run does that only has texts to show: the exit code that it ends with, and what it adds to
the output stream and to what is said besides. -/
structure Answer where
  code : ℕ
  out : String
  err : String

/-- How a run ends that gives an answer. The world does not occur in it. -/
def Answer.result (a : Answer) (s : Session) : Result :=
  (.ok a.code, { s with out := s.out ++ a.out, err := s.err ++ a.err })

/-- The answer that an output is, if it is text for one of the two streams. Files and tools need a
world. -/
def Output.answer? : Output → Option Answer
  | inline text => some ⟨successCode, text, ""⟩
  | failure message code => some ⟨code, "", message⟩
  | file .. | external _ => none

/-- Text for the streams is the same in every session. It is added to what was written there before,
and the world is left alone. -/
lemma Output.emit_of_answer?_eq_some {o : Output} {answer : Answer} (h : o.answer? = some answer)
    (box : Toolbox) (s : Session) : o.emit box s = answer.result s := by
  cases o with
  | inline text =>
    obtain rfl := Option.some.inj h
    simp [emit, Answer.result, Session.print]
  | failure message code =>
    obtain rfl := Option.some.inj h
    simp [emit, Answer.result, Session.say]
  | file path contents | external i => exact nomatch h

/-- Help is text for the streams, also on a topic that there is not: the answer is then a message and
an exit code. -/
lemma exists_answer?_helpOutput (topic : Option String) :
    ∃ answer, (helpOutput topic).answer? = some answer := by
  unfold helpOutput
  split
  · exact ⟨_, rfl⟩
  · split
    · exact ⟨_, rfl⟩
    · split
      · split <;> exact ⟨_, rfl⟩
      · exact ⟨_, rfl⟩

/-- Every diagnosis is text for the streams. Only help and the self-test have more than one kind of
answer. -/
lemma Route.exists_answer?_diagnosis (route : Route) :
    ∃ answer, route.diagnosis.answer? = some answer := by
  cases route with
  | help topic => exact exists_answer?_helpOutput topic
  | selfTest =>
    simp only [diagnosis, SelfTest.output]
    split <;> exact ⟨_, rfl⟩
  | _ => exact ⟨_, rfl⟩

/-! ## Which command lines are diagnoses -/

/-- A name belongs to at most one command. -/
lemma Command.ofName?_eq_some_iff {name : String} {c : Command} :
    Command.ofName? name = some c ↔ name = c.name := by
  constructor
  · intro h
    have hfound : Command.all.find? (fun c => c.name == name) = some c := h
    have hname := List.find?_some hfound
    exact (beq_iff_eq.mp hname).symm
  · rintro rfl
    cases c <;> rfl

namespace ArgumentList

/-- Whether a command line is answered without a look at the world: it has an option for help, begins with
one for the version, or its first word is not the name of a command that shows a graph, or missing. -/
def AsksForDiagnosis (l : ArgumentList) : Prop :=
  "-h" ∈ l.args ∨ "--help" ∈ l.args ∨ l.args.head? = some "-V" ∨ l.args.head? = some "--version" ∨
    ∀ c : Command, l.words.head? ≠ some c.name

/-- Words lead to a command if the first one is its name. The words behind it do not matter. -/
lemma routeOfWords_eq_analyze_iff {words : List String} {c : Command} :
    routeOfWords words = .analyze c ↔ words.head? = some c.name := by
  cases words with
  | nil => simp [routeOfWords]
  | cons name rest =>
    rw [List.head?_cons, Option.some.injEq, ← Command.ofName?_eq_some_iff]
    unfold routeOfWords
    split
    · next h => exact nomatch h
    -- the names of the commands that look at no source are taken first, but they are none of the others
    · next h =>
      obtain ⟨rfl, -⟩ := List.cons.inj h
      simp [show Command.ofName? "help" = none from rfl]
    · next h =>
      obtain ⟨rfl, -⟩ := List.cons.inj h
      simp [show Command.ofName? "list" = none from rfl]
    · next h =>
      obtain ⟨rfl, -⟩ := List.cons.inj h
      simp [show Command.ofName? "self-test" = none from rfl]
    · next h =>
      obtain ⟨rfl, -⟩ := List.cons.inj h
      split
      · next c' hc' => simp [hc']
      · next hnone => simp [hnone]

/-- An option for help is one of two tokens. -/
lemma any_isHelpOption_iff {args : List String} :
    args.any isHelpOption = true ↔ "-h" ∈ args ∨ "--help" ∈ args := by
  simp [isHelpOption, or_and_right, exists_or, and_comm]

/-- An option for the version is one of two tokens. -/
lemma any_isVersionOption_iff {first : Option String} :
    first.any isVersionOption = true ↔ first = some "-V" ∨ first = some "--version" := by
  cases first <;> simp [isVersionOption]

/-- **Which command a command line goes to.** It goes to one if it asks for nothing that needs no
sources, and its first word is the name of the command.

**Proof sketch.** Help is looked for first, at any place, and then the version in the first place.
What is left is decided by the words, and the words for the other diagnoses are not names of
commands. -/
theorem route_eq_analyze_iff {l : ArgumentList} {c : Command} :
    l.route = .analyze c ↔ ¬ l.AsksForDiagnosis ∧ l.words.head? = some c.name := by
  unfold route
  split
  · next hhelp =>
    have hasks : l.AsksForDiagnosis := by
      obtain h | h := any_isHelpOption_iff.mp hhelp
      · exact .inl h
      · exact .inr (.inl h)
    exact ⟨nofun, fun ⟨hnot, _⟩ => absurd hasks hnot⟩
  · next hhelp =>
    split
    · next hversion =>
      have hasks : l.AsksForDiagnosis := by
        obtain h | h := any_isVersionOption_iff.mp hversion
        · exact .inr (.inr (.inl h))
        · exact .inr (.inr (.inr (.inl h)))
      exact ⟨nofun, fun ⟨hnot, _⟩ => absurd hasks hnot⟩
    · next hversion =>
      rw [any_isHelpOption_iff, not_or] at hhelp
      rw [any_isVersionOption_iff, not_or] at hversion
      rw [routeOfWords_eq_analyze_iff]
      refine ⟨fun hname => ⟨?_, hname⟩, And.right⟩
      rintro (h | h | h | h | h)
      · exact hhelp.1 h
      · exact hhelp.2 h
      · exact hversion.1 h
      · exact hversion.2 h
      · exact h c hname

/-- A command line that asks for no diagnosis goes to the command that its first word names. -/
lemma exists_route_eq_analyze {l : ArgumentList} (h : ¬ l.AsksForDiagnosis) :
    ∃ c : Command, l.words.head? = some c.name ∧ l.route = .analyze c := by
  obtain ⟨c, hname⟩ : ∃ c : Command, l.words.head? = some c.name := by
    by_contra hnone
    push Not at hnone
    exact h (.inr (.inr (.inr (.inr hnone))))
  exact ⟨c, hname, route_eq_analyze_iff.mpr ⟨h, hname⟩⟩

/-- A route that looks at no source has its diagnosis for an output. -/
lemma output?_of_route_ne_analyze {l : ArgumentList} (h : ∀ c, l.route ≠ .analyze c) (w : World) :
    l.output? w = .ok l.route.diagnosis := by
  unfold output?
  split
  · next c hroute => exact absurd hroute (h c)
  · rfl

/-- **A diagnosis is the same in every world.** A command line with an option for help anywhere, with one
for the version in front, or whose first word is missing or names no command that shows a graph, ends with
the same exit code and writes the same texts with all files, configurations and environments and with all
tools, whatever was written before, and it leaves the world as it is. Every other command line goes to the
command that its first word names. -/
theorem diagnosis_ignores_world (l : ArgumentList) :
    (l.AsksForDiagnosis →
      ∃ (code : ℕ) (out err : String), ∀ (box : Toolbox) (s : Session),
        l.run box s = (.ok code, { s with out := s.out ++ out, err := s.err ++ err })) ∧
    (¬ l.AsksForDiagnosis →
      ∃ c : Command, l.words.head? = some c.name ∧ l.route = .analyze c) := by
  refine ⟨fun hasks => ?_, exists_route_eq_analyze⟩
  have hroute : ∀ c, l.route ≠ .analyze c := fun c hc => (route_eq_analyze_iff.mp hc).1 hasks
  obtain ⟨answer, hanswer⟩ := l.route.exists_answer?_diagnosis
  refine ⟨answer.code, answer.out, answer.err, fun box s => ?_⟩
  rw [run_eq, output?_of_route_ne_analyze hroute]
  exact Output.emit_of_answer?_eq_some hanswer box s

/-- An option for help behind a command that would write a file: nothing is written to it, whatever the
world. -/
theorem late_help_ignores_world :
    let l : ArgumentList := ⟨"deplens", ["uml", "src", "-o", "deps.puml", "--help"]⟩
    l.AsksForDiagnosis ∧
      ∃ (code : ℕ) (out err : String), ∀ (box : Toolbox) (s : Session),
        l.run box s = (.ok code, { s with out := s.out ++ out, err := s.err ++ err }) := by
  intro l
  have hasks : l.AsksForDiagnosis := by
    right
    left
    decide
  exact ⟨hasks, (diagnosis_ignores_world l).1 hasks⟩

end ArgumentList

end DepAtlas
