import DepAtlas.Proofs.Files.Tree
import DepAtlas.Proofs.Run.Output

set_option relaxedAutoImplicit false
set_option autoImplicit false

/-!
# What a run leaves behind

A run that fails has written nothing to the output stream, and it has changed no file of its own accord,
but for the copy of the input that is kept for a tool that was found. What the tool does to the files is
its own affair. A run keeps in its session all that it has done, also when it fails, so each part of this
is a comparison of the session at the end with the one at the beginning.

## Main definitions

* `DepAtlas.ToolRun.Succeeds` — whether a tool did its work, as far as can be seen from outside.
* `DepAtlas.World.Starts` — the world in which a tool is started.
* `DepAtlas.Invocation.Ends` — all the ways in which an invocation can end.

## Main results

* `DepAtlas.Invocation.ends_emitExternal` — an invocation ends in one of these ways.
* `DepAtlas.Output.out_emit` — what is written to the output stream.
* `DepAtlas.ArgumentList.failing_run_writes_nothing` — failing runs, and the exit codes of runs that are
  stopped.
* `DepAtlas.ArgumentList.unread_input_goes_unnoticed` — a tool that leaves its input unread.
-/

namespace DepAtlas

/-! ## Sessions -/

namespace Session

variable (s : Session) (text : String)

/-- A printed text comes behind what was written to the output stream before. -/
@[simp] lemma out_print : (s.print text).out = s.out ++ text := rfl

/-- Printing leaves the world as it is. -/
@[simp] lemma world_print : (s.print text).world = s.world := rfl

/-- What is said besides does not get to the output stream. -/
@[simp] lemma out_say : (s.say text).out = s.out := rfl

/-- Saying something leaves the world as it is. -/
@[simp] lemma world_say : (s.say text).world = s.world := rfl

end Session

/-! ## Ends -/

/-- Whether a run ends with an error, or with an exit code other than zero. -/
def Fails : Except Failure ℕ → Prop
  | .ok code => code ≠ 0
  | .error _ => True

/-- A run that has nothing to show writes nothing to the output stream: what it has to say goes to the
other one. -/
@[simp] lemma out_result (s : Session) (halt : Halt) : (halt.result s).2.out = s.out := by
  cases halt with
  | usage command e => rfl
  | failure e => cases e <;> rfl

/-- A run that has nothing to show leaves the world as it is. -/
@[simp] lemma world_result (s : Session) (halt : Halt) : (halt.result s).2.world = s.world := by
  cases halt with
  | usage command e => rfl
  | failure e => cases e <;> rfl

/-- A syntax error is not what a run ends with. It has been said, and the run ends with an exit code. -/
lemma result_ne_sourceSyntax (s : Session) (halt : Halt) (e : Source.FileSyntaxError) :
    (halt.result s).1 ≠ .error (.sourceSyntax e) := by
  cases halt with
  | usage command e => exact nofun
  | failure e => cases e <;> exact nofun

/-- Only a fault of a tool is a reason to end with one. No other failure is turned into it. -/
lemma result_eq_tool {s : Session} {halt : Halt} {name : String} {fault : ToolFault}
    (h : (halt.result s).1 = .error (.tool name fault)) : halt = .failure (.tool name fault) := by
  cases halt with
  | usage command e => exact nomatch h
  | failure e =>
    cases e with
    | sourceSyntax e => exact nomatch h
    | _ => exact congrArg Halt.failure (Except.error.inj h)

/-! ## Tools -/

/-- Whether a tool did its work, as far as can be seen from outside: it came to an end, with zero, and its
input could be handed over to it. Whether it took all of that is not seen. -/
def ToolRun.Succeeds : ToolRun → Prop
  | ended status _ _ feeding _ => status = .code 0 ∧ ∃ unread, feeding = .handedOver unread
  | notStarted _ | lost _ _ => False

/-- A tool that did its work is the one without a fault.

**Proof sketch.** A tool that was not started or not waited for is at fault, and so is one that ends
with anything but zero. For one that ends with zero it is what became of its input that counts. -/
lemma ToolRun.fault?_eq_none_iff (r : ToolRun) : r.fault? = none ↔ r.Succeeds := by
  cases r with
  | notStarted reason => simp [fault?, Succeeds]
  | lost reason w => simp [fault?, Succeeds]
  | ended status out err feeding w =>
    by_cases hstatus : status = .code 0
    · subst hstatus
      cases feeding <;> simp [fault?, Succeeds]
    · have hfault : (ended status out err feeding w).fault? ≠ none := by
        unfold fault?
        split <;> simp_all
      simp [hfault, Succeeds, hstatus]

/-- The world in which a tool is started: only the kept copy differs, and it holds the input.
Directories may have been made. -/
structure World.Starts (w : World) (i : Invocation) (started : World) : Prop where
  surroundings : { started with files := w.files } = w
  files : ∀ place, started.files.file? place ≠ w.files.file? place →
    ∃ path, i.keepSource = some path ∧ started.place? path = some place ∧
      started.files.file? place = some i.input.toUTF8

/-- Making the directories around a file changes no file, whether all of them can be made or not. -/
lemma World.sameFiles_of_withParent_eq {w w' : World} {path : String} {made : Bool}
    (h : w.withParent path = (made, w')) : w.SameFiles w' := by
  have hsame : w.SameFiles (w.withParent path).2 := by
    unfold World.withParent
    split
    · exact .refl w
    · exact w.sameFiles_makeDirectory _
  rwa [h] at hsame

/-- Before a tool is started, directories are made and the copy of the input is written. Nothing
else happens to the files until then.

**Proof sketch.** Making directories changes no file, and writing a file changes the one at the
place which its path leads to. -/
lemma World.SameFiles.starts {w w' started : World} {i : Invocation} (h : w.SameFiles w')
    (hstarted : i.withSource? w' = some started) : w.Starts i started := by
  unfold Invocation.withSource? at hstarted
  split at hstarted
  · obtain rfl := Option.some.inj hstarted
    exact ⟨h.surroundings, fun place hne => absurd (h.files place) hne⟩
  · next path hkeep =>
    refine ⟨?_, fun place hne => ⟨path, hkeep, ?_⟩⟩
    · obtain ⟨-, -, -, -, rfl⟩ := World.of_write?_eq_some hstarted
      exact h.surroundings
    · rw [World.place?_of_write?_eq_some hstarted, World.file?_of_write?_eq_some hstarted]
      rw [World.file?_of_write?_eq_some hstarted, h.files] at hne
      split at hne
      · next hplace => simp [hplace]
      · exact absurd rfl hne

/-- What a tool that was found comes to for an invocation, when it is started in a world. -/
def Invocation.toolRun (i : Invocation) (tool : Tool) (started : World) : ToolRun :=
  tool i.args i.input.toUTF8 started

/-- The ways in which an invocation can end, each with what it comes to. The directories around the output
are made first, then the tool is looked up, then the copy of its input is written, and then it is started;
what it printed is stored at the end, if it did its work. -/
inductive Invocation.Ends (box : Toolbox) (i : Invocation) (s : Session) : Result → Prop where
  | noDirectory {w : World} (hparent : s.world.withParent i.output = (false, w)) :
      Ends box i s (.error .io, { s with world := w })
  | notFound {w : World} {message : String} (hparent : s.world.withParent i.output = (true, w))
      (hbox : box i.program = none) :
      Ends box i s (.ok toolCode, { s with world := w, err := s.err ++ message })
  | notKept {tool : Tool} {w : World} (hparent : s.world.withParent i.output = (true, w))
      (hbox : box i.program = some tool) (hkeep : i.withSource? w = none) :
      Ends box i s (.error .io, { s with world := w })
  | faulty {tool : Tool} {w started : World} {message : String}
      (hparent : s.world.withParent i.output = (true, w)) (hbox : box i.program = some tool)
      (hstarted : i.withSource? w = some started) (hnot : ¬ (i.toolRun tool started).Succeeds) :
      Ends box i s (.ok toolCode,
        { s with world := (i.toolRun tool started).world started, err := s.err ++ message })
  | done {tool : Tool} {w started : World}
      (hparent : s.world.withParent i.output = (true, w)) (hbox : box i.program = some tool)
      (hstarted : i.withSource? w = some started) (hsucceeds : (i.toolRun tool started).Succeeds)
      (hcapture : i.captureStdout = false) :
      Ends box i s (.ok successCode, { s with world := (i.toolRun tool started).world started })
  | notCaptured {tool : Tool} {w started : World}
      (hparent : s.world.withParent i.output = (true, w)) (hbox : box i.program = some tool)
      (hstarted : i.withSource? w = some started) (hsucceeds : (i.toolRun tool started).Succeeds)
      (hcapture : i.captureStdout = true)
      (hwrite : ((i.toolRun tool started).world started).write? i.output
        (i.toolRun tool started).out = none) :
      Ends box i s (.error .io, { s with world := (i.toolRun tool started).world started })
  | captured {tool : Tool} {w started last : World}
      (hparent : s.world.withParent i.output = (true, w)) (hbox : box i.program = some tool)
      (hstarted : i.withSource? w = some started) (hsucceeds : (i.toolRun tool started).Succeeds)
      (hcapture : i.captureStdout = true)
      (hwrite : ((i.toolRun tool started).world started).write? i.output
        (i.toolRun tool started).out = some last) :
      Ends box i s (.ok successCode, { s with world := last })

/-- **An invocation ends in one of these ways.**

**Proof sketch.** The cases are those of the steps of the invocation, in the order in which they are taken;
the run of a tool is split by whether it has a fault. -/
theorem Invocation.ends_emitExternal (box : Toolbox) (i : Invocation) (s : Session) :
    i.Ends box s (emitExternal box i s) := by
  unfold emitExternal
  split
  · next w hparent => exact .noDirectory hparent
  · next w hparent =>
    simp only [Invocation.run]
    cases hbox : box i.program with
    | none => exact .notFound hparent hbox
    | some tool =>
      cases hstarted : i.withSource? w with
      | none => exact .notKept hparent hbox hstarted
      | some started =>
        simp only [Invocation.runTool]
        cases hfault : (tool i.args i.input.toUTF8 started).fault? with
        | some fault =>
          have hnot : ¬ (i.toolRun tool started).Succeeds := by
            rw [← ToolRun.fault?_eq_none_iff, toolRun, hfault]
            exact Option.some_ne_none fault
          exact .faulty hparent hbox hstarted hnot
        | none =>
          have hsucceeds : (i.toolRun tool started).Succeeds :=
            (ToolRun.fault?_eq_none_iff _).mp hfault
          cases hcapture : i.captureStdout with
          | false => exact .done hparent hbox hstarted hsucceeds hcapture
          | true =>
            simp only [if_true]
            cases hwrite : ((tool i.args i.input.toUTF8 started).world started).write? i.output
              (tool i.args i.input.toUTF8 started).out with
            | none => exact .notCaptured hparent hbox hstarted hsucceeds hcapture hwrite
            | some last => exact .captured hparent hbox hstarted hsucceeds hcapture hwrite

/-! ## The output stream -/

/-- Writing a file writes nothing to the output stream. -/
lemma out_emitFile (path contents : String) (s : Session) :
    (emitFile path contents s).2.out = s.out := by
  unfold emitFile
  split
  · rfl
  · split <;> rfl

/-- Running a tool writes nothing to the output stream, however the run of the tool ends. -/
lemma out_emitExternal (box : Toolbox) (i : Invocation) (s : Session) :
    (emitExternal box i s).2.out = s.out := by
  have hends := i.ends_emitExternal box s
  generalize emitExternal box i s = r at hends ⊢
  cases hends <;> rfl

/-- The text that an output puts on the output stream. -/
def Output.printed : Output → String
  | inline text => text
  | file .. | external _ | failure .. => ""

/-- **What is written to the output stream** is added to what was there before: the text of an output that
is shown there, and nothing in all other cases. -/
theorem Output.out_emit (box : Toolbox) (s : Session) (o : Output) :
    (o.emit box s).2.out = s.out ++ o.printed := by
  cases o with
  | inline text => rfl
  | file path contents => simp [emit, printed, out_emitFile]
  | external i => simp [emit, printed, out_emitExternal]
  | failure message code => simp [emit, printed]

/-! ## Runs -/

/-- An output that fails is not one that is shown on the output stream. -/
lemma Output.printed_of_fails {box : Toolbox} {s : Session} {o : Output}
    (h : Fails (o.emit box s).1) : o.printed = "" := by
  cases o with
  | inline text => exact absurd rfl h
  | file path contents => rfl
  | external i => rfl
  | failure message code => rfl

/-- An output that fails leaves the files alone, or it is that of a tool which was found and
started. In the second case the files are as the tool left them.

**Proof sketch.** A file that cannot be written fails before it is changed. For a tool, the ways in
which its run can end say how far it got. -/
lemma Output.world_emit_of_fails {box : Toolbox} {s : Session} {o : Output}
    (h : Fails (o.emit box s).1) :
    s.world.SameFiles (o.emit box s).2.world ∨
      ∃ i tool started, o = .external i ∧ box i.program = some tool ∧ s.world.Starts i started ∧
        (o.emit box s).2.world = (i.toolRun tool started).world started := by
  cases o with
  | inline text => exact absurd rfl h
  | failure message code => exact .inl (.refl _)
  | file path contents =>
    simp only [Output.emit, emitFile] at h ⊢
    rcases hparent : s.world.withParent path with ⟨made, w⟩
    rw [hparent] at h
    have hsame := World.sameFiles_of_withParent_eq hparent
    cases made with
    | false => exact .inl hsame
    | true =>
      simp only at h ⊢
      cases hwrite : w.write? path contents.toUTF8 with
      | none => exact .inl hsame
      | some written =>
        rw [hwrite] at h
        exact absurd rfl h
  | external i =>
    have hends := i.ends_emitExternal box s
    simp only [Output.emit] at h ⊢
    generalize emitExternal box i s = r at hends h ⊢
    cases hends with
    | noDirectory hparent => exact .inl (World.sameFiles_of_withParent_eq hparent)
    | notFound hparent hbox => exact .inl (World.sameFiles_of_withParent_eq hparent)
    | notKept hparent hbox hkeep => exact .inl (World.sameFiles_of_withParent_eq hparent)
    | faulty hparent hbox hstarted hnot =>
      have hstarts := (World.sameFiles_of_withParent_eq hparent).starts hstarted
      exact .inr ⟨i, _, _, rfl, hbox, hstarts, rfl⟩
    | notCaptured hparent hbox hstarted hsucceeds hcapture hwrite =>
      have hstarts := (World.sameFiles_of_withParent_eq hparent).starts hstarted
      exact .inr ⟨i, _, _, rfl, hbox, hstarts, rfl⟩
    | done | captured => exact absurd rfl h

/-- No output ends with a syntax error or a fault of a tool: the first is found before there is an output,
the second is turned into an exit code. -/
lemma Output.emit_ne (box : Toolbox) (s : Session) (o : Output) :
    (∀ e, (o.emit box s).1 ≠ .error (.sourceSyntax e)) ∧
      ∀ name fault, (o.emit box s).1 ≠ .error (.tool name fault) := by
  cases o with
  | inline text => exact ⟨nofun, nofun⟩
  | failure message code => exact ⟨nofun, nofun⟩
  | file path contents =>
    simp only [Output.emit, emitFile]
    split
    · exact ⟨nofun, nofun⟩
    · split <;> exact ⟨nofun, nofun⟩
  | external i =>
    have hends := i.ends_emitExternal box s
    simp only [Output.emit]
    generalize emitExternal box i s = r at hends ⊢
    cases hends <;> exact ⟨nofun, nofun⟩

/-- A tool that was not found gives an exit code of its own. -/
lemma emitExternal_of_not_found {box : Toolbox} {i : Invocation} {s : Session} {w : World}
    (hparent : s.world.withParent i.output = (true, w)) (hbox : box i.program = none) :
    ∃ message, emitExternal box i s =
      (.ok toolCode, { s with world := w, err := s.err ++ message }) :=
  ⟨_, by simp only [emitExternal, hparent, Invocation.run, hbox, Session.say]; rfl⟩

/-- A tool that was found and did not do its work gives an exit code of its own, and only one that did has
what it printed captured. -/
lemma emitExternal_of_started {box : Toolbox} {i : Invocation} {s : Session} {w started : World}
    {tool : Tool} (hparent : s.world.withParent i.output = (true, w))
    (hbox : box i.program = some tool) (hstarted : i.withSource? w = some started) :
    let r := i.toolRun tool started
    (¬ r.Succeeds → ∃ message, emitExternal box i s =
      (.ok toolCode, { s with world := r.world started, err := s.err ++ message })) ∧
    ((emitExternal box i s).2.world ≠ r.world started →
      r.Succeeds ∧ (r.world started).write? i.output r.out = some (emitExternal box i s).2.world) := by
  intro r
  -- the tool that was found and the world that it was started in are those given here
  have hsame : ∀ {tool' : Tool} {w' started' : World}, s.world.withParent i.output = (true, w') →
      box i.program = some tool' → i.withSource? w' = some started' →
      tool' = tool ∧ started' = started := by
    intro tool' w' started' hparent' hbox' hstarted'
    obtain ⟨-, rfl⟩ := Prod.mk.inj (hparent'.symm.trans hparent)
    exact ⟨Option.some.inj (hbox'.symm.trans hbox), Option.some.inj (hstarted'.symm.trans hstarted)⟩
  have hends := i.ends_emitExternal box s
  generalize emitExternal box i s = result at hends ⊢
  cases hends with
  | noDirectory hparent' => exact nomatch hparent'.symm.trans hparent
  | notFound hparent' hbox' => exact nomatch hbox'.symm.trans hbox
  | notKept hparent' hbox' hkeep =>
    obtain ⟨-, rfl⟩ := Prod.mk.inj (hparent'.symm.trans hparent)
    exact nomatch hkeep.symm.trans hstarted
  | faulty hparent' hbox' hstarted' hnot =>
    obtain ⟨rfl, rfl⟩ := hsame hparent' hbox' hstarted'
    exact ⟨fun _ => ⟨_, rfl⟩, fun hne => absurd rfl hne⟩
  | done hparent' hbox' hstarted' hsucceeds hcapture =>
    obtain ⟨rfl, rfl⟩ := hsame hparent' hbox' hstarted'
    exact ⟨fun hnot => absurd hsucceeds hnot, fun hne => absurd rfl hne⟩
  | notCaptured hparent' hbox' hstarted' hsucceeds hcapture hwrite =>
    obtain ⟨rfl, rfl⟩ := hsame hparent' hbox' hstarted'
    exact ⟨fun hnot => absurd hsucceeds hnot, fun hne => absurd rfl hne⟩
  | captured hparent' hbox' hstarted' hsucceeds hcapture hwrite =>
    obtain ⟨rfl, rfl⟩ := hsame hparent' hbox' hstarted'
    exact ⟨fun hnot => absurd hsucceeds hnot, fun _ => ⟨hsucceeds, hwrite⟩⟩

namespace ArgumentList

variable {l : ArgumentList} {box : Toolbox} {s : Session}

/-- A run that fails has written nothing to the output stream: either it had nothing to show, or what it
had to show did not go there. -/
lemma out_run_of_fails (h : Fails (l.run box s).1) : (l.run box s).2.out = s.out := by
  rw [run_eq] at h ⊢
  cases hout : l.output? s.world with
  | error halt => exact out_result s halt
  | ok o =>
    simp only [hout] at h ⊢
    rw [Output.out_emit, Output.printed_of_fails h, String.append_empty]

/-- A run that fails leaves the files alone, or it is that of a tool which was found and started.
This is what its output does, and without an output nothing happens to the files. -/
lemma world_run_of_fails (h : Fails (l.run box s).1) :
    s.world.SameFiles (l.run box s).2.world ∨
      ∃ i tool started, l.output? s.world = .ok (.external i) ∧ box i.program = some tool ∧
        s.world.Starts i started ∧
        (l.run box s).2.world = (i.toolRun tool started).world started := by
  rw [run_eq] at h ⊢
  cases hout : l.output? s.world with
  | error halt =>
    simp only [world_result]
    exact .inl (.refl _)
  | ok o =>
    simp only [hout, Except.ok.injEq] at h ⊢
    exact o.world_emit_of_fails h

/-- No run ends with a syntax error or a fault of a tool: both have exit codes of their own. -/
lemma run_ne (l : ArgumentList) (box : Toolbox) (s : Session) :
    (∀ e, (l.run box s).1 ≠ .error (.sourceSyntax e)) ∧
      ∀ name fault, (l.run box s).1 ≠ .error (.tool name fault) := by
  rw [run_eq]
  cases hout : l.output? s.world with
  | error halt =>
    refine ⟨result_ne_sourceSyntax s halt, fun name fault heq => ?_⟩
    have hhalt : halt = .failure (.tool name fault) := result_eq_tool heq
    exact output?_ne_tool (hhalt ▸ hout)
  | ok o => exact o.emit_ne box s

/-- **A run that fails has written nothing and changed no file of its own accord.** If it ends with an
error or an exit code other than zero, the output stream holds what it held before, and either no file has
changed, or a tool was found and the files are as it left them; the world that it was started in has the
same files but for the copy of its input, where one is kept.

What a tool printed is put in a file only if it ended with zero and its input could be handed over to it. A
tool that was not found or did not succeed in this sense, be it that it could not be started or that its
end could not be waited for, always gives exit code 3, a syntax error in a source 1, and wrong usage and
unknown commands 2: none of them ends the run in another way. -/
theorem failing_run_writes_nothing (l : ArgumentList) (box : Toolbox) (s : Session) :
    (Fails (l.run box s).1 →
      (l.run box s).2.out = s.out ∧
        (s.world.SameFiles (l.run box s).2.world ∨
          ∃ i tool started, l.output? s.world = .ok (.external i) ∧ box i.program = some tool ∧
            s.world.Starts i started ∧
            (l.run box s).2.world = (i.toolRun tool started).world started)) ∧
    (∀ i w, l.output? s.world = .ok (.external i) → s.world.withParent i.output = (true, w) →
      (box i.program = none → ∃ message, l.run box s =
        (.ok toolCode, { s with world := w, err := s.err ++ message })) ∧
      ∀ tool started, box i.program = some tool → i.withSource? w = some started →
        let r := i.toolRun tool started
        (¬ r.Succeeds → ∃ message, l.run box s =
          (.ok toolCode, { s with world := r.world started, err := s.err ++ message })) ∧
        ((l.run box s).2.world ≠ r.world started →
          r.Succeeds ∧ (r.world started).write? i.output r.out = some (l.run box s).2.world)) ∧
    (∀ e, l.output? s.world = .error (.failure (.sourceSyntax e)) →
      l.run box s = (.ok failureCode, s.say (errorLine e.message))) ∧
    (∀ command e, l.output? s.world = .error (.usage command e) → e ≠ .displayHelp →
      l.run box s = (.ok usageCode, s.say (errorLine e.message))) ∧
    (∀ name, l.output? s.world = .ok (unknownCommand name) →
      ∃ message, l.run box s = (.ok usageCode, s.say message)) ∧
    (∀ e, (l.run box s).1 ≠ .error (.sourceSyntax e)) ∧
    ∀ name fault, (l.run box s).1 ≠ .error (.tool name fault) := by
  have hrun := l.run_eq box s
  refine ⟨fun h => ⟨out_run_of_fails h, world_run_of_fails h⟩, ?_, ?_, ?_, ?_, l.run_ne box s⟩
  · intro i w hout hparent
    simp only [hrun, hout, Output.emit]
    exact ⟨fun hbox => emitExternal_of_not_found hparent hbox, fun tool started hbox hstarted =>
      emitExternal_of_started hparent hbox hstarted⟩
  · intro e hout
    simp only [hrun, hout, Halt.result]
  · intro command e hout hne
    have hcode : e.exitCode = usageCode := by
      cases e with
      | displayHelp => exact absurd rfl hne
      | _ => rfl
    simp only [hrun, hout, Halt.result, hcode, UsageError.report, if_neg hne]
  · intro name hout
    simp only [hrun, hout]
    exact ⟨_, rfl⟩

/-- A tool that breaks off reading its input fails although it ends with zero. The copy of the input is
left behind, and this is the one file that the run made. -/
theorem kept_copy_of_failing_tool :
    let w : World := { files := .directory [("lib.rs", .file "use a::b;\n".toUTF8)] }
    let s : Session := { world := w, out := "before" }
    let l : ArgumentList := ⟨"deplens", ["uml", "lib.rs", "-o", "deps.png", "--keep-source"]⟩
    let broken : Tool := fun _ _ started =>
      .ended (.code 0) "half an image".toUTF8 .empty (.brokenOff "Broken pipe (os error 32)") started
    let box : Toolbox := fun name => if name = "plantuml" then some broken else none
    (l.run box s).1 = .ok toolCode ∧ (l.run box s).2.out = "before" ∧
      ((l.run box s).2.world.files.file? ["deps.puml"]).isSome ∧
      ((l.run box s).2.world.files.file? ["deps.png"]) = none ∧
      ∃ i, l.output? w = .ok (.external i) ∧ w.Starts i (l.run box s).2.world := by
  intro w s l broken box
  have hkept : ((l.run box s).2.world.files.file? ["deps.puml"]).isSome := by decide +kernel
  have hend : (l.run box s).1.toOption = some toolCode := by decide +kernel
  have hcode : (l.run box s).1 = .ok toolCode := eq_ok_of_toOption_eq_some hend
  have hfails : Fails (l.run box s).1 := by
    rw [hcode]
    exact Nat.succ_ne_zero 2
  obtain ⟨hprinted, hsame | ⟨i, tool, started, hout, hbox, hstarts, hworld⟩⟩ :=
    (failing_run_writes_nothing l box s).1 hfails
  · rw [hsame.files] at hkept
    exact absurd hkept (by decide +kernel)
  · obtain ⟨-, htool⟩ := Option.ite_none_right_eq_some.1 hbox
    obtain rfl := Option.some.inj htool
    have hleft : (l.run box s).2.world = started := hworld
    exact ⟨hcode, hprinted, hkept, by decide +kernel, i, hout, hleft ▸ hstarts⟩

/-- **A tool may leave its input unread.** If the system takes the input over, nobody notices: the run ends
with zero, and what the tool printed is in the file. -/
theorem unread_input_goes_unnoticed :
    let w : World := { files := .directory [("lib.rs", .file "use a::b;\n".toUTF8)] }
    let l : ArgumentList := ⟨"deplens", ["uml", "lib.rs", "-o", "deps.png"]⟩
    let lazy : Tool := fun _ input started =>
      .ended (.code 0) "image".toUTF8 .empty (.handedOver input.size) started
    let box : Toolbox := fun name => if name = "plantuml" then some lazy else none
    ∃ i, l.output? w = .ok (.external i) ∧ box i.program = some lazy ∧ i.captureStdout ∧
      i.input.toUTF8.size ≠ 0 ∧ (l.run box { world := w }).1 = .ok successCode ∧
      w.read? "deps.png" = none ∧
      (l.run box { world := w }).2.world.read? "deps.png" = some "image".toUTF8 := by
  intro w l lazy box
  have hout : (match l.output? w with
      | .ok (.external i) => i.program == "plantuml" && i.captureStdout && i.input.toUTF8.size != 0
      | _ => false) = true := by
    decide +kernel
  have hend : (l.run box { world := w }).1.toOption = some successCode := by decide +kernel
  split at hout
  · next i hi =>
    simp only [Bool.and_eq_true, beq_iff_eq, bne_iff_ne] at hout
    obtain ⟨⟨hprogram, hcapture⟩, hinput⟩ := hout
    exact ⟨i, hi, if_pos hprogram, hcapture, hinput, eq_ok_of_toOption_eq_some hend, by decide +kernel,
      by decide +kernel⟩
  · exact nomatch hout

end ArgumentList

end DepAtlas
