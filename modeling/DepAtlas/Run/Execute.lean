import DepAtlas.Run.Failure

set_option autoImplicit false

/-!
# Showing a graph

A command shows its graph on the standard output, in a file or with an external tool. All this
happens in a session, which keeps what was done so far even if the run then fails.

## Main definitions

* `Session` — the world and what was written to the two streams so far.
* `Result` — how a run ends, and the session at its end.
* `Output.emit` — puts an output where it belongs.
* `Presentation.execute` — shows a graph.
-/

namespace DepAtlas

/-- What a run has done so far: the world as it is now, what was written to the output stream, and
what was said besides it. -/
structure Session where
  world : World
  out : String := ""
  err : String := ""
deriving Inhabited

namespace Session

/-- The session after a text was written to the output stream. -/
def print (s : Session) (text : String) : Session :=
  { s with out := s.out ++ text }

/-- The session after something was said besides the output stream. -/
def say (s : Session) (text : String) : Session :=
  { s with err := s.err ++ text }

end Session

/-- How a run ends, with an exit code or a failure, and the session at its end. -/
abbrev Result := Except Failure Nat × Session

/-- The exit code of a run that was successful. -/
def successCode : Nat := 0

/-- The exit code after a syntax error in a source. -/
def failureCode : Nat := 1

/-- The exit code after wrong usage. -/
def usageCode : Nat := 2

/-- The exit code after a fault of an external tool. -/
def toolCode : Nat := 3

/-- A message for the standard error. -/
def errorLine (message : String) : String :=
  "error: " ++ message ++ "\n"

/-- Makes the directories around a file, where they are missing. -/
def World.withParent (w : World) (path : String) : Bool × World :=
  match Path.parent? path with
  | none => (true, w)
  | some components => w.makeDirectory components

/-- Writes a file and the directories around it. The directories stay if the file cannot be written. -/
def emitFile (path contents : String) (s : Session) : Result :=
  match s.world.withParent path with
  | (false, w) => (.error .io, { s with world := w })
  | (true, w) =>
    match w.write? path contents.toUTF8 with
    | none => (.error .io, { s with world := w })
    | some written => (.ok successCode, { s with world := written })

/-- Runs an external tool. A fault of the tool is no failure of the run, but gives an exit code of
its own; a file that cannot be written is a failure, for the tool's output as for any other. -/
def emitExternal (box : Toolbox) (i : Invocation) (s : Session) : Result :=
  -- made before the tool is looked up, so the directories stay if there is none
  match s.world.withParent i.output with
  | (false, w) => (.error .io, { s with world := w })
  | (true, w) =>
    match i.run box w with
    | (.ok (), w) => (.ok successCode, { s with world := w })
    | (.error (.tool name fault), w) =>
      (.ok toolCode, { s with world := w }.say (errorLine (fault.message name)))
    | (.error .io, w) => (.error .io, { s with world := w })

/-- Puts an output where it belongs: on the output stream, in a file, with a tool, or, for an answer
that says what is wrong, besides the output stream. -/
def Output.emit (box : Toolbox) (s : Session) : Output → Result
  | inline text => (.ok successCode, s.print text)
  | file path contents => emitFile path contents s
  | external i => emitExternal box i s
  | failure message code => (.ok code, s.say message)

/-- Shows a graph, after the rules of the second stage if they apply. Nothing is written before the
whole output is made. -/
def Presentation.execute (p : Presentation) (box : Toolbox) (tools : Tools) (post : List Rule)
    (g : Graph) (s : Session) : Result :=
  (p.output tools (if p.appliesPostFilters then applyRules post g else g)).emit box s

end DepAtlas
