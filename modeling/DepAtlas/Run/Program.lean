import DepAtlas.Command.Help
import DepAtlas.Run.Dispatch
import DepAtlas.Run.SelfTest
import DepAtlas.Trace

set_option autoImplicit false

/-!
# The whole program

## Main definitions

* `Route.diagnosis` — the answer to a route that needs no analysis.
* `World.collaborators` — the collaborators that work on real files.
* `ArgumentList.run` — what a command line does.
-/

namespace DepAtlas

/-- The answer to a route without looking at any source; for a command that needs some, its help.
Neither the files nor the configuration have a say in it. -/
def Route.diagnosis : Route → Output
  | help topic => helpOutput topic
  | version => .inline versionLine
  | list => .inline commandTable
  | selfTest => SelfTest.output
  | unknown name => unknownCommand name
  | analyze command => .inline command.help

namespace World

/-- The graph of a trace file. A file that is no text counts as one that cannot be read. -/
def traceGraph (w : World) (path : String) : Except Failure Graph :=
  match (w.read? path).bind Text.decode? with
  | none => .error (.unreadableTrace path)
  | some text =>
    match Trace.read? text with
    | none => .error (.badTrace path)
    | some g => .ok g

/-- The collaborators that work on the files of the world. -/
def collaborators (w : World) (s : Selection) : Collaborators Id where
  locate sources := (w.locate s sources).mapError .ofLocate
  analyse files := (Source.analyse w files).mapError .sourceSyntax
  trace path := w.traceGraph path

end World

/-- What is said when the arguments of a command cannot be used: its help if that was asked for, and
else what is wrong with them. -/
def UsageError.report (e : UsageError) (c : Command) : String :=
  if e = .displayHelp then c.help else errorLine e.message

/-- Runs a command with its arguments. The configuration comes first, then the patterns that select
files: either may end the run before a source is looked at. -/
def Arguments.run (a : Arguments) (box : Toolbox) (s : Session) : Result :=
  match s.world.config a.overrides with
  | .error e => (.error (.config e), s)
  | .ok config =>
    match Selection.ofPatterns? config.includes config.excludes with
    | .error e => (.error (.ofLocate e), s)
    | .ok selection =>
      (s.world.collaborators selection).dispatch box config a.sources a.trace a.presentation s

/-- What a command line does. Only a command that needs sources reads its arguments; every other
route is answered as it stands, whatever follows on the command line. -/
def ArgumentList.run (l : ArgumentList) (box : Toolbox) (s : Session) : Result :=
  match l.route with
  | .analyze command =>
    match Arguments.ofTokens command (l.commandArgs command.name) with
    | .error e => (.ok e.exitCode, s.say (e.report command))
    | .ok a => a.run box s
  | route => route.diagnosis.emit box s

end DepAtlas
