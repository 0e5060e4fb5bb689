import DepAtlas.Files.World
import DepAtlas.Text.Blank
import DepAtlas.View.Output

set_option autoImplicit false

/-!
# External tools

An invocation names a tool, which gets the input and may write files. What the tools do is not
fixed: a toolbox is any function from names to behaviours, and a behaviour may be any of the ways in
which starting a program can end.

## Main definitions

* `ToolRun` — what starting a tool comes to.
* `Toolbox` — the tools that can be found.
* `ToolRun.fault?` — why a run of a tool is a fault, if it is one.
* `Invocation.run` — runs a tool and stores what it writes.
-/

namespace DepAtlas

/-- How a tool ends. -/
inductive ExitStatus where
  | code (n : Nat)
  | signal (n : Nat)
deriving DecidableEq, Repr, Inhabited

/-- What becomes of the input of a tool. Input that is handed over need not be read: the system keeps
what the tool has not taken yet, and drops it when the tool ends. -/
inductive Feeding where
  /-- all of the input is handed over, and the tool leaves this many bytes of it unread -/
  | handedOver (unread : Nat)
  /-- the input cannot be handed over, for a reason that the system gives -/
  | brokenOff (reason : String)
deriving DecidableEq, Repr, Inhabited

/-- What starting a tool comes to. -/
inductive ToolRun where
  /-- the system does not start it, and says why -/
  | notStarted (reason : String)
  /-- it was started, but the system cannot wait for its end; what it did to the files stays -/
  | lost (reason : String) (world : World)
  /-- it came to an end, wrote something to its streams and left a world behind -/
  | ended (status : ExitStatus) (out err : ByteArray) (feeding : Feeding) (world : World)
deriving Inhabited

/-- The world after a run of a tool that was to start in another world. -/
def ToolRun.world (started : World) : ToolRun → World
  | notStarted _ => started
  | lost _ w | ended _ _ _ _ w => w

/-- What a tool wrote to its standard output, as far as it was collected. -/
def ToolRun.out : ToolRun → ByteArray
  | notStarted _ | lost _ _ => .empty
  | ended _ out _ _ _ => out

/-- The behaviour of a tool, given its arguments, its input and the world. -/
abbrev Tool := (args : List String) → (input : ByteArray) → World → ToolRun

/-- The tools that can be found, by name. A name that is not among them is a fault of its own, found
out before anything is written. -/
abbrev Toolbox := String → Option Tool

/-! ## Errors -/

/-- The names of the signals that may end a tool. -/
def signalNames : List (Nat × String) :=
  [(1, "SIGHUP"), (2, "SIGINT"), (3, "SIGQUIT"), (4, "SIGILL"), (5, "SIGTRAP"), (6, "SIGABRT"),
   (7, "SIGBUS"), (8, "SIGFPE"), (9, "SIGKILL"), (10, "SIGUSR1"), (11, "SIGSEGV"),
   (12, "SIGUSR2"), (13, "SIGPIPE"), (14, "SIGALRM"), (15, "SIGTERM")]

/-- How a tool ended, in words. -/
def ExitStatus.text : ExitStatus → String
  | code n => "exit status: " ++ toString n
  | signal n =>
    match signalNames.find? fun entry => entry.1 == n with
    | some (_, name) => "signal: " ++ toString n ++ " (" ++ name ++ ")"
    | none => "signal: " ++ toString n

/-- Why a tool did not do its work. -/
inductive ToolFault where
  | notFound
  | ended (status : ExitStatus)
  /-- it said so itself, or the system did -/
  | said (text : String)
  | stoppedReading (reason : String)
deriving DecidableEq, Repr

/-- What is said about a fault of a tool. Where the tool wrote something besides its output, this
stands in the place of its exit status. -/
def ToolFault.message (tool : String) (f : ToolFault) : String :=
  tool ++ " failed: " ++ match f with
    | notFound => "not found on PATH (cannot find binary path)"
    | ended status => "exited with " ++ status.text
    | said text => text
    | stoppedReading reason => "stopped reading its input (" ++ reason ++ ")"

/-- What can go wrong with an invocation. -/
inductive InvocationError where
  | tool (name : String) (fault : ToolFault)
  /-- a file could not be written -/
  | io
deriving DecidableEq, Repr

/-! ## Running -/

/-- Why a run of a tool is a fault, if it is one. How the tool ended counts before what became of
its input: a tool that fails early need not read any of it. What it leaves unread of an input that
was handed over is not seen by anyone, so it is no fault. -/
def ToolRun.fault? : ToolRun → Option ToolFault
  | notStarted reason | lost reason _ => some (.said reason)
  | ended (.code 0) _ _ (.handedOver _) _ => none
  | ended (.code 0) _ _ (.brokenOff reason) _ => some (.stoppedReading reason)
  | ended status _ err _ _ =>
    let said := Text.trim (Text.decodeAnyway err).toList
    some (if said.isEmpty then .ended status else .said (String.ofList said))

namespace Invocation

/-- The world with the copy of the input, if one is kept. The directory of the copy has to be there;
it is the one of the output file. -/
def withSource? (i : Invocation) (w : World) : Option World :=
  match i.keepSource with
  | none => some w
  | some path => w.write? path i.input.toUTF8

/-- Runs a tool that was found. What it printed is stored only if the run is no fault, and only for
a tool that does not write its file itself. -/
def runTool (i : Invocation) (tool : Tool) (w : World) : Except InvocationError Unit × World :=
  let r := tool i.args i.input.toUTF8 w
  match r.fault? with
  | some fault => (.error (.tool i.program fault), r.world w)
  | none =>
    if i.captureStdout then
      match (r.world w).write? i.output r.out with
      | some captured => (.ok (), captured)
      | none => (.error .io, r.world w)
    else (.ok (), r.world w)

/-- Runs a tool. It is looked up first, and the copy of its input is written before it is started.
So the copy stays behind if the tool then fails, and it is not made for a tool that is not found. -/
def run (box : Toolbox) (i : Invocation) (w : World) : Except InvocationError Unit × World :=
  match box i.program with
  | none => (.error (.tool i.program .notFound), w)
  | some tool =>
    -- from here on the copy stays, whatever becomes of the tool
    match i.withSource? w with
    | none => (.error .io, w)
    | some started => i.runTool tool started

end Invocation

end DepAtlas
