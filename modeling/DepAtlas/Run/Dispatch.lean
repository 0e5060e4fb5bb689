import DepAtlas.Graph.Merge
import DepAtlas.Run.Execute

set_option autoImplicit false

/-!
# Building a graph and showing it

The graph of a command is built by collaborators: one locates source files, one analyses them, and
one reads traces. They may have effects of their own.

## Main definitions

* `Collaborators` — the three of them, in a monad.
* `Collaborators.graph` — the graph of a command before any filter.
* `Collaborators.dispatch` — builds the graph, filters it and shows it.
-/

namespace DepAtlas

/-- Those who help to build a graph. -/
structure Collaborators (m : Type → Type) where
  locate : (sources : List String) → m (Except Failure (List String))
  analyse : (files : List String) → m (Except Failure Graph)
  trace : (path : String) → m (Except Failure Graph)

namespace Collaborators

variable {m : Type → Type} [Monad m]

/-- The graph of some sources, with the dependencies of a trace merged in. The trace is read only
after the sources are analysed, so a faulty source is reported before a faulty trace. -/
def graph (c : Collaborators m) (sources : List String) (trace : Option String) (policy : Policy) :
    m (Except Failure Graph) := do
  match ← c.locate sources with
  | .error e => pure (.error e)
  | .ok files =>
    match ← c.analyse files with
    | .error e => pure (.error e)
    | .ok static =>
      match trace with
      | none => pure (.ok static)
      | some path => do
        pure ((← c.trace path).map fun dynamic => static.merge dynamic policy)

/-- Builds a graph, filters it and shows it. A syntax error in a source is no failure, but gives an
exit code of its own. The pattern of the filters is checked before anything else. -/
def dispatch (c : Collaborators m) (box : Toolbox) (config : Config) (sources : List String)
    (trace : Option String) (p : Presentation) (s : Session) : m Result := do
  match Pipeline.ofSettings? config.filters with
  | .error _ => pure (.error .badPattern, s)
  | .ok pipeline =>
    match ← c.graph sources trace config.weights with
    | .error (.sourceSyntax e) => pure (.ok failureCode, s.say (errorLine e.message))
    | .error e => pure (.error e, s)
    | .ok g => pure (p.execute box config.tools pipeline.post (pipeline.applyPre g) s)

end Collaborators

end DepAtlas
