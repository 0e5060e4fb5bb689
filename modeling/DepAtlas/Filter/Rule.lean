import DepAtlas.Graph.Retain
import DepAtlas.Graph.Rename
import DepAtlas.Name
import DepAtlas.Pattern.Reader

set_option autoImplicit false

/-!
# Filter rules

A rule makes a smaller or a coarser graph out of a graph. All but one run before the graph is
handed to a command; that one runs right before the graph is shown.

## Main definitions

* `Rule` — the closed list of rules.
* `Rule.apply` — what a rule makes of a graph.
* `Rule.stage` — when a rule runs.
-/

namespace DepAtlas

/-- When a rule runs. -/
inductive Stage where
  /-- before the graph is handed to the command -/
  | pre
  /-- right before the graph is shown -/
  | post
deriving DecidableEq, Repr

/-- The rules, in the order in which they are applied. -/
inductive Rule where
  /-- drops the entities whose root is one of the prefixes -/
  | excludeInternals (prefixes : List String) (separator : String)
  /-- drops the entities that the analysed code does not own -/
  | excludeExternal
  /-- keeps the entities within a namespace -/
  | filterNamespace («namespace» separator : String)
  /-- keeps the dependencies that start within a namespace -/
  | filterFrom («namespace» separator : String)
  /-- cuts names down to their first segments -/
  | collapseDepth (depth : Nat) (separator : String)
  /-- drops the entities in whose name the pattern occurs -/
  | excludePattern (pattern : Pattern)
  /-- puts every entity into its namespace -/
  | collapseToNamespace (separator : String)
deriving Repr, Inhabited

namespace Rule

/-- When a rule runs. -/
def stage : Rule → Stage
  | collapseToNamespace _ => .post
  | _ => .pre

/-- The name of a rule. -/
def name : Rule → String
  | excludeInternals .. => "exclude-internals"
  | excludeExternal => "exclude-external"
  | filterNamespace .. => "filter-namespace"
  | filterFrom .. => "filter-from"
  | collapseDepth .. => "depth"
  | excludePattern _ => "exclude-regex"
  | collapseToNamespace _ => "no-classes"

/-- An entity with its name cut down; one whose name changes becomes a module. A name that is
already short enough keeps its kind, unless it is written anew without its empty pieces. -/
def truncated (depth : Nat) (separator : String) (e : Entity) : Entity :=
  let name := Name.truncate e.name separator depth
  ⟨name, if name = e.name then e.kind else .module⟩

/-- The namespace around an entity, as a module. An entity without a namespace goes, and its
dependencies with it. -/
def enclosing? (separator : String) (e : Entity) : Option Entity :=
  (Name.namespace? e.name separator).map fun name => ⟨name, .module⟩

/-- What a rule makes of a graph. -/
def apply : Rule → Graph → Graph
  | excludeInternals prefixes separator, g =>
    g.retainEntities fun e => !prefixes.contains (Name.root e.name separator)
  | excludeExternal, g =>
    g.retainEntities fun e => e.kind != .unknown || g.hasDependencies e.name
  | filterNamespace around separator, g =>
    g.retainEntities fun e => Name.isWithin e.name around separator
  | filterFrom around separator, g =>
    g.retainLinks fun source _ => Name.isWithin source around separator
  | collapseDepth depth separator, g => g.rename fun e => some (truncated depth separator e)
  | excludePattern pattern, g => g.retainEntities fun e => !pattern.occursIn e.name
  | collapseToNamespace separator, g => g.rename (enclosing? separator)

end Rule

end DepAtlas
