import DepAtlas.Files.World
import DepAtlas.Graph.Builder
import DepAtlas.Source.File
import DepAtlas.Source.Module

set_option autoImplicit false

/-!
# Static analysis

## Main definitions

* `analyse` — the graph of a list of source files.
-/

namespace DepAtlas.Source

/-- A syntax error in a file. -/
structure FileSyntaxError where
  file : String
  error : SyntaxError
deriving DecidableEq, Repr

/-- A builder with everything that a file says as the module of its path. The declared entities come
first, so an entity keeps its kind where the file also depends on it. -/
def addFile (b : Builder) (path : String) (f : SourceFile) : Builder :=
  let module := moduleName path
  let facts := (f.targets module).map fun target =>
    (⟨⟨module, .module⟩, ⟨target, .unknown⟩⟩ : Fact)
  (b.declareAll (f.declared module)).addAll facts

/-- Adds a file to what is built, unless it cannot be read. A syntax error ends the whole analysis,
while what cannot be read is passed over. -/
def analyseFile (w : World) (b : Builder) (path : String) : Except FileSyntaxError Builder :=
  match w.read? path with
  | none => .ok b
  | some contents =>
    match SourceFile.ofBytes? contents with
    | .ok f => .ok (addFile b path f)
    | .error e => .error ⟨path, e⟩

/-- The graph of a list of source files. Files that cannot be read are left out. -/
def analyse (w : World) (files : List String) : Except FileSyntaxError Graph :=
  (files.foldlM (analyseFile w) Builder.empty).map Builder.graph

end DepAtlas.Source
