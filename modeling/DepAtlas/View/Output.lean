import DepAtlas.Path

set_option autoImplicit false

/-!
# Where output goes

## Main definitions

* `Target` — the destination of a diagram: the standard output, a file of markup, or an image
  that an external tool makes of the markup.
* `Target.ofOutput` — the destination that an output option names.
* `Invocation` — one call of an external tool.
* `Output` — what a view produces.
-/

namespace DepAtlas

/-- The destination of a diagram. -/
inductive Target where
  | stdout
  | markup (path : String)
  | image (path format : String)
deriving DecidableEq, Repr, Inhabited

/-- The destination named by an output option: a file with an extension that is not one of markup is
an image of that format. The case of the extension does not count, and without any the file is
markup. -/
def Target.ofOutput (output : Option String) (markupExtensions : List String) : Target :=
  match output with
  | none => .stdout
  | some path =>
    match (Path.extension? path).map Unicode.lower with
    | none => .markup path
    | some ext => if markupExtensions.contains ext then .markup path else .image path ext

/-- One call of an external tool, which gets `input` and makes the file `output`, be it that the
tool writes the file itself or that its standard output is put there. -/
structure Invocation where
  program : String
  args : List String
  input : String
  output : String
  /-- the tool writes its result to its standard output -/
  captureStdout : Bool
  /-- where a copy of the input is kept -/
  keepSource : Option String
deriving DecidableEq, Repr, Inhabited

/-- What a view produces. -/
inductive Output where
  | inline (text : String)
  | file (path contents : String)
  | external (invocation : Invocation)
  /-- a message for the standard error, and the exit code -/
  | failure (message : String) (code : Nat)
deriving DecidableEq, Repr, Inhabited

/-- The output of a text that goes to a file if one is named. -/
def Output.toFileOrInline (path : Option String) (contents : String) : Output :=
  match path with
  | some path => .file path contents
  | none => .inline contents

end DepAtlas
