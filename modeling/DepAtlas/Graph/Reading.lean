import DepAtlas.Graph.Basic
import DepAtlas.Unicode.Case

set_option autoImplicit false

/-!
# Words for kinds and policies

Documents and settings name kinds and policies by words, in any case.

## Main definitions

* `Kind.read`, `Policy.read` — the kind or the policy that a word names.
* `ReadingError` — a word that names nothing.
-/

namespace DepAtlas

/-- A word that names neither a kind nor a policy where one was asked for. -/
inductive ReadingError where
  | unknownKind (word : String)
  | unknownPolicy (word : String)
deriving DecidableEq, Repr

/-- What is said about a word that names nothing. -/
def ReadingError.message : ReadingError → String
  | unknownKind word => "unknown entity kind: " ++ word
  | unknownPolicy word => "unknown merge weight policy: " ++ word

/-- The kind that a word names. Several words name one kind, as languages call it by different
names. -/
def Kind.read (word : String) : Except ReadingError Kind :=
  match Unicode.lower word with
  | "unknown" => .ok .unknown
  | "module" | "namespace" | "package" => .ok .module
  | "function" | "fn" | "method" => .ok .function
  | "class" | "struct" | "enum" => .ok .class
  | "interface" | "trait" => .ok .interface
  | _ => .error (.unknownKind word)

/-- The kind that a word names, with `unknown` for a word that names none. -/
def Kind.readOrUnknown (word : String) : Kind :=
  match Kind.read word with
  | .ok kind => kind
  | .error _ => .unknown

/-- The policy that a word names. -/
def Policy.read (word : String) : Except ReadingError Policy :=
  match Unicode.lower word with
  | "sum" => .ok .sum
  | "max" | "dedup" => .ok .max
  | _ => .error (.unknownPolicy word)

end DepAtlas
