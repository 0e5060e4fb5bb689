import DepAtlas.Graph.Basic
import DepAtlas.Toml.Reader

set_option autoImplicit false

/-!
# Configuration files

A configuration file has five sections, each with options that may be left out. A section is a
table, or an array of its options in their order.

## Main definitions

* `ConfigFile` — the options that a file gives.
* `ConfigFile.read?` — reads a file.
-/

namespace DepAtlas

/-- The options that a configuration file gives. What is left out is none, but for the two lists of
patterns, where it is the empty list. -/
structure ConfigFile where
  quiet : Option Bool := none
  internals : Option Bool := none
  internalPrefixes : Option (List String) := none
  separator : Option String := none
  depth : Option Nat := none
  excludeRegex : Option String := none
  noExternal : Option Bool := none
  noClasses : Option Bool := none
  includes : List String := []
  excludes : List String := []
  weights : Option String := none
  dot : Option String := none
  plantUml : Option String := none
deriving DecidableEq, Repr, Inhabited

namespace ConfigFile

/-! ## Values of options -/

/-- A truth value; a text that spells one is not enough. -/
def flag? : Toml → Option Bool
  | .flag b => some b
  | _ => none

/-- A text. -/
def text? : Toml → Option String
  | .text s => some s
  | _ => none

/-- A list of texts. -/
def texts? : Toml → Option (List String)
  | .array items => items.mapM text?
  | _ => none

/-- A number that is not negative. Its bound is that of the integers of a document. -/
def number? : Toml → Option Nat
  | .integer (.ofNat n) => some n
  | _ => none

/-! ## Sections -/

/-- A section that is not there has no options. -/
def sectionOf (document : Toml) (name : String) : Toml :=
  (document.member? name).getD (.table [])

/-- What a section says about the option with a name, which is the one at an index in the order of
its options: perhaps nothing, if the section is a table; a moment in place of a section counts as an
empty table. -/
def optionIn? (s : Toml) (index : Nat) (name : String) : Option (Option Toml) :=
  match s with
  | .table _ => some (s.member? name)
  | .moment _ => some none
  | .array items => items[index]?.map some
  | _ => none

/-- An option of a section, read as a value. -/
def option? {α : Type} (read : Toml → Option α) (s : Toml) (index : Nat) (name : String) :
    Option (Option α) := do
  match ← optionIn? s index name with
  | none => some none
  | some v => do some (some (← read v))

/-- A list of texts in a section; one that is not there is empty. -/
def list? (s : Toml) (index : Nat) (name : String) : Option (List String) :=
  match s, optionIn? s index name with
  | _, some none => some []
  | _, some (some v) => texts? v
  | .array _, none => some []
  | _, none => none

/-- The names of the sections. -/
def sectionNames : List String := ["defaults", "filters", "targeting", "merge", "tools"]

/-- Reads the table of a document. There are no other sections, while an option that no section
knows is passed over. -/
def ofToml? (document : Toml) : Option ConfigFile := do
  match document with
  | .table members => if members.any fun m => !sectionNames.contains m.1 then none
  | _ => none
  let defaults := sectionOf document "defaults"
  let filters := sectionOf document "filters"
  let targeting := sectionOf document "targeting"
  let merge := sectionOf document "merge"
  let tools := sectionOf document "tools"
  some
    { quiet := ← option? flag? defaults 0 "quiet"
      internals := ← option? flag? filters 0 "internals"
      internalPrefixes := ← option? texts? filters 1 "internal_prefixes"
      separator := ← option? text? filters 2 "separator"
      depth := ← option? number? filters 3 "depth"
      excludeRegex := ← option? text? filters 4 "exclude_regex"
      noExternal := ← option? flag? filters 5 "no_external"
      noClasses := ← option? flag? filters 6 "no_classes"
      includes := ← list? targeting 0 "include"
      excludes := ← list? targeting 1 "exclude"
      weights := ← option? text? merge 0 "weights"
      dot := ← option? text? tools 0 "dot"
      plantUml := ← option? text? tools 1 "plantuml" }

/-- Reads the text of a configuration file. -/
def read? (text : String) : Option ConfigFile := do
  ofToml? (← Toml.read? text)

end ConfigFile

end DepAtlas
