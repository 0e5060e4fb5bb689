import DepAtlas.Command.Presentation
import DepAtlas.Filter.Pipeline

set_option autoImplicit false

/-!
# Options of commands

Each command has a list of options. A token list is read against it from left to right: options
may stand before, between and after the sources, short flags may share one hyphen, a value may
follow in the next token, behind an equals sign or right behind a short option, and everything
after `--` is a source.

## Main definitions

* `OptionSpec` — one option with the values it takes.
* `UsageError` — what can be wrong with a token list.
* `Matches.ofTokens` — the options that a token list gives.
* `Arguments` — the arguments of a command.
* `Arguments.ofTokens` — the arguments that a token list stands for.
-/

namespace DepAtlas

/-! ## Options -/

/-- The values of an option. -/
inductive ValueKind where
  | text
  /-- a path, which is not empty -/
  | path
  /-- a number of 64 bits -/
  | number
  | choice (values : List String)
deriving DecidableEq, Repr

/-- What an option takes. -/
inductive Arity where
  /-- nothing, and it is given at most once -/
  | flag
  /-- one value, and it is given at most once -/
  | single (kind : ValueKind)
  /-- a value each time it is given -/
  | many (kind : ValueKind)
  /-- nothing: it asks for help -/
  | help
deriving DecidableEq, Repr

/-- An option: its long name, the letter that stands for it, and what it takes. -/
structure OptionSpec where
  name : String
  letter : Option Char := none
  arity : Arity
deriving DecidableEq, Repr

/-- Whether an option takes a value. -/
def OptionSpec.takesValue (o : OptionSpec) : Bool :=
  match o.arity with
  | .single _ | .many _ => true
  | .flag | .help => false

/-- What can be wrong with a token list; a call for help ends the reading too. -/
inductive UsageError where
  | missingRequiredArgument
  | unknownArgument
  | invalidValue
  | valueValidation
  | argumentConflict
  | tooManyValues
  | displayHelp
deriving DecidableEq, Repr

/-- The exit code after a usage error. -/
def UsageError.exitCode : UsageError → Nat
  | displayHelp => 0
  | _ => 2

/-- What is said about a usage error. -/
def UsageError.message : UsageError → String
  | missingRequiredArgument => "a required argument is missing"
  | unknownArgument => "there is no such argument"
  | invalidValue => "an argument lacks a value or has one that it does not take"
  | valueValidation => "the value of an argument cannot be read"
  | argumentConflict => "an argument is given more often than once"
  | tooManyValues => "an argument that takes no value has one"
  | displayHelp => "help was asked for"

/-- The sources stand among the options as an option without a name. -/
def sourceSpec : OptionSpec := ⟨"", none, .many .path⟩

/-- The options of every command. -/
def sharedOptions : List OptionSpec :=
  [⟨"include", none, .many .text⟩, ⟨"exclude", none, .many .text⟩,
   ⟨"dynamic", none, .single .path⟩, ⟨"quiet", some 'q', .flag⟩,
   ⟨"internals", none, .flag⟩, ⟨"no-external", none, .flag⟩,
   ⟨"filter-namespace", none, .single .text⟩, ⟨"filter-from", none, .single .text⟩,
   ⟨"depth", some 'd', .single .number⟩, ⟨"exclude-regex", some 'e', .single .text⟩,
   ⟨"no-classes", none, .flag⟩]

/-- The options that a command has besides the shared ones. -/
def Command.ownOptions : Command → List OptionSpec
  | uml | dot => [⟨"output", some 'o', .single .path⟩, ⟨"keep-source", none, .flag⟩]
  | dsm =>
    [⟨"format", some 'f', .single (.choice ["text", "html"])⟩,
     ⟨"output", some 'o', .single .path⟩]
  | text => [⟨"weights", none, .flag⟩]
  | metrics => [⟨"format", some 'f', .single (.choice ["text", "json"])⟩]

/-- The options of a command: those that all commands share, its own, and the one that asks for
help. -/
def Command.options (c : Command) : List OptionSpec :=
  sharedOptions ++ c.ownOptions ++ [⟨"help", some 'h', .help⟩]

/-! ## Values -/

/-- A number of 64 bits, written in digits with an optional plus sign. Zeros in front do not count,
but a number beyond the bound is no number. -/
def readNumber? (s : String) : Option Nat :=
  let digits := match s.toList with
    | '+' :: rest => rest
    | cs => cs
  let value := digits.foldl (fun n c => 10 * n + (c.toNat - 48)) 0
  if digits.isEmpty || !digits.all Char.isDigit || value > weightLimit then none else some value

/-- Checks that an option takes a value. -/
def ValueKind.check : ValueKind → String → Except UsageError Unit
  | text, _ => .ok ()
  | path, value => if value.isEmpty then .error .invalidValue else .ok ()
  | number, value => if (readNumber? value).isSome then .ok () else .error .valueValidation
  | choice values, value => if values.contains value then .ok () else .error .invalidValue

/-! ## Reading tokens -/

/-- The options found so far, each time with its values, and one whose values are still being
collected. -/
structure Matches where
  found : List (OptionSpec × List String) := []
  pending : Option (OptionSpec × List String) := none
deriving Repr, Inhabited

namespace Matches

/-- Whether an option was found. -/
def has (m : Matches) (o : OptionSpec) : Bool :=
  m.found.any fun f => f.1 == o

/-- Records an option with its values. That it was given before is found out before its value is
checked, and a call for help ends the reading at once. -/
def record (m : Matches) (o : OptionSpec) (values : List String) : Except UsageError Matches :=
  let recorded : Matches := { m with found := m.found ++ [(o, values)] }
  let checked (kind : ValueKind) : Except UsageError Matches := do
    values.forM kind.check
    pure recorded
  match o.arity with
  | .help => .error .displayHelp
  | .flag => if m.has o then .error .argumentConflict else .ok recorded
  | .single kind =>
    if values.isEmpty then .error .invalidValue
    else if m.has o then .error .argumentConflict
    else checked kind
  | .many kind => if values.isEmpty then .error .invalidValue else checked kind

/-- Records the option whose values were being collected. So a fault of these values is found only
when the next option begins, or at the end. -/
def settle (m : Matches) : Except UsageError Matches :=
  match m.pending with
  | none => .ok m
  | some (o, values) => { m with pending := none }.record o values

/-- Records an option after the one before it. -/
def give (m : Matches) (o : OptionSpec) (values : List String) : Except UsageError Matches := do
  (← m.settle).record o values

/-- Begins to collect the values of an option. -/
def await (m : Matches) (o : OptionSpec) : Except UsageError Matches := do
  pure { (← m.settle) with pending := some (o, []) }

/-- Adds a source. Sources that follow each other are recorded together; an option between them
settles the ones before it. -/
def addSource (m : Matches) (token : String) : Except UsageError Matches :=
  match m.pending with
  | some (o, values) =>
    if o == sourceSpec then .ok { m with pending := some (o, values ++ [token]) }
    else do pure { (← m.settle) with pending := some (sourceSpec, [token]) }
  | none => .ok { m with pending := some (sourceSpec, [token]) }

/-- An option with its value, which may be attached; `true` if the value is still to come. -/
def giveValue (m : Matches) (o : OptionSpec) (value : Option String) :
    Except UsageError (Matches × Bool) := do
  match value with
  | some value => pure (← m.give o [value], false)
  | none => pure (← m.await o, true)

/-- A long option, after its hyphens. A value may be attached by an equals sign, also an empty one,
and an option is given by its whole name. -/
def long (options : List OptionSpec) (m : Matches) (token : List Char) :
    Except UsageError (Matches × Bool) :=
  let (name, value) := match Text.cut? ['='] token with
    | some (name, value) => (name, some (String.ofList value))
    | none => (token, none)
  match options.find? fun o => o.name == String.ofList name with
  | none => .error .unknownArgument
  | some o =>
    if o.takesValue then m.giveValue o value
    else if value.isSome then .error .tooManyValues
    else do pure (← m.give o [], false)

/-- The short options of a token, after its hyphen. The first that takes a value takes the rest of
the token, less an equals sign in front; without a rest it takes the next token. -/
def short (options : List OptionSpec) (m : Matches) : List Char → Except UsageError (Matches × Bool)
  | [] => .ok (m, false)
  | c :: rest =>
    match options.find? fun o => o.letter == some c with
    | none => .error .unknownArgument
    | some o =>
      if o.takesValue then
        m.giveValue o (match rest with
          | [] => none
          | '=' :: value => some (String.ofList value)
          | value => some (String.ofList value))
      else do short options (← m.give o []) rest

/-- Reads tokens. `awaiting` tells whether the last option still waits for its value. Behind two
hyphens alone there are only sources, and a single hyphen is a source or a value. -/
def read (options : List OptionSpec) : (awaiting : Bool) → Matches → List String →
    Except UsageError Matches
  | _, m, [] => m.settle
  | awaiting, m, token :: rest =>
    match token.toList with
    -- what follows is a source, whatever it looks like
    | ['-', '-'] => do
      let m ← rest.foldlM addSource m
      m.settle
    | '-' :: '-' :: long => do
      let (m, awaiting) ← m.long options long
      read options awaiting m rest
    | '-' :: c :: short => do
      let (m, awaiting) ← m.short options (c :: short)
      read options awaiting m rest
    | _ =>
      match awaiting, m.pending with
      -- the option behind has no value yet, and this token is not like an option
      | true, some (o, _) => do
        read options false { m with pending := some (o, [token]) } rest
      | _, _ => do
        read options false (← m.addSource token) rest

/-- The options that a token list gives. -/
def ofTokens (options : List OptionSpec) (tokens : List String) : Except UsageError Matches :=
  read options false {} tokens

/-- All values of an option, over all times it was given. -/
def values (m : Matches) (name : String) : List String :=
  (m.found.filter fun f => f.1.name == name).flatMap Prod.snd

/-- The value of an option that takes one. -/
def value? (m : Matches) (name : String) : Option String :=
  (m.values name).head?

/-- Whether a flag was given. -/
def flag (m : Matches) (name : String) : Bool :=
  m.found.any fun f => f.1.name == name

end Matches

/-! ## Arguments -/

/-- The options on the command line that override a configuration. -/
structure Overrides where
  quiet : Bool := false
  includes : List String := []
  excludes : List String := []
  internals : Bool := false
  noExternal : Bool := false
  filterNamespace : Option String := none
  filterFrom : Option String := none
  depth : Option Nat := none
  excludeRegex : Option String := none
  noClasses : Bool := false
deriving DecidableEq, Repr, Inhabited

/-- The arguments of a command. -/
structure Arguments where
  sources : List String
  trace : Option String
  overrides : Overrides
  presentation : Presentation
deriving DecidableEq, Repr, Inhabited

/-- The presentation that a command's own options ask for. -/
def Command.presentation (c : Command) (m : Matches) : Presentation :=
  match c with
  | uml => .uml (m.value? "output") (m.flag "keep-source")
  | dot => .dot (m.value? "output") (m.flag "keep-source")
  | dsm =>
    .dsm (if m.value? "format" = some "html" then .html else .text) (m.value? "output")
  | text => .text (m.flag "weights")
  | metrics => .metrics (if m.value? "format" = some "json" then .json else .text)

/-- The overrides that the shared options ask for. -/
def Overrides.ofMatches (m : Matches) : Overrides where
  quiet := m.flag "quiet"
  includes := m.values "include"
  excludes := m.values "exclude"
  internals := m.flag "internals"
  noExternal := m.flag "no-external"
  filterNamespace := m.value? "filter-namespace"
  filterFrom := m.value? "filter-from"
  depth := (m.value? "depth").bind readNumber?
  excludeRegex := m.value? "exclude-regex"
  noClasses := m.flag "no-classes"

/-- The arguments that a token list stands for. There is at least one source, and the source of a
diagram is kept only if there is an output. -/
def Arguments.ofTokens (c : Command) (tokens : List String) : Except UsageError Arguments := do
  let m ← Matches.ofTokens c.options tokens
  if m.values sourceSpec.name = [] || (m.flag "keep-source" && !m.flag "output") then
    .error .missingRequiredArgument
  else
    pure
      { sources := m.values sourceSpec.name
        trace := m.value? "dynamic"
        overrides := .ofMatches m
        presentation := c.presentation m }

end DepAtlas
