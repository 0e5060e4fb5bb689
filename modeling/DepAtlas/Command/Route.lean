import DepAtlas.Command.Basic

set_option autoImplicit false

/-!
# What an argument list asks for

Before any option is read, a scan of the raw tokens decides which command was asked for.

## Main definitions

* `ArgumentList` — the name of the program and its arguments.
* `Route` — what is asked for.
* `ArgumentList.route` — the scan.
* `ArgumentList.commandArgs` — the arguments of a command without its name.
-/

namespace DepAtlas

/-- The name under which the program was called, and the tokens after it. -/
structure ArgumentList where
  program : String
  args : List String
deriving DecidableEq, Repr, Inhabited

/-- What an argument list asks for. -/
inductive Route where
  | help (topic : Option String)
  | version
  | list
  | selfTest
  | analyze (command : Command)
  | unknown (name : String)
deriving DecidableEq, Repr, Inhabited

/-- Whether a route looks at source code. -/
def Route.needsAnalysis : Route → Bool
  | analyze _ => true
  | _ => false

/-- Whether a token is an option: any token with a hyphen in front, a single hyphen included. -/
def isOption (token : String) : Bool :=
  token.toList.head? == some '-'

/-- Whether a token asks for help. -/
def isHelpOption (token : String) : Bool :=
  token == "-h" || token == "--help"

/-- Whether a token asks for the version. -/
def isVersionOption (token : String) : Bool :=
  token == "-V" || token == "--version"

namespace ArgumentList

/-- The argument list of a whole command line, the name of the program first. -/
def ofCommandLine : List String → ArgumentList
  | [] => ⟨programName, []⟩
  | program :: args => ⟨program, args⟩

/-- The tokens that are no options. -/
def words (a : ArgumentList) : List String :=
  a.args.filter fun token => !isOption token

/-- The arguments without the first token that is the name. A later token with the name stays, as a
source or as the value of an option. -/
def commandArgs (a : ArgumentList) (name : String) : List String :=
  a.args.erase name

/-- The topic of a call for help: the word behind `help`, and without this word the first one. -/
def helpTopic : List String → Option String
  | "help" :: topic => topic.head?
  | words => words.head?

/-- The route of the words of an argument list that asks neither for help nor for the version by an
option. Only the first word decides, but for a call for help, whose topic is the second. -/
def routeOfWords : List String → Route
  | [] => .help none
  | "help" :: rest => .help rest.head?
  | "list" :: _ => .list
  | "self-test" :: _ => .selfTest
  | name :: _ =>
    match Command.ofName? name with
    | some command => .analyze command
    | none => .unknown name

/-- What an argument list asks for. An option that asks for help counts anywhere, one that asks
for the version only in the first place. -/
def route (a : ArgumentList) : Route :=
  -- even the value of an option asks for help if it looks like it
  if a.args.any isHelpOption then .help (helpTopic a.words)
  else if a.args.head?.any isVersionOption then .version
  else routeOfWords a.words

end ArgumentList

end DepAtlas
