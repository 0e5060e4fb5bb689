import DepAtlas.Command.Route
import DepAtlas.View.Matrix
import DepAtlas.View.Output

set_option autoImplicit false

/-!
# Help texts

## Main definitions

* `commandTable` — the list of all commands.
* `generalHelp`, `Command.help` — the help of the program and of one command.
* `helpOutput`, `unknownCommand` — what a call for help and an unknown command get.
-/

namespace DepAtlas

/-! ## The list of commands -/

/-- A line of the list of commands. -/
def commandLine (entry : String × String) : String :=
  "  " ++ Matrix.padRight 10 entry.1 ++ " " ++ entry.2 ++ "\n"

/-- The list of all commands. -/
def commandTable : String :=
  String.join ((Command.all.map fun c => commandLine (c.name, c.about))
    ++ diagnostics.map commandLine)

/-- The help of the program. -/
def generalHelp : String :=
  programName ++ " " ++ programVersion ++ "\n" ++ programPurpose ++ "\n\n"
    ++ "Usage: " ++ programName ++ " <COMMAND> [OPTIONS] <SOURCE>...\n\nCommands:\n"
    ++ commandTable
    ++ "\nRun `" ++ programName ++ " help <COMMAND>` for the options of a command.\n"

/-- The version line. -/
def versionLine : String :=
  programName ++ " " ++ programVersion ++ "\n"

/-! ## The options of a command -/

/-- The paragraph of an option: how it is written, and the lines that explain it. -/
def optionHelp (spelling : String) (lines : List String) : String :=
  spelling ++ "\n" ++ String.join (lines.map fun line => "          " ++ line ++ "\n") ++ "\n"

/-- The paragraphs of the options that every command has. -/
def sharedHelp : String :=
  optionHelp "      --include <INCLUDE>" ["Include glob patterns"]
    ++ optionHelp "      --exclude <EXCLUDE>" ["Exclude glob patterns"]
    ++ optionHelp "      --dynamic <TRACE>"
      ["JSON call trace whose dependencies are merged into the static graph"]
    ++ optionHelp "  -q, --quiet" ["Suppress progress output"]
    ++ optionHelp "      --internals" ["Keep dependencies on the standard library"]
    ++ optionHelp "      --no-external" ["Drop entities that only appear as dependency targets"]
    ++ optionHelp "      --filter-namespace <NAMESPACE>"
      ["Only keep dependencies between entities inside this namespace"]
    ++ optionHelp "      --filter-from <NAMESPACE>"
      ["Only keep dependencies that originate inside this namespace"]
    ++ optionHelp "  -d, --depth <DEPTH>" ["Collapse names to their first N namespace segments"]
    ++ optionHelp "  -e, --exclude-regex <REGEX>"
      ["Drop entities whose name matches this regular expression"]
    ++ optionHelp "      --no-classes" ["Collapse classes into their namespaces before rendering"]

/-- The paragraph of a format option. -/
def formatHelp (title values : String) : String :=
  optionHelp "  -f, --format <FORMAT>"
    [title, "", "[default: text]", "[possible values: " ++ values ++ "]"]

/-- The paragraphs of the options that one command has. -/
def Command.ownHelp : Command → String
  | uml | dot =>
    optionHelp "  -o, --output <FILE>"
        ["Write to this file; extensions other than the markup one are rendered to an image"]
      ++ optionHelp "      --keep-source" ["Keep the generated markup next to a rendered image"]
  | dsm =>
    formatHelp "Matrix format" "text, html"
      ++ optionHelp "  -o, --output <FILE>" ["Write the matrix to this file instead of stdout"]
  | text => optionHelp "      --weights" ["Append the weight of every dependency"]
  | metrics => formatHelp "Report format" "text, json"

/-- The help of a command. -/
def Command.help (c : Command) : String :=
  c.about ++ "\n\nUsage: " ++ programName ++ " " ++ c.name ++ " [OPTIONS] <SOURCE>...\n\n"
    ++ "Arguments:\n"
    ++ optionHelp "  <SOURCE>..." ["Source files, directories or glob patterns to analyze"]
    ++ "Options:\n" ++ sharedHelp ++ c.ownHelp ++ optionHelp "  -h, --help" ["Print help"]

/-! ## Answers -/

/-- What a call of a command gets that there is not: the command that may have been meant, if one is
near enough, and the list of all commands. -/
def unknownCommand (name : String) : Output :=
  .failure
    ("Command \"" ++ name ++ "\" is not defined.\n\n"
      ++ (match closestCommand? name with
        | some other => "Did you mean \"" ++ other ++ "\"?\n\n"
        | none => "")
      ++ "Available commands:\n" ++ commandTable) 2

/-- What a call for help gets, with or without a topic. A topic that is no command gets what an
unknown command gets, with its exit code. -/
def helpOutput (topic : Option String) : Output :=
  match topic with
  | none => .inline generalHelp
  | some topic =>
    match Command.ofName? topic with
    | some command => .inline command.help
    | none =>
      match diagnostics.find? fun entry => entry.1 == topic with
      | some (name, about) =>
        if name == "help" then .inline generalHelp
        else .inline (about ++ "\n\nUsage: " ++ programName ++ " " ++ name ++ "\n")
      | none => unknownCommand topic

end DepAtlas
