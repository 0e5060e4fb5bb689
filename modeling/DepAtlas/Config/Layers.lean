import DepAtlas.Command.Options
import DepAtlas.Config.File
import DepAtlas.Files.World
import DepAtlas.Graph.Reading

set_option autoImplicit false

/-!
# The configuration of a run

A configuration is built in layers, each of which overrides what the layers below it say: the
defaults, the user's file, the file of the project, the environment and the command line.

## Main definitions

* `Config` — a whole configuration.
* `Config.withFile`, `Config.withEnvironment`, `Config.withOverrides` — one layer on top of a
  configuration.
* `World.config` — all layers.
-/

namespace DepAtlas

/-- A whole configuration, with the paths of the files that it was read from. -/
structure Config where
  quiet : Bool := false
  includes : List String := []
  excludes : List String := []
  filters : Settings := { internalPrefixes := ["std", "core", "alloc"] }
  weights : Policy := .sum
  tools : Tools := {}
  loaded : List String := []
deriving DecidableEq, Repr, Inhabited

/-- The two kinds of configuration files. -/
inductive ConfigLayer where
  | user
  | project
deriving DecidableEq, Repr

/-- The word for a kind of configuration file. -/
def ConfigLayer.name : ConfigLayer → String
  | user => "user"
  | project => "project"

/-- What can be wrong with a configuration file. -/
inductive ConfigError where
  | unreadable (layer : ConfigLayer) (path : String)
  | malformed (layer : ConfigLayer)
  | emptySeparator
  | unknownWeights (error : ReadingError)
deriving DecidableEq, Repr

/-- What is said about a faulty configuration file. -/
def ConfigError.message (e : ConfigError) : String :=
  "Configuration error: " ++ match e with
    | unreadable layer path => "Could not read " ++ layer.name ++ " config: " ++ path
    | malformed layer => "Invalid " ++ layer.name ++ " config:"
    | emptySeparator => "filters.separator must not be empty"
    | unknownWeights error => error.message

namespace Config

/-! ## Layers -/

/-- The separator that a file asks for, which is not empty. -/
def checkSeparator : Option String → Except ConfigError (Option String)
  | some "" => .error .emptySeparator
  | separator => .ok separator

/-- The policy that a file asks for. -/
def checkWeights : Option String → Except ConfigError (Option Policy)
  | none => .ok none
  | some word =>
    match Policy.read word with
    | .ok policy => .ok (some policy)
    | .error e => .error (.unknownWeights e)

/-- A configuration with the options of a file on top. A list of patterns that is empty overrides
nothing, while an empty list of prefixes does: it says that nothing belongs to the language. -/
def withFile (c : Config) (f : ConfigFile) : Except ConfigError Config := do
  let separator ← checkSeparator f.separator
  let weights ← checkWeights f.weights
  pure
    { c with
      quiet := f.quiet.getD c.quiet
      includes := if f.includes.isEmpty then c.includes else f.includes
      excludes := if f.excludes.isEmpty then c.excludes else f.excludes
      filters :=
        { c.filters with
          internals := f.internals.getD c.filters.internals
          -- unlike the lists above, an empty list counts here
          internalPrefixes := f.internalPrefixes.getD c.filters.internalPrefixes
          separator := separator.getD c.filters.separator
          depth := f.depth.getD c.filters.depth
          excludeRegex := f.excludeRegex <|> c.filters.excludeRegex
          noExternal := f.noExternal.getD c.filters.noExternal
          noClasses := f.noClasses.getD c.filters.noClasses }
      weights := weights.getD c.weights
      tools :=
        { dot := f.dot.getD c.tools.dot, plantUml := f.plantUml.getD c.tools.plantUml } }

/-- Whether a text in the environment means yes. Every other text means no, and overrides as such. -/
def isYes (text : String) : Bool :=
  text == "1" || String.ofList (text.toList.map Char.toLower) == "true"

/-- The environment variables that say something about the configuration. -/
def environmentNames : List String :=
  ["DEPLENS_QUIET", "DEPLENS_INTERNALS", "DEPLENS_DEPTH", "DEPLENS_EXCLUDE_REGEX",
   "DEPLENS_MERGE_WEIGHTS", "DEPLENS_DOT", "DEPLENS_PLANTUML"]

/-- A configuration with the environment on top. A number or a word that means nothing overrides
nothing, and it is no error either. -/
def withEnvironment (c : Config) (value? : String → Option String) : Config :=
  { c with
    quiet := ((value? "DEPLENS_QUIET").map isYes).getD c.quiet
    filters :=
      { c.filters with
        internals := ((value? "DEPLENS_INTERNALS").map isYes).getD c.filters.internals
        depth := ((value? "DEPLENS_DEPTH").bind readNumber?).getD c.filters.depth
        excludeRegex := value? "DEPLENS_EXCLUDE_REGEX" <|> c.filters.excludeRegex }
    weights :=
      ((value? "DEPLENS_MERGE_WEIGHTS").bind fun word => (Policy.read word).toOption).getD
        c.weights
    tools :=
      { dot := (value? "DEPLENS_DOT").getD c.tools.dot
        plantUml := (value? "DEPLENS_PLANTUML").getD c.tools.plantUml } }

/-- A configuration with the command line on top. A flag that is not given says nothing, so flags
can only be turned on here; lists of patterns replace those of the layers below. -/
def withOverrides (c : Config) (o : Overrides) : Config :=
  { c with
    -- a flag on the command line cannot be taken back, so it only ever turns on
    quiet := c.quiet || o.quiet
    includes := if o.includes.isEmpty then c.includes else o.includes
    excludes := if o.excludes.isEmpty then c.excludes else o.excludes
    filters :=
      { c.filters with
        internals := c.filters.internals || o.internals
        noExternal := c.filters.noExternal || o.noExternal
        filterNamespace := o.filterNamespace <|> c.filters.filterNamespace
        filterFrom := o.filterFrom <|> c.filters.filterFrom
        depth := o.depth.getD c.filters.depth
        excludeRegex := o.excludeRegex <|> c.filters.excludeRegex
        noClasses := c.filters.noClasses || o.noClasses } }

/-! ## Files -/

/-- A configuration with a file on top that is given by its contents, if they could be read. The
paths of the files are kept in the order in which they were read. -/
def withContents (c : Config) (layer : ConfigLayer) (path : String) (contents : Option ByteArray) :
    Except ConfigError Config := do
  match contents.bind Text.decode? with
  | none => .error (.unreadable layer path)
  | some text =>
    match ConfigFile.read? text with
    | none => .error (.malformed layer)
    | some f => do
      let c ← c.withFile f
      pure { c with loaded := c.loaded ++ [path] }

end Config

/-- The name of the configuration file of a project. -/
def projectConfigName : String := ".deplens.toml"

namespace World

/-- The place of the nearest configuration file: in the working directory or above. Anything with
its name counts, so a directory there hides the files above it. -/
def projectConfig? (w : World) : Option (List String) :=
  let directories := (List.range (w.workingDirectory.length + 1)).reverse.map fun n =>
    w.workingDirectory.take n
  (directories.map fun d => d ++ [projectConfigName]).find? fun place =>
    (w.files.at? place).isSome

/-- What is in the place of the user's configuration file, if anything is: its contents, if it can be
read. -/
def userFile? (w : World) : Option (Option ByteArray) :=
  match w.userConfig with
  | some contents => some (some contents)
  | none => if w.blocksUserConfig then some none else none

/-- The configuration with the user's file on top, if there is one. -/
def withUserConfig (w : World) (c : Config) : Except ConfigError Config :=
  match w.userFile? with
  | none => .ok c
  | some contents => c.withContents .user userConfigPath contents

/-- The configuration with the file of the project on top, if there is one. -/
def withProjectConfig (w : World) (c : Config) : Except ConfigError Config :=
  match w.projectConfig? with
  | none => .ok c
  | some place =>
    c.withContents .project (w.shown place) ((w.files.at? place).bind FileTree.contents?)

/-- The configuration of a run. The layers come from the lowest to the highest, and the first file
that cannot be used ends the building. -/
def config (w : World) (o : Overrides) : Except ConfigError Config := do
  let c ← w.withUserConfig {}
  let c ← w.withProjectConfig c
  pure ((c.withEnvironment w.environmentValue?).withOverrides o)

end World

end DepAtlas
