import DepAtlas.Filter.Rule

set_option autoImplicit false

/-!
# Filter settings and the pipeline they describe

## Main definitions

* `Settings` — the options that concern filters.
* `Settings.rules?` — the rules that the settings ask for, in the order of application.
* `Pipeline` — those rules by stage, with `Pipeline.applyPre` and `Pipeline.applyPost`.
-/

namespace DepAtlas

/-- The options that concern filters. The default asks for no rule. -/
structure Settings where
  /-- keep what belongs to the language itself -/
  internals : Bool := false
  /-- the roots of what belongs to the language -/
  internalPrefixes : List String := []
  noExternal : Bool := false
  filterNamespace : Option String := none
  filterFrom : Option String := none
  /-- the number of segments that names are cut down to; zero leaves them as they are -/
  depth : Nat := 0
  excludeRegex : Option String := none
  noClasses : Bool := false
  separator : String := Name.defaultSeparator
deriving DecidableEq, Repr, Inhabited

/-- An optional text without the blanks at its ends; a blank text counts as none. So an option that
is given as a blank text switches its rule off. -/
def nonBlank? (text : Option String) : Option String := do
  let trimmed := Text.trim (← text).toList
  if trimmed.isEmpty then none else some (String.ofList trimmed)

/-- A pattern that is not well formed. -/
structure PatternError where
  text : String
deriving DecidableEq, Repr

namespace Settings

/-- The pattern of the settings, if there is one. It is read once, when the pipeline is made, and a
pattern that cannot be read is an error even if no entity would be tested. -/
def pattern? (s : Settings) : Except PatternError (Option Pattern) :=
  match nonBlank? s.excludeRegex with
  | none => .ok none
  | some text =>
    match Pattern.read? text with
    | some pattern => .ok (some pattern)
    | none => .error ⟨text⟩

/-! Every rule that the settings may ask for, as a list with at most one entry. -/

/-- The rule against what belongs to the language. Without any prefix nothing does, and there is no
rule. -/
def internalsRule (s : Settings) : List Rule :=
  if !s.internals && !s.internalPrefixes.isEmpty then
    [.excludeInternals s.internalPrefixes s.separator]
  else []

/-- The rule against what the analysed code does not own. -/
def externalRule (s : Settings) : List Rule :=
  if s.noExternal then [.excludeExternal] else []

/-- The rule for a namespace. -/
def namespaceRule (s : Settings) : List Rule :=
  (nonBlank? s.filterNamespace).toList.map fun n => .filterNamespace n s.separator

/-- The rule for the namespace that dependencies start in. -/
def fromRule (s : Settings) : List Rule :=
  (nonBlank? s.filterFrom).toList.map fun n => .filterFrom n s.separator

/-- The rule that cuts names down. -/
def depthRule (s : Settings) : List Rule :=
  if s.depth > 0 then [.collapseDepth s.depth s.separator] else []

/-- The rule for namespaces in the place of their entities. -/
def classesRule (s : Settings) : List Rule :=
  if s.noClasses then [.collapseToNamespace s.separator] else []

/-- The rules that settings with this pattern ask for, in the order of application. The pattern
comes behind the rule that cuts names down, so it is tested on the shorter names. -/
def rulesWith (s : Settings) (pattern : Option Pattern) : List Rule :=
  s.internalsRule ++ s.externalRule ++ s.namespaceRule ++ s.fromRule ++ s.depthRule
    ++ pattern.toList.map .excludePattern ++ s.classesRule

/-- The rules that the settings ask for, in the order of application. -/
def rules? (s : Settings) : Except PatternError (List Rule) :=
  s.pattern?.map s.rulesWith

end Settings

/-- Applies rules from first to last. Each of them looks at the graph that those before it have
left, so whether an entity stays may depend on what has gone already. -/
def applyRules (rules : List Rule) (g : Graph) : Graph :=
  rules.foldl (fun g rule => rule.apply g) g

/-- The rules of both stages. -/
structure Pipeline where
  pre : List Rule
  post : List Rule
deriving Inhabited

namespace Pipeline

/-- The rules of settings, by stage. Within each stage they keep their order. -/
def ofSettings? (s : Settings) : Except PatternError Pipeline :=
  s.rules?.map fun rules =>
    ⟨rules.filter fun rule => rule.stage == .pre, rules.filter fun rule => rule.stage == .post⟩

/-- The graph after the first stage. -/
def applyPre (p : Pipeline) (g : Graph) : Graph := applyRules p.pre g

/-- The graph after the second stage. -/
def applyPost (p : Pipeline) (g : Graph) : Graph := applyRules p.post g

end Pipeline

end DepAtlas
