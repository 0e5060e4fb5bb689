import DepAtlas.Source.File
import DepAtlas.View.Output

set_option autoImplicit false

/-!
# The self-test

Snippets of source with what the analysis has to find in them.

## Main definitions

* `SelfTest.snippets` — the snippets.
* `SelfTest.output` — the report.
-/

namespace DepAtlas.SelfTest

/-- What the analysis has to find. -/
inductive Expectation where
  | dependsOn (targets : List String)
  | declares (entities : List Entity)
  | isBroken
deriving Repr

/-- A snippet of source that shows a feature. -/
structure Snippet where
  feature : String
  source : String
  expectation : Expectation
deriving Repr

/-- The module that the snippets stand in. -/
def module : String := "crate::app::service"

/-- The snippets. -/
def snippets : List Snippet :=
  [⟨"use declarations", "use crate::graph::DependencyGraph;\n",
    .dependsOn ["crate::graph::DependencyGraph"]⟩,
   ⟨"grouped use", "use std::collections::\x7bBTreeMap, HashMap\x7d;\n",
    .dependsOn ["std::collections::BTreeMap", "std::collections::HashMap"]⟩,
   ⟨"nested grouped use",
    "use crate::output::\x7bdot::\x7bDotRenderer, to_dot\x7d, text\x7d;\n",
    .dependsOn
      ["crate::output::dot::DotRenderer", "crate::output::dot::to_dot", "crate::output::text"]⟩,
   ⟨"aliased use", "use crate::io::Reader as SourceReader;\n", .dependsOn ["crate::io::Reader"]⟩,
   ⟨"glob use", "use crate::prelude::*;\n", .dependsOn ["crate::prelude"]⟩,
   ⟨"self and super paths", "use super::repo::Store;\nuse self::cache::Entry;\n",
    .dependsOn ["crate::app::repo::Store", "crate::app::service::cache::Entry"]⟩,
   ⟨"structs and enums",
    "pub struct Order \x7b id: u64 \x7d\nenum State \x7b Open, Closed \x7d\n",
    .declares
      [⟨"crate::app::service::Order", .class⟩, ⟨"crate::app::service::State", .class⟩]⟩,
   ⟨"traits", "pub trait Repository \x7b fn find(&self, id: u64); \x7d\n",
    .declares [⟨"crate::app::service::Repository", .interface⟩]⟩,
   ⟨"functions", "pub fn handle() \x7b\x7d\n",
    .declares [⟨"crate::app::service::handle", .function⟩]⟩,
   ⟨"syntax errors", "fn broken( \x7b\n", .isBroken⟩]

/-- What is wrong with the analysis of a snippet, if anything is. The first expectation that is not
met is the one that is told. -/
def complaint? (s : Snippet) : Option String :=
  match s.expectation, Source.SourceFile.ofText? s.source with
  | .isBroken, .error _ => none
  | .isBroken, .ok _ => some "no error reported"
  | _, .error e => some e.fault.message
  | .dependsOn targets, .ok f =>
    (targets.find? fun t => !(f.targets module).contains t).map fun t =>
      "no dependency on " ++ t
  | .declares entities, .ok f =>
    (entities.find? fun e => !(f.declared module).contains e).map fun e =>
      e.name ++ " not declared as " ++ e.kind.text

/-- The line of a snippet in the report. -/
def line (s : Snippet) : String :=
  match complaint? s with
  | none => "✓ " ++ s.feature ++ "\n"
  | some complaint => "✗ " ++ s.feature ++ ": " ++ complaint ++ "\n"

/-- The number of snippets without a complaint. -/
def passed : Nat := snippets.countP fun s => (complaint? s).isNone

/-- The report on all snippets. -/
def report : String :=
  String.join (snippets.map line) ++ "\n" ++ toString passed ++ " of "
    ++ toString snippets.length ++ " checks passed\n"

/-- The report, as a failure unless every snippet passes. The report is the same in both cases, only
the stream and the exit code differ. -/
def output : Output :=
  if passed = snippets.length then .inline report else .failure report 1

end DepAtlas.SelfTest
