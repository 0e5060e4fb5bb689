import DepAtlas.Proofs.Graph.CrossLinks
import DepAtlas.Proofs.Graph.Reachable
import DepAtlas.Proofs.Text.Decimal
import DepAtlas.Proofs.View.Quoted
import DepAtlas.View.Dot

set_option relaxedAutoImplicit false
set_option autoImplicit false

/-!
# Graphviz diagrams are read back

A diagram in the DOT language is a list of statements for entities and a list of statements for
links. The reader of this file takes names out of their quotes and knows nothing else about them, so
what it gives back was written as a statement.

## Main definitions

* `DepAtlas.Dot.read?` — the entities and the links of a diagram.

## Main results

* `DepAtlas.Dot.read?_toDot` — the diagram of a graph is read back.
* `DepAtlas.Dot.toDot_faithful` — diagrams are equal exactly if their graphs have the same entities
  and the same links between different entities.
-/

namespace DepAtlas.Dot

open Text (Reader)
open Text.Reader (expect before)
open Quoted (quoted reads_quote)

/-! ## Entities -/

/-- The kind of an entity with these attributes behind its label. -/
def kindOf? (attributes : String) : Option Kind :=
  Kind.all.find? fun kind => style kind ++ "];" == attributes

/-- The reader of the statement that declares an entity. -/
def nodeReader : Reader Entity := do
  expect "    "
  let name ← quoted
  expect " [label="
  let _ ← quoted
  let attributes ← before '\n'
  let kind ← kindOf? attributes
  return ⟨name, kind⟩

/-- The attributes of a kind tell the kind. -/
lemma kindOf?_style (kind : Kind) : kindOf? (style kind ++ "];") = some kind := by
  cases kind <;> decide

/-- Attributes break no line. -/
lemma newline_not_mem_style (kind : Kind) : '\n' ∉ (style kind ++ "];").toList := by
  cases kind <;> decide

/-- The statement of an entity is read back: its name in quotes, and its kind from the attributes up
to the end of the line. -/
lemma reads_node (e : Entity) : nodeReader.Reads (node e).toList e := by
  have htext : (node e).toList = "    ".toList ++ ((Quoted.quote e.name).toList ++
      (" [label=".toList ++ ((Quoted.quote e.name).toList ++
        ((style e.kind ++ "];").toList ++ ['\n'] ++ [])))) := by
    simp [node]
  rw [htext]
  refine .bind (Reader.reads_expect _) ?_
  refine .bind (reads_quote e.name) ?_
  refine .bind (Reader.reads_expect _) ?_
  refine .bind (reads_quote e.name) ?_
  refine .bind (Reader.reads_before (newline_not_mem_style e.kind)) ?_
  exact .bind_pure (Reader.reads_lift (kindOf?_style e.kind))

/-! ## Links -/

/-- The reader of what stands behind the ends of a link, the label and the end of the statement. -/
def weightReader : Reader ℕ :=
  (do
    expect ";\n"
    return 1) <|>
  do
    expect " [label=\""
    let digits ← before ' '
    expect "refs\"];\n"
    return Nat.ofDigitChars 10 digits.toList 0

/-- The reader of the statement of a link. -/
def edgeReader : Reader Dependency := do
  expect "    "
  let source ← quoted
  expect " -> "
  let target ← quoted
  let weight ← weightReader
  return ⟨source, target, weight⟩

/-- A weight is read back from its label, or from there being none.

**Proof sketch.** A weight of one is written without a label, so the first reader must fail on it,
and it does as the statement ends at once. -/
lemma reads_label {weight : ℕ} (h : 1 ≤ weight) :
    weightReader.Reads (label weight ++ ";\n").toList weight := by
  unfold label
  split
  · have htext : (s!" [label=\"{weight} refs\"]" ++ ";\n").toList = " [label=\"".toList ++
          ((toString weight).toList ++ [' '] ++ "refs\"];\n".toList) := by
      simp [toString]
    rw [htext]
    -- The first alternative begins with a semicolon, so it cannot take the label.
    refine .orElse_right (fun rest => ?_) ?_
    · exact Reader.run_expect_bind_eq_none (by simp [Text.afterPrefix?])
    · refine .bind (Reader.reads_expect _) ?_
      refine .bind (Reader.reads_before (Text.not_mem_toString (by decide) weight)) ?_
      rw [Text.ofDigitChars_toString]
      exact (Reader.reads_expect "refs\"];\n").bind_pure
  · next hsingle =>
    obtain rfl : weight = 1 := by omega
    exact .orElse_left (Reader.reads_expect ";\n").bind_pure

/-- The statement of a link is read back. -/
lemma reads_edge {d : Dependency} (h : 1 ≤ d.weight) : edgeReader.Reads (edge d).toList d := by
  have htext : (edge d).toList = "    ".toList ++ ((Quoted.quote d.source).toList ++
      (" -> ".toList ++ ((Quoted.quote d.target).toList ++ (label d.weight ++ ";\n").toList))) := by
    simp [edge]
  rw [htext]
  refine .bind (Reader.reads_expect _) ?_
  refine .bind (reads_quote d.source) ?_
  refine .bind (Reader.reads_expect _) ?_
  refine .bind (reads_quote d.target) ?_
  exact (reads_label h).bind_pure

/-! ## Diagrams -/

/-- The reader of a diagram: its entities and its links. -/
def diagramReader : Reader (List Entity × List Dependency) := do
  expect header
  let entities ← Reader.many "\n" nodeReader
  let dependencies ← Reader.many "\x7d\n" edgeReader
  return (entities, dependencies)

/-- The entities and the links of a diagram. -/
def read? (diagram : String) : Option (List Entity × List Dependency) :=
  diagramReader.value? diagram

variable {g h : Graph}

/-- **The diagram of a graph is read back.**

**Proof sketch.** An empty line ends the statements of entities, and a bracket those of links. No
statement begins with either, so the readers of both go through them one by one. -/
theorem read?_toDot (hg : g.WellFormed) :
    read? g.toDot = some (g.entities, g.crossDependencies) := by
  refine Reader.Reads.value?_eq ?_
  have htext : g.toDot.toList = header.toList ++
      ((g.entities.flatMap (fun e => (node e).toList) ++ "\n".toList) ++
        (g.crossDependencies.flatMap (fun d => (edge d).toList) ++ "\x7d\n".toList)) := by
    simp [Graph.toDot, String.toList_join, List.flatMap_map]
  rw [htext]
  refine .bind (Reader.reads_expect header) ?_
  refine .bind (.many (fun e _ => reads_node e) fun e _ rest => ?_) ?_
  · simp [node, Text.afterPrefix?]
  refine .bind_pure (.many (fun d hd => reads_edge ?_) fun d _ rest => ?_)
  · exact (hg.weight_mem d (List.mem_filter.1 hd).1).1
  · simp [edge, Text.afterPrefix?]

/-- **Diagrams are equal exactly if their graphs have the same entities and the same links between
different entities**, because a diagram gives its graph back. The quotes of a name are closed
exactly behind the escaped name, so nothing in a name is read as a part of a statement.

**Proof sketch.** What is read from a diagram are the listings of these entities and links, so equal
diagrams have equal listings. The diagram is made from the listings, which gives the other
direction. -/
theorem toDot_faithful (hg : g.WellFormed) (hh : h.WellFormed) :
    read? g.toDot = some (g.entities, g.crossDependencies) ∧
    (g.toDot = h.toDot ↔ (∀ name, g.kind? name = h.kind? name) ∧
      ∀ source target, source ≠ target → g.weight? source target = h.weight? source target) ∧
    ∀ s name rest, Quoted.close? s = some (name, rest) ↔ s = Quoted.escape name ++ '"' :: rest := by
  refine ⟨read?_toDot hg, ?_, fun s name rest => Quoted.close?_eq_some_iff⟩
  rw [← Graph.entities_eq_iff, ← Graph.crossDependencies_eq_iff]
  constructor
  · intro heq
    have hread : read? g.toDot = read? h.toDot := congrArg read? heq
    rw [read?_toDot hg, read?_toDot hh] at hread
    exact Prod.mk.inj (Option.some.inj hread)
  · rintro ⟨hentities, hlinks⟩
    rw [Graph.toDot, Graph.toDot, hentities, hlinks]

/-- A name that spells the statement of a link is one name, and its graph has another diagram than
the graph with that link. -/
theorem toDot_of_name_like_statement :
    let forged := "a\" -> \"b\\"
    let fact : String → String → Fact := fun source target =>
      ⟨⟨source, .module⟩, ⟨target, .unknown⟩⟩
    let g := Graph.ofFacts [fact forged "c", fact forged "c", fact "c" "c"]
    let h := Graph.ofFacts [fact "a" "b"]
    g.WellFormed ∧ h.WellFormed ∧ g.toDot ≠ h.toDot ∧
      read? g.toDot = some ([⟨forged, .module⟩, ⟨"c", .module⟩], [⟨forged, "c", 2⟩]) := by
  intro forged fact g h
  have hg : g.WellFormed := (Graph.Reachable.ofFacts _).wellFormed
  have hh : h.WellFormed := (Graph.Reachable.ofFacts _).wellFormed
  obtain ⟨hread, heq, -⟩ := toDot_faithful hg hh
  refine ⟨hg, hh, fun hdiagram => ?_, ?_⟩
  · exact absurd ((heq.1 hdiagram).1 "a") (by decide +kernel)
  · rw [hread]
    decide +kernel

end DepAtlas.Dot
