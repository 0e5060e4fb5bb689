import DepAtlas.Proofs.Graph.CrossLinks
import DepAtlas.Proofs.Graph.Reachable
import DepAtlas.Proofs.Text.Decimal
import DepAtlas.Proofs.View.Quoted
import DepAtlas.View.PlantUml

set_option relaxedAutoImplicit false
set_option autoImplicit false

/-!
# Class diagrams are read back

A class diagram declares every entity under an alias and draws arrows between aliases. The aliases
count the entities, so they are different, and the names stand in quotes only once. The reader of
this file gives the declarations and the arrows back; looking up the aliases in the declarations
gives the links of the graph.

## Main definitions

* `DepAtlas.PlantUml.read?` — the declarations and the arrows of a class diagram.
* `DepAtlas.PlantUml.resolve?` — the name that is declared under an alias.

## Main results

* `DepAtlas.PlantUml.exists_read?_eq` — the class diagram of a graph is read back.
* `DepAtlas.PlantUml.resolve?_alias` — an alias stands for the entity that it was made for.
* `DepAtlas.PlantUml.toPlantUml?_faithful` — class diagrams are equal exactly if their graphs have
  the same entities and the same entities depend on each other.
-/

namespace DepAtlas.PlantUml

open Text (Reader)
open Text.Reader (expect before)
open Quoted (quoted reads_quote)

/-! ## Aliases -/

/-- Different places have different aliases. -/
lemma aliasAt_injective : Function.Injective aliasAt := by
  intro i j h
  have hdigits : (toString i).toList = (toString j).toList := by
    simpa [aliasAt] using congrArg String.toList h
  exact Text.toString_injective (String.toList_inj.1 hdigits)

/-- An alias is made of a letter and digits. -/
lemma not_mem_aliasAt {c : Char} (hletter : c ≠ 'e') (hdigit : c.isDigit = false) (place : ℕ) :
    c ∉ (aliasAt place).toList := by
  rw [aliasAt, String.toList_append, List.mem_append, not_or]
  exact ⟨by simpa using hletter, Text.not_mem_toString hdigit place⟩

/-! ## Declarations -/

/-- The kind that a keyword and a stereotype stand for. -/
def kindOf? (word mark : String) : Option Kind :=
  Kind.all.find? fun kind => keyword kind == word && stereotype kind == mark

/-- The reader of a declaration: the entity, and its alias, which goes on up to a blank. -/
def declarationReader : Reader (Entity × String) := do
  let word ← before ' '
  let name ← quoted
  expect " as "
  let ending ← before '\n'
  let mark := String.ofList (ending.toList.dropWhile (· != ' '))
  let kind ← kindOf? word mark
  return (⟨name, kind⟩, String.ofList (ending.toList.takeWhile (· != ' ')))

/-- The keyword and the stereotype of a kind tell the kind. -/
lemma kindOf?_eq (kind : Kind) : kindOf? (keyword kind) (stereotype kind) = some kind := by
  cases kind <;> decide

/-- A keyword is one word. -/
lemma blank_not_mem_keyword (kind : Kind) : ' ' ∉ (keyword kind).toList := by
  cases kind <;> decide

/-- A stereotype begins with a blank. -/
lemma takeWhile_stereotype (kind : Kind) :
    (stereotype kind).toList.takeWhile (· != ' ') = [] := by
  cases kind <;> decide

/-- A stereotype is all that stands from its blank on. -/
lemma dropWhile_stereotype (kind : Kind) :
    (stereotype kind).toList.dropWhile (· != ' ') = (stereotype kind).toList := by
  cases kind <;> decide

/-- A stereotype breaks no line. -/
lemma newline_not_mem_stereotype (kind : Kind) : '\n' ∉ (stereotype kind).toList := by
  cases kind <;> decide

/-- A declaration is read back.

**Proof sketch.** The parts are read one after the other: the keyword up to a blank, the name in
quotes, the alias, which goes on up to a blank or the end of the line, and the stereotype, which
begins with that blank or is empty. -/
lemma reads_declaration (e : Entity) (place : ℕ) :
    declarationReader.Reads (declaration e place).toList (e, aliasAt place) := by
  have hword : ∀ c ∈ (aliasAt place).toList, (c != ' ') = true := fun c hc => by
    rw [bne_iff_ne]
    rintro rfl
    exact not_mem_aliasAt (by decide) (by decide) place hc
  have hfront : (aliasAt place ++ stereotype e.kind).toList.takeWhile (· != ' ') =
      (aliasAt place).toList := by
    rw [String.toList_append, List.takeWhile_append_of_pos hword, takeWhile_stereotype,
      List.append_nil]
  have hback : (aliasAt place ++ stereotype e.kind).toList.dropWhile (· != ' ') =
      (stereotype e.kind).toList := by
    rw [String.toList_append, List.dropWhile_append_of_pos hword, dropWhile_stereotype]
  have hending : '\n' ∉ (aliasAt place ++ stereotype e.kind).toList := by
    rw [String.toList_append, List.mem_append, not_or]
    exact ⟨not_mem_aliasAt (by decide) (by decide) place, newline_not_mem_stereotype e.kind⟩
  have htext : (declaration e place).toList = (keyword e.kind).toList ++ [' '] ++
      ((Quoted.quote e.name).toList ++ (" as ".toList ++
        ((aliasAt place ++ stereotype e.kind).toList ++ ['\n'] ++ []))) := by
    simp [declaration]
  rw [htext]
  refine .bind (Reader.reads_before (blank_not_mem_keyword e.kind)) ?_
  refine .bind (reads_quote e.name) ?_
  refine .bind (Reader.reads_expect _) ?_
  refine .bind (Reader.reads_before hending) ?_
  rw [hfront, hback, String.ofList_toList, String.ofList_toList]
  exact .bind_pure (Reader.reads_lift (kindOf?_eq e.kind))

/-! ## Arrows -/

/-- The reader of an arrow: the aliases at its ends. -/
def arrowReader : Reader (String × String) := do
  let source ← before ' '
  expect "--> "
  let target ← before '\n'
  return (source, target)

/-- The line of an arrow between two aliases. -/
def arrow (ends : String × String) : String :=
  ends.1 ++ " --> " ++ ends.2 ++ "\n"

/-- An arrow is read back. -/
lemma reads_arrow (i j : ℕ) :
    arrowReader.Reads (arrow (aliasAt i, aliasAt j)).toList (aliasAt i, aliasAt j) := by
  have htext : (arrow (aliasAt i, aliasAt j)).toList = (aliasAt i).toList ++ [' '] ++
      ("--> ".toList ++ ((aliasAt j).toList ++ ['\n'])) := by
    simp [arrow]
  rw [htext]
  refine .bind (Reader.reads_before (not_mem_aliasAt (by decide) (by decide) i)) ?_
  refine .bind (Reader.reads_expect _) ?_
  exact (Reader.reads_before (not_mem_aliasAt (by decide) (by decide) j)).bind_pure

/-! ## Diagrams -/

/-- The reader of a class diagram: its declarations and its arrows. -/
def diagramReader : Reader (List (Entity × String) × List (String × String)) := do
  expect header
  let declarations ← Reader.many "\n" declarationReader
  let arrows ← Reader.many "@enduml\n" arrowReader
  return (declarations, arrows)

/-- The declarations and the arrows of a class diagram. -/
def read? (diagram : String) : Option (List (Entity × String) × List (String × String)) :=
  diagramReader.value? diagram

variable {g h : Graph}

/-- The entities of a graph with their aliases. -/
def declarations (g : Graph) : List (Entity × String) :=
  g.entities.zipIdx.map fun (e, place) => (e, aliasAt place)

/-- The aliases at the ends of the links between different entities. -/
def arrows (g : Graph) : List (String × String) :=
  g.crossLinks.map fun (source, target) =>
    (aliasAt (g.names.idxOf source), aliasAt (g.names.idxOf target))

/-- A name of the graph has the alias of its place. -/
lemma aliasOf?_eq {names : List String} {name : String} (h : name ∈ names) :
    aliasOf? names name = some (aliasAt (names.idxOf name)) := by
  obtain ⟨place, hplace⟩ := Option.isSome_iff_exists.1 (List.isSome_idxOf?.2 h)
  rw [aliasOf?, List.idxOf_eq_getD_idxOf?, hplace]
  rfl

/-- A link between names of the graph has an arrow between their aliases. -/
lemma arrow?_eq {names : List String} {d : Dependency} (hs : d.source ∈ names)
    (ht : d.target ∈ names) : arrow? names d =
      some (arrow (aliasAt (names.idxOf d.source), aliasAt (names.idxOf d.target))) := by
  rw [arrow?, aliasOf?_eq hs, aliasOf?_eq ht]
  rfl

/-- A function that has a value for all of a list has the list of these. -/
lemma mapM_eq_some_map {α β : Type} {f : α → Option β} {value : α → β} {xs : List α}
    (h : ∀ x ∈ xs, f x = some (value x)) : xs.mapM f = some (xs.map value) := by
  induction xs with
  | nil => rfl
  | cons x xs ih =>
    rw [List.mapM_cons, h x List.mem_cons_self, ih fun y hy => h y (List.mem_cons_of_mem _ hy)]
    rfl

/-- If all ends are declared, there is an arrow for every link between different entities. -/
lemma mapM_arrow? (hg : g.EndsDeclared) :
    g.crossDependencies.mapM (arrow? g.names) = some ((arrows g).map arrow) := by
  rw [arrows, Graph.crossLinks, List.map_map, List.map_map]
  refine mapM_eq_some_map fun d hd => ?_
  obtain ⟨hs, ht⟩ := hg d (List.mem_filter.1 hd).1
  exact arrow?_eq (Graph.mem_names.2 hs) (Graph.mem_names.2 ht)

/-- The class diagram of a graph is read back.

**Proof sketch.** An empty line ends the declarations, and the last line of the diagram ends the
arrows. No declaration and no arrow begins with what ends them. -/
lemma exists_read?_eq (hg : g.EndsDeclared) :
    ∃ diagram, g.toPlantUml? = some diagram ∧ read? diagram = some (declarations g, arrows g) := by
  refine ⟨_, by rw [Graph.toPlantUml?, mapM_arrow? hg]; rfl, Reader.Reads.value?_eq ?_⟩
  have htext : (header ++ String.join (g.entities.zipIdx.map fun (e, place) => declaration e place)
      ++ "\n" ++ String.join ((arrows g).map arrow) ++ "@enduml\n").toList = header.toList ++
      ((g.entities.zipIdx.flatMap (fun e => (declaration e.1 e.2).toList) ++ "\n".toList) ++
        ((arrows g).flatMap (fun ends => (arrow ends).toList) ++ "@enduml\n".toList)) := by
    simp [String.toList_join, List.flatMap_map]
  rw [htext]
  refine .bind (Reader.reads_expect header) ?_
  refine .bind (.many_map (fun e _ => reads_declaration e.1 e.2) fun e _ rest => ?_) ?_
  · obtain ⟨⟨name, kind⟩, place⟩ := e
    cases kind <;> simp [declaration, keyword, Text.afterPrefix?]
  refine .bind_pure (.many (fun ends hends => ?_) fun ends hends rest => ?_)
  · obtain ⟨⟨source, target⟩, -, rfl⟩ := List.mem_map.1 hends
    exact reads_arrow _ _
  · obtain ⟨⟨source, target⟩, -, rfl⟩ := List.mem_map.1 hends
    simp [arrow, aliasAt, Text.afterPrefix?]

/-! ## What aliases stand for -/

/-- The name of the entity that is declared under an alias. -/
def resolve? (declarations : List (Entity × String)) (short : String) : Option String :=
  (declarations.find? fun declared => declared.2 == short).map fun declared => declared.1.name

/-- The entities are declared in their order. -/
lemma map_fst_declarations (g : Graph) : (declarations g).map Prod.fst = g.entities := by
  simp [declarations, Function.comp_def]

/-- Different entities have different aliases. -/
lemma nodup_map_snd_declarations (g : Graph) : ((declarations g).map Prod.snd).Nodup := by
  have haliases : (declarations g).map Prod.snd =
      (List.range' 0 g.entities.length).map aliasAt := by
    rw [← List.zipIdx_map_snd, declarations, List.map_map, List.map_map]
    rfl
  rw [haliases]
  exact (List.nodup_range').map aliasAt_injective

/-- An entity is declared under the alias that counts its place. -/
lemma exists_mem_declarations {name : String} (h : name ∈ g.names) :
    ∃ e, (e, aliasAt (g.names.idxOf name)) ∈ declarations g ∧ e.name = name := by
  have hplace : g.names[g.names.idxOf name]? = some name :=
    List.getElem?_eq_some_iff.2 ⟨List.idxOf_lt_length_iff.2 h, List.getElem_idxOf _⟩
  rw [← Graph.map_name_entities, List.getElem?_map] at hplace
  obtain ⟨e, he, hname⟩ := Option.map_eq_some_iff.1 hplace
  rw [Graph.map_name_entities] at he
  exact ⟨e, List.mem_map.2 ⟨(e, _), List.mk_mem_zipIdx_iff_getElem?.2 he, rfl⟩, hname⟩

/-- **An alias stands for the entity that it was made for.**

**Proof sketch.** The entity is declared under the alias, and no other one is. -/
theorem resolve?_alias {name : String} (h : name ∈ g.names) :
    resolve? (declarations g) (aliasAt (g.names.idxOf name)) = some name := by
  obtain ⟨e, hmem, rfl⟩ := exists_mem_declarations h
  rw [resolve?]
  cases hfind : (declarations g).find? fun declared => declared.2 == _ with
  | none => exact absurd (List.find?_eq_none.1 hfind _ hmem) (by simp)
  | some found =>
    have hshort : found.2 = aliasAt (g.names.idxOf e.name) := by simpa using List.find?_some hfind
    have hsame : found = (e, aliasAt (g.names.idxOf e.name)) :=
      List.inj_on_of_nodup_map (nodup_map_snd_declarations g) (List.mem_of_find?_eq_some hfind)
        hmem hshort
    rw [hsame]
    rfl

/-- The aliases at the ends of the arrows stand for the ends of the links. -/
lemma map_resolve?_arrows (hg : g.EndsDeclared) :
    ((arrows g).map fun ends =>
      (resolve? (declarations g) ends.1, resolve? (declarations g) ends.2)) =
    g.crossLinks.map fun link => (some link.1, some link.2) := by
  rw [arrows, List.map_map]
  refine List.map_congr_left fun link hlink => ?_
  obtain ⟨hs, ht⟩ := hg.mem_names_of_mem_crossLinks hlink
  exact Prod.ext (resolve?_alias hs) (resolve?_alias ht)

/-- The alias of an entity is declared once. -/
lemma count_alias_eq_one {name : String} (h : name ∈ g.names) :
    ((declarations g).map Prod.snd).count (aliasAt (g.names.idxOf name)) = 1 := by
  obtain ⟨e, hmem, -⟩ := exists_mem_declarations h
  exact List.count_eq_one_of_mem (nodup_map_snd_declarations g)
    (List.mem_map.2 ⟨_, hmem, rfl⟩)

/-- Graphs with the same entities and the same links between them have one class diagram. -/
lemma toPlantUml?_congr (hg : g.EndsDeclared) (hh : h.EndsDeclared)
    (hentities : g.entities = h.entities) (hlinks : g.crossLinks = h.crossLinks) :
    g.toPlantUml? = h.toPlantUml? := by
  have hnames : g.names = h.names := by
    rw [← Graph.map_name_entities, hentities, Graph.map_name_entities]
  rw [Graph.toPlantUml?, Graph.toPlantUml?, mapM_arrow? hg, mapM_arrow? hh, arrows, arrows,
    hentities, hlinks, hnames]

/-- Graphs with one class diagram have the same entities, and the same ones depend on each other.

**Proof sketch.** The diagram gives back one list of declarations and one list of arrows, and the
names under the aliases of these arrows are the links of both graphs. -/
lemma listings_eq_of_toPlantUml?_eq (hg : g.EndsDeclared) (hh : h.EndsDeclared)
    (heq : g.toPlantUml? = h.toPlantUml?) :
    g.entities = h.entities ∧ g.crossLinks = h.crossLinks := by
  obtain ⟨diagram, hdiagram, hread⟩ := exists_read?_eq hg
  obtain ⟨diagram', hdiagram', hread'⟩ := exists_read?_eq hh
  obtain rfl : diagram = diagram' := Option.some.inj (by rw [← hdiagram, heq, hdiagram'])
  obtain ⟨hdeclared, hdrawn⟩ := Prod.mk.inj (Option.some.inj (hread.symm.trans hread'))
  constructor
  · rw [← map_fst_declarations g, hdeclared, map_fst_declarations]
  · have hends := map_resolve?_arrows hg
    rw [hdeclared, hdrawn, map_resolve?_arrows hh] at hends
    refine (List.map_injective_iff.2 (fun link link' heq => ?_) hends).symm
    simpa [Prod.ext_iff] using heq

/-- **Class diagrams are equal exactly if their graphs have the same entities and the same entities
depend on each other.** A graph whose ends are declared has a class diagram. Its declarations are
the entities, under different aliases; every alias at an arrow is declared once; and the names under
the aliases of the arrows are the links between different entities, each once, in order.

**Proof sketch.** The declarations and the arrows are read back. Aliases count the entities in name
order, so the alias of an entity is looked up where it was made. -/
theorem toPlantUml?_faithful (hg : g.EndsDeclared) (hh : h.EndsDeclared) :
    (∃ diagram declared drawn, g.toPlantUml? = some diagram ∧
      read? diagram = some (declared, drawn) ∧
      declared.map Prod.fst = g.entities ∧ (declared.map Prod.snd).Nodup ∧
      (∀ ends ∈ drawn, (declared.map Prod.snd).count ends.1 = 1 ∧
        (declared.map Prod.snd).count ends.2 = 1) ∧
      (drawn.map fun ends => (resolve? declared ends.1, resolve? declared ends.2)) =
        g.crossLinks.map fun link => (some link.1, some link.2)) ∧
    (g.crossLinks.Pairwise (Prod.Lex (· < ·) (· < ·)) ∧ ∀ source target,
      (source, target) ∈ g.crossLinks ↔ g.DependsOn source target ∧ source ≠ target) ∧
    (g.toPlantUml? = h.toPlantUml? ↔ (∀ name, g.kind? name = h.kind? name) ∧
      ∀ source target, source ≠ target →
        (g.DependsOn source target ↔ h.DependsOn source target)) := by
  obtain ⟨diagram, hdiagram, hread⟩ := exists_read?_eq hg
  refine ⟨⟨diagram, declarations g, arrows g, hdiagram, hread, map_fst_declarations g,
    nodup_map_snd_declarations g, fun ends hends => ?_, map_resolve?_arrows hg⟩,
    ⟨g.pairwise_crossLinks, fun _ _ => Graph.mem_crossLinks⟩, ?_⟩
  · obtain ⟨link, hlink, rfl⟩ := List.mem_map.1 hends
    obtain ⟨hs, ht⟩ := hg.mem_names_of_mem_crossLinks hlink
    exact ⟨count_alias_eq_one hs, count_alias_eq_one ht⟩
  rw [← Graph.entities_eq_iff, ← Graph.crossLinks_eq_iff]
  exact ⟨listings_eq_of_toPlantUml?_eq hg hh, fun ⟨hentities, hlinks⟩ =>
    toPlantUml?_congr hg hh hentities hlinks⟩

/-- A class diagram does not show weights and links to oneself, even for a name that spells the
declaration of the other entity. -/
theorem toPlantUml?_without_weights :
    let name := "a\" as e1\nclass \"b\\"
    let fact : String → String → Fact := fun source target =>
      ⟨⟨source, .unknown⟩, ⟨target, .unknown⟩⟩
    let g := Graph.ofFacts [fact name "b"]
    let h := Graph.ofFacts [fact name "b", fact name "b", fact "b" "b"]
    g.EndsDeclared ∧ h.EndsDeclared ∧ g.toPlantUml? = h.toPlantUml? ∧
      g.weight? name "b" = some 1 ∧ h.weight? name "b" = some 2 ∧ h.weight? "b" "b" = some 1 := by
  intro name fact g h
  have hg : g.EndsDeclared := (Graph.Reachable.ofFacts _).wellFormed.endsDeclared
  have hh : h.EndsDeclared := (Graph.Reachable.ofFacts _).wellFormed.endsDeclared
  refine ⟨hg, hh, (toPlantUml?_faithful hg hh).2.2.2 ⟨?_, ?_⟩, by decide +kernel⟩
  · exact Graph.entities_eq_iff.1 (by decide +kernel)
  · exact Graph.crossLinks_eq_iff.1 (by decide +kernel)

end DepAtlas.PlantUml
