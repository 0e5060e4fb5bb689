import DepAtlas.Graph.Builder
import DepAtlas.Proofs.Graph.CrossLinks
import DepAtlas.Proofs.Text.Decimal
import DepAtlas.Proofs.View.Page
import DepAtlas.Proofs.View.Table

set_option relaxedAutoImplicit false
set_option autoImplicit false

/-!
# What matrices show

A matrix is written as a table of text and as a page. Both are read back here without knowing
anything of the names: the text by the columns where a cell has to stand, the page by its tags. What
they show at a place are the weights of the graph, the links of entities to themselves excepted.

## Main definitions

* `DepAtlas.Matrix.IsTable` — lines that show the weights of a graph.
* `DepAtlas.Matrix.IsPage` — rows of elements that show the weights of a graph.

## Main results

* `DepAtlas.Matrix.cell_ofGraph` — the cells of a matrix are the weights of its graph.
* `DepAtlas.Matrix.cellWidth_le_iff` — how wide the columns of the text are.
* `DepAtlas.Matrix.splitOn_toText`, `DepAtlas.Matrix.rows_elements_toHtml` — the lines of the text
  and the rows of the page.
* `DepAtlas.Matrix.formats_show_weights` — the text and the page show the weights of the graph.
-/

namespace DepAtlas

namespace Matrix

variable {g : Graph} {names : List String}

/-! ## Cells -/

/-- In a list of different names, the place of a name is where it stands. -/
lemma idxOf?_eq_some_iff (h : names.Nodup) {name : String} {place : ℕ} :
    names.idxOf? name = some place ↔ names[place]? = some name := by
  rw [List.idxOf?_eq_some_iff, List.getElem?_eq_some_iff]
  refine exists_congr fun hplace => and_iff_left_of_imp fun hname j hj heq => ?_
  exact absurd ((h.getElem_inj_iff).1 (heq.trans hname.symm)) (Nat.ne_of_lt hj)

/-- The dependencies of an entity have different targets, because a graph has one weight for each
link. -/
lemma pairwise_target_dependenciesOf (g : Graph) (source : String) :
    (g.dependenciesOf source).Pairwise fun d e => d.target ≠ e.target := by
  unfold Graph.dependenciesOf
  split
  · next row _ =>
    refine List.pairwise_map.2 (row.distinct_keys_toList.imp fun {a b} h heq => h ?_)
    have hkeys : a.1 = b.1 := heq
    rw [hkeys]
    exact Std.ReflCmp.compare_self
  · exact List.Pairwise.nil

/-- A row has, at the place of a target, the weight of the dependency on it.

**Proof sketch.** The entries of the row are the weights with the places of the targets. Different
targets have different places, so none of them hides another one, and what has no entry is not in
the row. -/
lemma getElem?_rowOf (g : Graph) (source : String) (j : ℕ) :
    (rowOf g.names (g.dependenciesOf source))[j]? = g.names[j]?.bind (g.weight? source) := by
  set entries := (g.dependenciesOf source).filterMap fun d =>
    (g.names.idxOf? d.target).map fun j => (j, d.weight) with hentries
  have hmem : ∀ j weight, (j, weight) ∈ entries ↔
      ∃ target, g.names[j]? = some target ∧ g.weight? source target = some weight := by
    intro j weight
    simp only [hentries, List.mem_filterMap, Graph.mem_dependenciesOf, Graph.mem_dependencies,
      Option.map_eq_some_iff, idxOf?_eq_some_iff g.nodup_names, Prod.mk.injEq]
    constructor
    · rintro ⟨d, ⟨hw, rfl⟩, _, hj, rfl, rfl⟩
      exact ⟨d.target, hj, hw⟩
    · rintro ⟨target, hj, hw⟩
      exact ⟨⟨source, target, weight⟩, ⟨hw, rfl⟩, j, hj, rfl, rfl⟩
  have hdistinct : entries.Pairwise fun a b => ¬ compare a.1 b.1 = .eq := by
    refine List.pairwise_filterMap.2 ((pairwise_target_dependenciesOf g source).imp ?_)
    intro d e hne a ha b hb hkeys
    simp only [Option.map_eq_some_iff, idxOf?_eq_some_iff g.nodup_names] at ha hb
    obtain ⟨i, hi, rfl⟩ := ha
    obtain ⟨k, hk, rfl⟩ := hb
    obtain rfl : i = k := Std.LawfulEqCmp.eq_of_compare hkeys
    exact hne (Option.some.inj (hi.symm.trans hk))
  -- Different targets have different places, so no entry is replaced by a later one.
  have hfound : ∀ weight, (j, weight) ∈ entries →
      (rowOf g.names (g.dependenciesOf source))[j]? = some weight := fun weight h =>
    Std.ExtTreeMap.getElem?_ofList_of_mem Std.ReflCmp.compare_self hdistinct h
  cases htarget : g.names[j]?.bind (g.weight? source) with
  | some weight =>
    exact hfound weight ((hmem j weight).2 (Option.bind_eq_some_iff.1 htarget))
  | none =>
    refine Std.ExtTreeMap.getElem?_ofList_of_contains_eq_false ?_
    rw [← Bool.not_eq_true, List.contains_iff_mem, List.mem_map]
    rintro ⟨⟨_, weight⟩, hentry, rfl⟩
    rw [Option.bind_eq_some_iff.2 ((hmem _ weight).1 hentry)] at htarget
    exact absurd htarget (Option.some_ne_none _)

/-- **The cells of a matrix are the weights of its graph.** -/
theorem cell_ofGraph (g : Graph) (i j : ℕ) : (ofGraph g).cell i j =
    g.names[i]?.bind fun source => g.names[j]?.bind fun target => g.weight? source target := by
  rw [cell, ofGraph, List.getElem?_map, Option.bind_map]
  exact congrArg _ (funext fun source => getElem?_rowOf g source j)

/-! ## Widths -/

/-- The numbers that are stored in the rows are the weights between entities, those on the diagonal
among them: they are left out only where a cell is written. -/
lemma mem_weights {weight : ℕ} :
    weight ∈ (ofGraph g).rows.flatMap (fun weights => weights.toList.map Prod.snd) ↔
      ∃ source ∈ g.names, ∃ target ∈ g.names, g.weight? source target = some weight := by
  simp only [ofGraph, List.flatMap_map, List.mem_flatMap, List.mem_map, Prod.exists,
    Std.ExtTreeMap.mem_toList_iff_getElem?_eq_some, getElem?_rowOf, Option.bind_eq_some_iff]
  refine exists_congr fun source => and_congr_right fun _ => ⟨?_, ?_⟩
  · rintro ⟨j, _, ⟨target, hj, hw⟩, rfl⟩
    exact ⟨target, List.mem_of_getElem? hj, hw⟩
  · rintro ⟨target, htarget, hw⟩
    obtain ⟨j, hj⟩ := List.mem_iff_getElem?.1 htarget
    exact ⟨j, weight, ⟨target, hj, hw⟩, rfl⟩

/-- The cells are as wide as the longest number that has to be written: the number of entities, or a
weight between entities. As the weights on the diagonal count here, a cell may be wider than all
that is shown. -/
theorem cellWidth_le_iff {k : ℕ} : (ofGraph g).cellWidth ≤ k ↔
    (toString g.names.length).length ≤ k ∧ ∀ source ∈ g.names, ∀ target ∈ g.names, ∀ weight,
      g.weight? source target = some weight → (toString weight).length ≤ k := by
  rw [cellWidth, Nat.max_le]
  refine and_congr_right fun hcount => ⟨fun hmax source hs target ht weight hw => ?_, fun h => ?_⟩
  · refine (Text.length_toString_le ?_).trans hmax
    exact List.le_max?_getD_of_mem (mem_weights.2 ⟨source, hs, target, ht, hw⟩)
  · rw [maxWeight]
    cases hmax : (_ : List ℕ).max? with
    -- Without any weight the greatest one counts as zero, which is no longer than another number.
    | none => exact (Text.length_toString_le (Nat.zero_le _)).trans hcount
    | some weight =>
      obtain ⟨source, hs, target, ht, hw⟩ := mem_weights.1 (List.max?_mem hmax)
      exact h source hs target ht weight hw

/-- The number of an entity with its name, as it stands in front of its row. -/
def rowLabel (i : ℕ) (name : String) : String :=
  s!"{i + 1}: {name}"

/-- The labels of the rows, with the name `rowLabel` for what they are made with. -/
lemma labels_ofGraph (g : Graph) :
    (ofGraph g).labels = g.names.zipIdx.map fun (name, i) => rowLabel i name := rfl

/-- The labels with their places come from the names with the same places. -/
lemma zipIdx_labels_ofGraph (g : Graph) : (ofGraph g).labels.zipIdx =
    g.names.zipIdx.map fun (name, i) => (rowLabel i name, i) := by
  rw [labels_ofGraph]
  exact List.ext_getElem (by simp) fun i hi hi' => by simp

/-- A label breaks no line if its name breaks none: neither a number nor the colon does. -/
lemma newline_not_mem_rowLabel {name : String} (h : '\n' ∉ name.toList) (i : ℕ) :
    '\n' ∉ (rowLabel i name).toList := by
  have htext : (rowLabel i name).toList =
      (toString (i + 1)).toList ++ (": ".toList ++ name.toList) := by
    simp [rowLabel, toString]
  rw [htext, List.mem_append, List.mem_append, not_or, not_or]
  exact ⟨Text.not_mem_toString (by decide) _, by decide, h⟩

/-- A text has no more characters than bytes.

**Proof sketch.** Induction along the characters, each of which has a byte at least. -/
lemma length_le_utf8ByteSize (s : String) : s.length ≤ s.utf8ByteSize := by
  rw [← String.ofList_toList (s := s)]
  induction s.toList with
  | nil => simp
  | cons c cs ih =>
    rw [String.ofList_cons, String.length_append, String.utf8ByteSize_append,
      String.utf8ByteSize_singleton]
    have hc := c.utf8Size_pos
    simp only [String.length_singleton]
    omega

/-- No label is longer than the column of the labels is wide. The width is counted in bytes, so that
a name with other letters leaves the column wider than it has to be. -/
lemma length_label_le {label : String} (h : label ∈ (ofGraph g).labels) :
    label.length ≤ (ofGraph g).labelWidth :=
  (length_le_utf8ByteSize label).trans
    (List.le_max?_getD_of_mem (List.mem_map_of_mem h))

/-- If there is an entity, the labels are as wide as the greatest number of bytes of a label. -/
lemma max?_labels (h : g.names ≠ []) :
    ((ofGraph g).labels.map String.utf8ByteSize).max? = some (ofGraph g).labelWidth := by
  rw [labelWidth]
  cases hmax : (_ : List ℕ).max? with
  | none => simp [labels_ofGraph, h] at hmax
  | some n => rfl

/-! ## The text -/

/-- The texts in the cells of the row of an entity, in the order of the columns. -/
def rowTexts (g : Graph) (i : ℕ) (source : String) : List String :=
  g.names.zipIdx.map fun (target, j) => cellText i j (g.weight? source target)

/-- The numbers at the heads of the columns. -/
def columnNumbers (g : Graph) : List String :=
  (List.range g.names.length).map fun j => toString (j + 1)

/-- The line above the rows: no label, and the numbers of the columns. -/
def headLine (g : Graph) : List Char :=
  lineText (ofGraph g).labelWidth (ofGraph g).cellWidth "" (columnNumbers g)

/-- The line of an entity: its label, and the weights of its dependencies. -/
def rowLine (g : Graph) (i : ℕ) (source : String) : List Char :=
  lineText (ofGraph g).labelWidth (ofGraph g).cellWidth (rowLabel i source) (rowTexts g i source)

/-- The lines of the rows. -/
def rowLines (g : Graph) : List (List Char) :=
  g.names.zipIdx.map fun (source, i) => rowLine g i source

/-- What is made for every column of a row is made from the weights. -/
lemma map_cell_ofGraph {α : Type} (f : ℕ → Option ℕ → α) {i : ℕ} {source : String}
    (h : g.names[i]? = some source) :
    ((List.range g.names.length).map fun j => f j ((ofGraph g).cell i j)) =
      g.names.zipIdx.map fun (target, j) => f j (g.weight? source target) := by
  refine List.ext_getElem (by simp) fun j hj hj' => ?_
  have hplace : j < g.names.length := by simpa using hj
  have hname : g.names[j]? = some g.names[j] := List.getElem?_eq_getElem hplace
  simp [cell_ofGraph, h, hname]

/-- The text is the line above the rows and the lines of the rows, with a line end behind each. -/
lemma toList_toText (h : g.names ≠ []) : (ofGraph g).toText.toList =
    (headLine g :: rowLines g).flatMap fun line => line ++ ['\n'] := by
  rw [toText, if_neg (by simpa [ofGraph] using h), String.toList_append, toList_line,
    String.toList_join, zipIdx_labels_ofGraph, rowLines, List.flatMap_cons, List.map_map,
    List.flatMap_map, List.flatMap_map]
  refine congrArg _ (List.flatMap_congr fun (source, i) hentry => ?_)
  have hsource : g.names[i]? = some source := List.mk_mem_zipIdx_iff_getElem?.1 hentry
  change ((ofGraph g).line (rowLabel i source) _).toList = rowLine g i source ++ ['\n']
  rw [toList_line, rowLine, rowTexts, ← map_cell_ofGraph _ hsource]
  rfl

/-- A number that is short enough has room in a cell. -/
lemma fits_toString {n k : ℕ} (h : (toString n).length ≤ k) : Fits k (toString n) :=
  ⟨h, fun _ hc => Text.isBlank_of_mem_toString hc⟩

/-- The number of a column has room in a cell, since no column has a greater number than the last
one. -/
lemma fits_columnNumbers : ∀ text ∈ columnNumbers g, Fits (ofGraph g).cellWidth text := by
  intro text htext
  obtain ⟨j, hj, rfl⟩ := List.mem_map.1 htext
  refine fits_toString ((Text.length_toString_le ?_).trans (cellWidth_le_iff.1 le_rfl).1)
  exact List.mem_range.1 hj

/-- What stands in the cells of a row has room there: a dot on the diagonal, a weight, or nothing.

**Proof sketch.** The weights between entities are among the numbers that the width is made for. -/
lemma fits_rowTexts {i : ℕ} {source : String} (h : source ∈ g.names) :
    ∀ text ∈ rowTexts g i source, Fits (ofGraph g).cellWidth text := by
  intro text htext
  obtain ⟨⟨target, j⟩, hentry, rfl⟩ := List.mem_map.1 htext
  have htarget : target ∈ g.names := List.fst_mem_of_mem_zipIdx hentry
  obtain ⟨hcount, hweight⟩ := cellWidth_le_iff.1 (le_refl (ofGraph g).cellWidth)
  have hpos := Text.length_toString_pos g.names.length
  simp only [cellText]
  split
  · exact ⟨hpos.trans_le hcount, by simp [Text.isBlank]⟩
  · cases hw : g.weight? source target with
    | none => exact ⟨Nat.zero_le _, by simp⟩
    | some weight => exact fits_toString (hweight source h target htarget weight hw)

/-- The line above the rows shows the numbers of the columns. -/
lemma shows_headLine (g : Graph) :
    Shows (ofGraph g).labelWidth (ofGraph g).cellWidth (headLine g) "" (columnNumbers g) :=
  shows_lineText (Nat.zero_le _) fits_columnNumbers

/-- The line of an entity shows its label and its weights. -/
lemma shows_rowLine {i : ℕ} {source : String} (h : g.names[i]? = some source) :
    Shows (ofGraph g).labelWidth (ofGraph g).cellWidth (rowLine g i source) (rowLabel i source)
      (rowTexts g i source) := by
  refine shows_lineText (length_label_le ?_) (fits_rowTexts (List.mem_of_getElem? h))
  exact List.mem_map.2 ⟨(source, i), List.mk_mem_zipIdx_iff_getElem?.2 h, rfl⟩

/-- The text is cut at its line ends into the line above the rows and the lines of the rows.

**Proof sketch.** No line has a line end in it, so the text is cut where the lines end and nowhere
else. -/
lemma splitOn_toText (hne : g.names ≠ []) (hnames : ∀ name ∈ g.names, '\n' ∉ name.toList) :
    Text.splitOn ['\n'] (ofGraph g).toText.toList = headLine g :: rowLines g ++ [[]] := by
  rw [toList_toText hne]
  refine Text.splitOn_flatMap_concat (List.forall_mem_cons.2 ⟨?_, ?_⟩)
  · exact newline_not_mem_lineText (by simp) fits_columnNumbers
  · refine List.forall_mem_map.2 fun (source, i) hentry => ?_
    have hsource : source ∈ g.names := List.fst_mem_of_mem_zipIdx hentry
    exact newline_not_mem_lineText (newline_not_mem_rowLabel (hnames source hsource) i)
      (fits_rowTexts hsource)

/-! ## The page -/

open Page (Element)

/-- The element of a cell. On the diagonal it is empty and has a class of its own. -/
def cellElement (row column : ℕ) (weight : Option ℕ) : Element :=
  if row = column then ⟨"td class=\"self\"", ""⟩ else ⟨"td", (weight.map toString).getD ""⟩

/-- The elements of the row of an entity: a header with its number and name, and the cells, each
opened and closed. -/
def rowElements (g : Graph) (i : ℕ) (source : String) : List Element :=
  ⟨"th class=\"name\"", toString (i + 1) ++ ": " ++ escapeHtml source⟩ :: ⟨"/th", ""⟩ ::
    (g.names.zipIdx.map fun (target, j) => cellElement i j (g.weight? source target)).flatMap
      fun cell => [cell, ⟨"/td", ""⟩]

/-- The elements of the row of column numbers, with an empty header above the names. -/
def headElements (g : Graph) : List Element :=
  ⟨"th", ""⟩ :: ⟨"/th", ""⟩ :: (columnNumbers g).flatMap fun number => [⟨"th", number⟩, ⟨"/th", ""⟩]

/-- The rows of the page: that of the column numbers first, then one for every entity. -/
def tableElements (g : Graph) : List (List Element) :=
  headElements g :: g.names.zipIdx.map fun (source, i) => rowElements g i source

/-- The elements before the table. -/
def frontElements : List Element :=
  [⟨"!DOCTYPE html", "\n"⟩, ⟨"html", "\n"⟩, ⟨"head", "\n"⟩, ⟨"meta charset=\"utf-8\"", "\n"⟩,
    ⟨"title", "Dependency Structure Matrix"⟩, ⟨"/title", "\n"⟩,
    ⟨"style", htmlStyle⟩, ⟨"/style", "\n"⟩, ⟨"/head", "\n"⟩, ⟨"body", "\n"⟩, ⟨"table", "\n"⟩]

/-- The elements behind the table. -/
def backElements : List Element :=
  [⟨"/table", "\n"⟩, ⟨"/body", "\n"⟩, ⟨"/html", "\n"⟩]

/-- The elements of the page. -/
def pageElements (g : Graph) : List Element :=
  frontElements ++ (tableElements g).flatMap Page.writeRow ++ backElements

/-- A cell is written as its element and the end of it. -/
lemma toList_htmlCell (i j : ℕ) (weight : Option ℕ) : (htmlCell i j weight).toList =
    (cellElement i j weight).write ++ Element.write ⟨"/td", ""⟩ := by
  unfold htmlCell cellElement
  split <;> simp [Element.write, Element.inner]

/-- What stands in front of the table is written by the elements before it. -/
lemma toList_htmlHeader : htmlHeader.toList = frontElements.flatMap Element.write := by
  delta htmlHeader frontElements
  simp [Element.write, Element.inner]

/-- The row of column numbers is written by its elements. -/
lemma toList_headRow (g : Graph) :
    ("<tr><th></th>" ++ String.join ((List.range g.names.length).map fun i => s!"<th>{i + 1}</th>")
      ++ "</tr>\n").toList = (Page.writeRow (headElements g)).flatMap Element.write := by
  simp [Page.writeRow, headElements, columnNumbers, Element.write, Element.inner, toString,
    String.toList_join, List.flatMap_map, List.flatMap_assoc]

/-- The row of an entity is written by its elements. -/
lemma toList_row {i : ℕ} {source : String} (h : g.names[i]? = some source) :
    (s!"<tr><th class=\"name\">{i + 1}: " ++ escapeHtml source ++ "</th>"
      ++ String.join ((List.range g.names.length).map fun j => htmlCell i j ((ofGraph g).cell i j))
      ++ "</tr>\n").toList = (Page.writeRow (rowElements g i source)).flatMap Element.write := by
  rw [map_cell_ofGraph (htmlCell i) h]
  simp [Page.writeRow, rowElements, toList_htmlCell, Element.write, Element.inner, toString,
    String.toList_join, List.flatMap_map, List.flatMap_assoc]

/-- The page is written by its elements, one after the other.

**Proof sketch.** Each part of the page, in the order in which it is written, is the text of the
elements of this part. The rows are compared entry by entry. -/
lemma toList_toHtml (g : Graph) :
    (ofGraph g).toHtml.toList = (pageElements g).flatMap Element.write := by
  have hbody : ((ofGraph g).names.zipIdx.flatMap fun entry =>
      (s!"<tr><th class=\"name\">{entry.2 + 1}: " ++ escapeHtml entry.1 ++ "</th>"
        ++ String.join ((List.range (ofGraph g).names.length).map fun j =>
          htmlCell entry.2 j ((ofGraph g).cell entry.2 j)) ++ "</tr>\n").toList) =
      (g.names.zipIdx.flatMap fun entry => Page.writeRow (rowElements g entry.2 entry.1)).flatMap
        Element.write := by
    rw [List.flatMap_assoc]
    exact List.flatMap_congr fun entry hentry =>
      toList_row (List.mk_mem_zipIdx_iff_getElem?.1 hentry)
  have hback : "</table>\n</body>\n</html>\n".toList = backElements.flatMap Element.write := by
    simp [backElements, Element.write, Element.inner]
  rw [pageElements, tableElements, List.flatMap_append, List.flatMap_append, List.flatMap_cons,
    List.flatMap_append, List.flatMap_map, ← toList_htmlHeader, ← toList_headRow, ← hbody, ← hback,
    toHtml]
  simp only [String.toList_append, String.toList_join, List.flatMap_map, List.append_assoc]
  rfl

/-- An element that may stand in a row: it is read back, and its tag does not begin or end a row. -/
def StandsInRow (e : Element) : Prop :=
  e.IsPlain ∧ e.tag ≠ "tr" ∧ e.tag ≠ "/tr"

/-- Whether an element may stand in a row can be decided, as all of it is about its tag and its
text. -/
instance (e : Element) : Decidable (StandsInRow e) :=
  inferInstanceAs (Decidable (_ ∧ _))

/-- A text that opens no tag may be put into an element of a row. -/
lemma StandsInRow.with_text {tag text : String} (h : StandsInRow ⟨tag, ""⟩)
    (htext : '<' ∉ text.toList) : StandsInRow ⟨tag, text⟩ :=
  ⟨Element.isPlain_of_not_mem h.1 htext, h.2⟩

/-- A cell may stand in a row: what it shows is a number or nothing. -/
lemma standsInRow_cellElement (i j : ℕ) (weight : Option ℕ) :
    StandsInRow (cellElement i j weight) := by
  unfold cellElement
  split
  · decide
  · refine .with_text (by decide) ?_
    cases weight with
    | none => decide
    | some weight => exact Text.not_mem_toString (by decide) weight

/-- A row header has no character that opens or closes a tag or a quote. -/
lemma not_mem_rowHeader {c : Char} (h : c = '<' ∨ c = '>' ∨ c = '"') (i : ℕ) (source : String) :
    c ∉ (toString (i + 1) ++ ": " ++ escapeHtml source).toList := by
  rw [String.toList_append, String.toList_append, List.mem_append, List.mem_append, not_or, not_or]
  have hdigit : c.isDigit = false ∧ c ∉ ": ".toList := by
    rcases h with rfl | rfl | rfl <;> decide
  exact ⟨⟨Text.not_mem_toString hdigit.1 _, hdigit.2⟩, Page.not_mem_escapeHtml h source⟩

/-- Neither a number nor a name opens a tag, so all elements of the rows may stand in a row. -/
lemma standsInRow_of_mem_tableElements {row : List Element} (h : row ∈ tableElements g) :
    ∀ e ∈ row, StandsInRow e := by
  rw [tableElements, List.mem_cons, List.mem_map] at h
  obtain rfl | ⟨⟨source, i⟩, -, rfl⟩ := h
  · rw [headElements, List.forall_mem_cons, List.forall_mem_cons, List.forall_mem_flatMap]
    refine ⟨by decide, by decide, fun number hmem => ?_⟩
    obtain ⟨j, -, rfl⟩ := List.mem_map.1 hmem
    rw [List.forall_mem_cons, List.forall_mem_singleton]
    exact ⟨.with_text (by decide) (Text.not_mem_toString (by decide) _), by decide⟩
  · change ∀ e ∈ rowElements g i source, StandsInRow e
    rw [rowElements, List.forall_mem_cons, List.forall_mem_cons, List.forall_mem_flatMap,
      List.forall_mem_map]
    refine ⟨.with_text (by decide) (not_mem_rowHeader (.inl rfl) i source), by decide,
      fun (target, j) _ => ?_⟩
    rw [List.forall_mem_cons, List.forall_mem_singleton]
    exact ⟨standsInRow_cellElement i j _, by decide⟩

/-- The page gives back its rows, so it has no other tags in them than those of the table. A name
that looks like a tag cannot pass for one.

**Proof sketch.** The elements are read back one by one, because none of them has a bracket in its
text. Among them, rows begin and end with tags that no element in a row has. -/
lemma rows_elements_toHtml (g : Graph) :
    Page.rows (Page.elements (ofGraph g).toHtml) = tableElements g := by
  have hfront : ∀ e ∈ frontElements, e.IsPlain ∧ e.tag ≠ "tr" := by
    have hstyle : '<' ∉ htmlStyle.toList := by decide +kernel
    simp [frontElements, Element.IsPlain, Element.inner, hstyle]
  have hback : ∀ e ∈ backElements, e.IsPlain ∧ e.tag ≠ "tr" := by
    simp [backElements, Element.IsPlain, Element.inner]
  have hplain : ∀ e ∈ pageElements g, e.IsPlain := by
    simp only [pageElements, List.forall_mem_append, List.forall_mem_flatMap]
    refine ⟨⟨fun e he => (hfront e he).1, fun row hrow => ?_⟩, fun e he => (hback e he).1⟩
    rw [Page.writeRow, List.forall_mem_append, List.forall_mem_cons, List.forall_mem_singleton]
    exact ⟨⟨by decide, fun e he => (standsInRow_of_mem_tableElements hrow e he).1⟩, by decide⟩
  rw [Page.elements_eq hplain (toList_toHtml g), pageElements]
  exact Page.rows_append_table (fun e he => (hfront e he).2) (fun e he => (hback e he).2)
    fun row hrow e he => (standsInRow_of_mem_tableElements hrow e he).2

/-! ## Both forms -/

/-- A line of column numbers and a line for every entity, all of one length, which show the weights
of the graph. The structure speaks only of the graph and the lines, not of how they were written. -/
structure IsTable (g : Graph) (width cell : ℕ) (header : List Char) (rows : List (List Char)) :
    Prop where
  length_rows : rows.length = g.names.length
  length_line : ∀ line ∈ header :: rows,
    line.length = width + 2 + g.names.length * (cell + 3)
  header : Shows width cell header "" ((List.range g.names.length).map fun j => toString (j + 1))
  row : ∀ i source, g.names[i]? = some source → ∃ line, rows[i]? = some line ∧
    Shows width cell line s!"{i + 1}: {source}"
      (g.names.zipIdx.map fun (target, j) => cellText i j (g.weight? source target))

/-- A row of column numbers and a row for every entity, with a header that gives the name and a cell
for every entity, which show the weights of the graph. -/
structure IsPage (g : Graph) (header : List Element) (rows : List (List Element)) : Prop where
  length_rows : rows.length = g.names.length
  header : header = ⟨"th", ""⟩ :: ⟨"/th", ""⟩ ::
    (List.range g.names.length).flatMap fun j => [⟨"th", toString (j + 1)⟩, ⟨"/th", ""⟩]
  row : ∀ i source, g.names[i]? = some source → ∃ (escaped : String) (cells : List Element),
    rows[i]? = some (⟨"th class=\"name\"", escaped⟩ :: ⟨"/th", ""⟩ ::
      cells.flatMap fun cell => [cell, ⟨"/td", ""⟩]) ∧
    Page.unescape escaped = s!"{i + 1}: {source}" ∧
    (∀ c ∈ escaped.toList, c ≠ '<' ∧ c ≠ '>' ∧ c ≠ '"') ∧
    cells.length = g.names.length ∧
    ∀ j target, g.names[j]? = some target → cells[j]? = some (if i = j
      then ⟨"td class=\"self\"", ""⟩
      else ⟨"td", ((g.weight? source target).map toString).getD ""⟩)

/-- The lines of the text are such a table. -/
lemma isTable_rowLines (g : Graph) :
    IsTable g (ofGraph g).labelWidth (ofGraph g).cellWidth (headLine g) (rowLines g) where
  length_rows := by simp [rowLines]
  length_line := by
    rw [List.forall_mem_cons, rowLines, List.forall_mem_map]
    refine ⟨by simpa [columnNumbers] using (shows_headLine g).length, fun (source, i) hentry => ?_⟩
    have hsource : g.names[i]? = some source := List.mk_mem_zipIdx_iff_getElem?.1 hentry
    simpa [rowTexts] using (shows_rowLine hsource).length
  header := shows_headLine g
  row i source h := ⟨rowLine g i source, by simp [rowLines, h], shows_rowLine h⟩

/-- The rows of the page are those of such a page: the name is escaped in the header, and the cells
are as many as the entities. -/
lemma isPage_rowElements (g : Graph) :
    IsPage g (headElements g) (g.names.zipIdx.map fun (source, i) => rowElements g i source) where
  length_rows := by simp
  header := by rw [headElements, columnNumbers, List.flatMap_map]
  row i source h := by
    refine ⟨_, _, by simp [h]; rfl, ?_, fun c hc => ?_, by simp, fun j target htarget => ?_⟩
    · have hnumber : '&' ∉ (toString (i + 1) ++ ": ").toList := by
        rw [String.toList_append, List.mem_append, not_or]
        exact ⟨Text.not_mem_toString (by decide) _, by decide⟩
      rw [Page.unescape_append_escapeHtml hnumber]
      rfl
    · refine ⟨?_, ?_, ?_⟩ <;> rintro rfl
      · exact not_mem_rowHeader (.inl rfl) i source hc
      · exact not_mem_rowHeader (.inr (.inl rfl)) i source hc
      · exact not_mem_rowHeader (.inr (.inr rfl)) i source hc
    · simp [htarget, cellElement]

/-- **The text and the page show the weights of the graph**, in rows and columns that are numbered
in name order. If no name breaks a line, the text is a table of lines of one length: its labels are
as wide as the greatest number of bytes of a label, and its cells are as wide as the longest number
that has to be written. What stands in a column is the text of the cell with blanks before it. The
rows of the page have the elements that were written and no other ones, and undoing the escapes of a
row header gives the name back.

**Proof sketch.** Nothing is wider than its place, so a line shows what it was made of. Neither a
number nor a name opens a tag in the page, so its elements are read back. In both, the cells are
looked up in the matrix, which has the weights of the graph in the right places. -/
theorem formats_show_weights (g : Graph) :
    (g.names ≠ [] → (∀ name ∈ g.names, '\n' ∉ name.toList) →
      ((ofGraph g).labels.map String.utf8ByteSize).max? = some (ofGraph g).labelWidth ∧
      ∃ header rows, Text.splitOn ['\n'] (ofGraph g).toText.toList = header :: rows ++ [[]] ∧
        IsTable g (ofGraph g).labelWidth (ofGraph g).cellWidth header rows) ∧
    (∀ k, (ofGraph g).cellWidth ≤ k ↔ (toString g.names.length).length ≤ k ∧
      ∀ source ∈ g.names, ∀ target ∈ g.names, ∀ weight,
        g.weight? source target = some weight → (toString weight).length ≤ k) ∧
    ∃ header rows, Page.rows (Page.elements (ofGraph g).toHtml) = header :: rows ∧
      IsPage g header rows :=
  ⟨fun hne hnames => ⟨max?_labels hne, headLine g, rowLines g, splitOn_toText hne hnames,
    isTable_rowLines g⟩, fun _ => cellWidth_le_iff, headElements g, _, rows_elements_toHtml g,
    isPage_rowElements g⟩

/-- The first name spells a tag, and the second one has more bytes than characters; the text and the
page of their graph show the link between them. -/
theorem formats_of_name_like_tag :
    let fact : String → String → Fact := fun source target =>
      ⟨⟨source, .unknown⟩, ⟨target, .unknown⟩⟩
    let g := Graph.ofFacts (fact "é" "é" :: List.replicate 12 (fact "<td>" "é"))
    g.names = ["<td>", "é"] ∧ (∀ name ∈ g.names, '\n' ∉ name.toList) ∧
    (∃ header rows line, Text.splitOn ['\n'] (ofGraph g).toText.toList = header :: rows ++ [[]] ∧
      rows[0]? = some line ∧ line.length = 7 + 2 + 2 * (2 + 3) ∧
      Text.trim (column 7 2 1 line) = "12".toList) ∧
    ∃ header rows escaped, Page.rows (Page.elements (ofGraph g).toHtml) = header :: rows ∧
      rows[0]? = some [⟨"th class=\"name\"", escaped⟩, ⟨"/th", ""⟩, ⟨"td class=\"self\"", ""⟩,
        ⟨"/td", ""⟩, ⟨"td", "12"⟩, ⟨"/td", ""⟩] ∧ Page.unescape escaped = "1: <td>" := by
  intro fact g
  have hnames : g.names = ["<td>", "é"] := by decide +kernel
  have hwidth : (ofGraph g).labelWidth = 7 ∧ (ofGraph g).cellWidth = 2 := by decide +kernel
  have hweight : g.weight? "<td>" "é" = some 12 := by decide +kernel
  have hlines : ∀ name ∈ g.names, '\n' ∉ name.toList := by
    rw [hnames]
    decide
  obtain ⟨htext, -, head, table, htable, hpage⟩ := formats_show_weights g
  obtain ⟨-, header, rows, hrows, hshows⟩ := htext (by simp [hnames]) hlines
  obtain ⟨line, hline, hshown⟩ := hshows.row 0 "<td>" (by simp [hnames])
  obtain ⟨escaped, cells, hrow, hescaped, -, hcells, hcell⟩ := hpage.row 0 "<td>" (by simp [hnames])
  obtain ⟨self, other, rfl⟩ := List.length_eq_two.1 (hcells.trans (by simp [hnames]))
  have hdigits : toString 12 = "12" := by decide
  have hself : self = ⟨"td class=\"self\"", ""⟩ := by simpa using hcell 0 "<td>" (by simp [hnames])
  have hother : other = ⟨"td", "12"⟩ := by
    simpa [hweight, hdigits] using hcell 1 "é" (by simp [hnames])
  refine ⟨hnames, hlines, ⟨header, rows, line, hrows, hline, ?_, ?_⟩,
    head, table, escaped, htable, ?_, hescaped⟩
  · rw [hshown.length, hwidth.1, hwidth.2]
    simp [hnames]
  · have hcolumn := hshown.column 1 (toString 12) (by simp [hnames, hweight, cellText])
    rwa [hwidth.1, hwidth.2] at hcolumn
  · rw [hrow, hself, hother]
    rfl

end Matrix

end DepAtlas
