import DepAtlas.Proofs.Graph.Reachable
import DepAtlas.Proofs.View.Matrix
import DepAtlas.Proofs.View.PlantUml
import DepAtlas.View.Dot

set_option relaxedAutoImplicit false
set_option autoImplicit false

/-!
# Links to oneself in views

Diagrams and lists of links leave out the links of entities to themselves, and a matrix shows a dash
for them. So graphs that differ in such links have equal views, with one exception: the columns of a
matrix as text are as wide as the longest weight of all links, and a weight that is not shown may be
the longest one.

## Main results

* `DepAtlas.Matrix.toHtml_congr`, `DepAtlas.Matrix.toText_eq_iff` — the matrices of graphs that
  differ in links to oneself.
* `DepAtlas.Graph.views_withoutSelfLinks` — what taking these links away changes.
-/

namespace DepAtlas

variable {g h : Graph}

namespace Matrix

/-! ## Matrices -/

/-- What is made of the weights of a row is the same for both graphs if it does not go by the weight
on the diagonal. -/
lemma map_weights_congr (hgh : g.AgreeAcross h) {α : Type} {f : ℕ → Option ℕ → α} {i : ℕ}
    {source : String} (hsource : g.names[i]? = some source) (hdiagonal : ∀ w w', f i w = f i w') :
    (g.names.zipIdx.map fun (target, j) => f j (g.weight? source target)) =
      h.names.zipIdx.map fun (target, j) => f j (h.weight? source target) := by
  rw [← hgh.names]
  refine List.map_congr_left fun (target, j) hentry => ?_
  have htarget : g.names[j]? = some target := List.mk_mem_zipIdx_iff_getElem?.1 hentry
  by_cases heq : source = target
  · obtain rfl : i = j := by
      rw [← idxOf?_eq_some_iff g.nodup_names] at hsource htarget
      exact Option.some.inj (hsource.symm.trans (heq ▸ htarget))
    exact hdiagonal _ _
  · exact congrArg (f j) (hgh.weight? source target heq)

/-- The page does not show weights of links to oneself, because a cell on the diagonal is empty, and
cells have no width. -/
theorem toHtml_congr (hgh : g.AgreeAcross h) : (ofGraph g).toHtml = (ofGraph h).toHtml := by
  have hnumbers : columnNumbers g = columnNumbers h := by
    rw [columnNumbers, columnNumbers, hgh.names]
  have hrow : ∀ entry ∈ g.names.zipIdx,
      rowElements g entry.2 entry.1 = rowElements h entry.2 entry.1 := fun entry hentry => by
    have hsource := List.mk_mem_zipIdx_iff_getElem?.1 hentry
    have hdiagonal : ∀ w w', cellElement entry.2 entry.2 w = cellElement entry.2 entry.2 w' := by
      simp [cellElement]
    rw [rowElements, rowElements, map_weights_congr hgh hsource hdiagonal]
  have htable : tableElements g = tableElements h := by
    rw [tableElements, tableElements, headElements, headElements, hnumbers, ← hgh.names]
    exact congrArg _ (List.map_congr_left hrow)
  rw [← String.toList_inj, toList_toHtml, toList_toHtml, pageElements, pageElements, htable]

/-- The number of characters of the text. -/
lemma length_toText (hne : g.names ≠ []) : (ofGraph g).toText.toList.length =
    (g.names.length + 1) *
      ((ofGraph g).labelWidth + 2 + g.names.length * ((ofGraph g).cellWidth + 3) + 1) := by
  have hlength : ∀ line ∈ headLine g :: rowLines g, (line ++ ['\n']).length =
      (ofGraph g).labelWidth + 2 + g.names.length * ((ofGraph g).cellWidth + 3) + 1 :=
    fun line hline => by
      rw [List.length_append, (isTable_rowLines g).length_line line hline]
      rfl
  rw [toList_toText hne, length_flatMap_blocks hlength, List.length_cons,
    (isTable_rowLines g).length_rows]

/-- **The texts of graphs that differ in links to oneself are equal exactly if their columns are
equally wide.**

**Proof sketch.** The labels and the shown weights are the same. So texts with equally wide columns
have the same lines, and for a number of entities the width of the columns can be found from the
number of characters. -/
theorem toText_eq_iff (hgh : g.AgreeAcross h) (hne : g.names ≠ []) :
    (ofGraph g).toText = (ofGraph h).toText ↔ (ofGraph g).cellWidth = (ofGraph h).cellWidth := by
  have hlabels : (ofGraph g).labelWidth = (ofGraph h).labelWidth := by
    rw [labelWidth, labelWidth, labels_ofGraph, labels_ofGraph, hgh.names]
  have hne' : h.names ≠ [] := hgh.names ▸ hne
  constructor
  · intro heq
    -- A name may hold a line break, so the two texts are compared by length and not line by line.
    have hlength := congrArg (fun text : String => text.toList.length) heq
    simp only [length_toText hne, length_toText hne', hlabels, ← hgh.names] at hlength
    have hpos : 0 < g.names.length := List.length_pos_iff.2 hne
    have hline := Nat.eq_of_mul_eq_mul_left (Nat.succ_pos _) hlength
    have hcells : g.names.length * ((ofGraph g).cellWidth + 3) =
        g.names.length * ((ofGraph h).cellWidth + 3) := by omega
    have hcell := Nat.eq_of_mul_eq_mul_left hpos hcells
    omega
  · intro hwidth
    have hhead : headLine g = headLine h := by
      rw [headLine, headLine, columnNumbers, columnNumbers, hlabels, hwidth, hgh.names]
    have hrow : ∀ entry ∈ g.names.zipIdx, rowLine g entry.2 entry.1 = rowLine h entry.2 entry.1 :=
      fun entry hentry => by
        have hsource := List.mk_mem_zipIdx_iff_getElem?.1 hentry
        have hdiagonal : ∀ w w', cellText entry.2 entry.2 w = cellText entry.2 entry.2 w' := by
          simp [cellText]
        rw [rowLine, rowLine, rowTexts, rowTexts, map_weights_congr hgh hsource hdiagonal, hlabels,
          hwidth]
    have hrows : rowLines g = rowLines h := by
      rw [rowLines, rowLines, ← hgh.names]
      exact List.map_congr_left hrow
    rw [← String.toList_inj, toList_toText hne, toList_toText hne', hhead, hrows]

/-- Columns are as wide without the links to oneself if no weight of such a link is longer.

**Proof sketch.** The width is that of the longest number, and only the numbers on the diagonal are
different in both graphs. -/
lemma cellWidth_withoutSelfLinks_eq_iff :
    (ofGraph g).cellWidth = (ofGraph g.withoutSelfLinks).cellWidth ↔ ∀ name ∈ g.names, ∀ weight,
      g.weight? name name = some weight →
        (toString weight).length ≤ (ofGraph g.withoutSelfLinks).cellWidth := by
  obtain ⟨hcount, hweights⟩ := cellWidth_le_iff.1 (le_refl (ofGraph g.withoutSelfLinks).cellWidth)
  obtain ⟨hcount', hweights'⟩ := cellWidth_le_iff.1 (le_refl (ofGraph g).cellWidth)
  constructor
  · intro heq name hname weight hweight
    exact heq ▸ hweights' name hname name hname weight hweight
  · intro hself
    refine le_antisymm (cellWidth_le_iff.2 ⟨hcount, fun source hs target ht weight hw => ?_⟩)
      (cellWidth_le_iff.2 ⟨hcount', fun source hs target ht weight hw => ?_⟩)
    · by_cases heq : source = target
      · subst heq
        exact hself source hs weight hw
      · refine hweights source hs target ht weight ?_
        rw [Graph.weight?_withoutSelfLinks, if_neg heq, hw]
    · rw [Graph.weight?_withoutSelfLinks] at hw
      split at hw
      · simp at hw
      · exact hweights' source hs target ht weight hw

end Matrix

namespace Graph

/-! ## All views -/

/-- **Lists of links, diagrams and pages do not depend on the links of entities to themselves.** The
text of a matrix does in one way: it changes exactly if the weight of such a link is longer than the
columns would be without it, although the text shows a dash in its place.

**Proof sketch.** All of these views are made from the entities and the links between different
ones, but the width of the columns of the text is made from all weights. A text with wider columns
is longer. -/
theorem views_withoutSelfLinks (hg : g.EndsDeclared) :
    (∀ weights, g.toLines weights = g.withoutSelfLinks.toLines weights) ∧
    g.toDot = g.withoutSelfLinks.toDot ∧
    (∃ diagram, g.toPlantUml? = some diagram ∧ g.withoutSelfLinks.toPlantUml? = some diagram) ∧
    (Matrix.ofGraph g).toHtml = (Matrix.ofGraph g.withoutSelfLinks).toHtml ∧
    ((Matrix.ofGraph g).toText = (Matrix.ofGraph g.withoutSelfLinks).toText ↔
      ∀ name weight, g.weight? name name = some weight →
        (toString weight).length ≤ (Matrix.ofGraph g.withoutSelfLinks).cellWidth) := by
  have hagree := g.agreeAcross_withoutSelfLinks
  refine ⟨fun weights => ?_, ?_, ?_, Matrix.toHtml_congr hagree, ?_⟩
  · rw [toLines, toLines, hagree.crossDependencies]
  · rw [toDot, toDot, hagree.entities, hagree.crossDependencies]
  · obtain ⟨diagram, hdiagram, -⟩ := PlantUml.exists_read?_eq hg
    refine ⟨diagram, hdiagram, ?_⟩
    rw [← hdiagram]
    refine (PlantUml.toPlantUml?_congr hg hg.withoutSelfLinks hagree.entities ?_).symm
    rw [crossLinks, crossLinks, hagree.crossDependencies]
  · have hself : ∀ name weight, g.weight? name name = some weight → name ∈ g.names :=
      fun name weight hweight =>
        mem_names.2 (hg ⟨name, name, weight⟩ (mem_dependencies.2 hweight)).1
    by_cases hne : g.names = []
    · have hnone : ∀ name weight, g.weight? name name ≠ some weight := fun name weight hweight => by
        simpa [hne] using hself name weight hweight
      have htext : ∀ k : Graph, k.names = [] → (Matrix.ofGraph k).toText = "" := fun k hk => by
        simp [Matrix.toText, Matrix.ofGraph, hk]
      rw [htext g hne, htext _ (hagree.names ▸ hne)]
      exact iff_of_true rfl fun name weight hweight => absurd hweight (hnone name weight)
    · rw [Matrix.toText_eq_iff hagree hne, Matrix.cellWidth_withoutSelfLinks_eq_iff]
      exact ⟨fun h name weight hweight => h name (hself name weight hweight) weight hweight,
        fun h name _ weight hweight => h name weight hweight⟩

/-- A link of an entity to itself that was seen once is not visible, because its weight is not
longer than the number of the entities. -/
theorem views_of_single_self_link :
    let fact : String → String → Fact := fun source target =>
      ⟨⟨source, .unknown⟩, ⟨target, .unknown⟩⟩
    let g := Graph.ofFacts [fact "a" "a", fact "a" "b"]
    g.EndsDeclared ∧ g.weight? "a" "a" = some 1 ∧ g.withoutSelfLinks.weight? "a" "a" = none ∧
      g.toDot = g.withoutSelfLinks.toDot ∧
      (Matrix.ofGraph g).toText = (Matrix.ofGraph g.withoutSelfLinks).toText := by
  intro fact g
  have hg : g.EndsDeclared := (Reachable.ofFacts _).wellFormed.endsDeclared
  have hlinks : g.dependencies = [⟨"a", "a", 1⟩, ⟨"a", "b", 1⟩] := by decide +kernel
  have hwidth : (toString 1).length ≤ (Matrix.ofGraph g.withoutSelfLinks).cellWidth := by
    decide +kernel
  obtain ⟨-, hdot, -, -, htext⟩ := views_withoutSelfLinks hg
  refine ⟨hg, by decide +kernel, by decide +kernel, hdot, htext.2 fun name weight hweight => ?_⟩
  have hmem : (⟨name, name, weight⟩ : Dependency) ∈ g.dependencies := mem_dependencies.2 hweight
  have hweight : weight = 1 := by
    rw [hlinks] at hmem
    rcases List.mem_pair.1 hmem with heq | heq <;> exact (Dependency.mk.inj heq).2.2
  rw [hweight]
  exact hwidth

/-- A link of an entity to itself that was seen ten times makes the column of the text wider,
although no cell shows a number. -/
theorem frequent_self_link_widens_text :
    let fact : String → String → Fact := fun source target =>
      ⟨⟨source, .unknown⟩, ⟨target, .unknown⟩⟩
    let g := Graph.ofFacts (List.replicate 10 (fact "a" "a"))
    g.EndsDeclared ∧ (Matrix.ofGraph g).toText = "     |  1 |\n1: a |  - |\n" ∧
      (Matrix.ofGraph g.withoutSelfLinks).toText = "     | 1 |\n1: a | - |\n" := by
  intro fact g
  have hg : g.EndsDeclared := (Reachable.ofFacts _).wellFormed.endsDeclared
  refine ⟨hg, ?_, ?_⟩
  · decide +kernel
  · decide +kernel

end Graph

end DepAtlas
