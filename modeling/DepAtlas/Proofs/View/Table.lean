import Mathlib.Data.List.Basic
import Mathlib.Tactic.Common
import DepAtlas.Proofs.Text.Split
import DepAtlas.Text.Blank
import DepAtlas.View.Matrix

set_option relaxedAutoImplicit false
set_option autoImplicit false

/-!
# Lines of a table

A line of a table is a label and the texts of its cells, filled up with blanks to fixed widths. If
no text is wider than its place, every cell stands where its number says, and trimming what stands
there gives the text back.

## Main definitions

* `DepAtlas.Matrix.column` — the characters of a column of a line.
* `DepAtlas.Matrix.Shows` — a line shows a label and the texts of its cells.

## Main results

* `DepAtlas.Matrix.shows_lineText` — a line shows what it was made of.
-/

namespace DepAtlas.Matrix

variable {width cell : ℕ} {label text : String} {texts : List String}

/-! ## Filling up with blanks -/

/-- Padding on the right puts blanks behind a text. -/
lemma toList_padRight (width : ℕ) (s : String) :
    (padRight width s).toList = s.toList ++ List.replicate (width - s.length) ' ' := by
  simp [padRight]

/-- Padding on the left puts blanks in front of it. -/
lemma toList_padLeft (width : ℕ) (s : String) :
    (padLeft width s).toList = List.replicate (width - s.length) ' ' ++ s.toList := by
  simp [padLeft]

/-- A text that is not too long is padded to the width. -/
lemma length_padRight (h : label.length ≤ width) :
    (padRight width label).toList.length = width := by
  rw [toList_padRight, List.length_append, List.length_replicate, String.length_toList]
  omega

/-- The same on the left. -/
lemma length_padLeft (h : text.length ≤ cell) : (padLeft cell text).toList.length = cell := by
  rw [toList_padLeft, List.length_append, List.length_replicate, String.length_toList]
  omega

/-- Trimming takes the blanks in front of a text without blanks off, and nothing else. So a number
in a cell is read back from its column. -/
lemma trim_padLeft (h : ∀ c ∈ text.toList, Text.isBlank c = false) (cell : ℕ) :
    Text.trim (padLeft cell text).toList = text.toList := by
  have hblanks : ∀ c ∈ List.replicate (cell - text.length) ' ', Text.isBlank c = true := by
    intro c hc
    rw [List.eq_of_mem_replicate hc]
    decide
  have hstay : ∀ s : List Char, (∀ c ∈ s, Text.isBlank c = false) →
      s.dropWhile Text.isBlank = s := by
    intro s hs
    cases s with
    | nil => rfl
    | cons c s => exact List.dropWhile_cons_of_neg (by simp [hs c List.mem_cons_self])
  rw [Text.trim, Text.trimStart, Text.trimEnd, toList_padLeft,
    List.dropWhile_append_of_pos hblanks, hstay _ h,
    hstay _ fun c hc => h c (List.mem_reverse.1 hc), List.reverse_reverse]

/-! ## Blocks of one length -/

/-- Dropping some blocks of one length leaves the other blocks, as each of them takes the same
number of characters. -/
lemma drop_flatMap_blocks {α : Type} {block : α → List Char} {k : ℕ} {as : List α}
    (h : ∀ a ∈ as, (block a).length = k) (j : ℕ) :
    (as.flatMap block).drop (j * k) = (as.drop j).flatMap block := by
  induction as generalizing j with
  | nil => simp
  | cons a as ih =>
    have ih := ih fun b hb => h b (List.mem_cons_of_mem _ hb)
    cases j with
    | zero => simp
    | succ j =>
      rw [List.flatMap_cons, List.drop_succ_cons, ← ih j, Nat.succ_mul, Nat.add_comm,
        ← h a List.mem_cons_self, List.drop_length_add_append]

/-- Blocks of one length are together as long as their number says. -/
lemma length_flatMap_blocks {α : Type} {block : α → List Char} {k : ℕ} {as : List α}
    (h : ∀ a ∈ as, (block a).length = k) : (as.flatMap block).length = as.length * k := by
  rw [List.length_flatMap, List.map_congr_left h, List.map_const', List.sum_replicate_nat]

/-! ## Lines -/

/-- A cell with what stands around it. -/
def boxed (cell : ℕ) (text : String) : List Char :=
  ' ' :: (padLeft cell text).toList ++ [' ', '|']

/-- The characters of a line, without its end. -/
def lineText (width cell : ℕ) (label : String) (texts : List String) : List Char :=
  (padRight width label).toList ++ ([' ', '|'] ++ texts.flatMap (boxed cell))

/-- A line consists of the characters for its label and its cells, and a line end. -/
lemma toList_line (m : Matrix) (label : String) (texts : List String) :
    (m.line label texts).toList = lineText m.labelWidth m.cellWidth label texts ++ ['\n'] := by
  unfold lineText boxed
  simp [line, String.toList_join, List.flatMap_map]

/-- The characters of a column of a line. Two characters stand between the label and the cells, and
three belong to a cell in addition to its text. -/
def column (width cell j : ℕ) (line : List Char) : List Char :=
  (line.drop (width + 3 + j * (cell + 3))).take cell

/-- The line shows a label that takes `width` characters and the texts of cells that take `cell`
characters each, with a bar behind the label and behind each cell. What is shown can be read off the
columns, so the texts are known from the line. -/
structure Shows (width cell : ℕ) (line : List Char) (label : String) (texts : List String) :
    Prop where
  length : line.length = width + 2 + texts.length * (cell + 3)
  label : line.take width = label.toList ++ List.replicate (width - label.length) ' '
  bar : (line.drop width).take 2 = [' ', '|']
  column : ∀ j text, texts[j]? = some text → Text.trim (column width cell j line) = text.toList
  box : ∀ j < texts.length, (line.drop (width + 2 + j * (cell + 3))).take (cell + 3) =
    ' ' :: Matrix.column width cell j line ++ [' ', '|']

/-- The text is not wider than its cell, and has no blank inside. -/
def Fits (cell : ℕ) (text : String) : Prop :=
  text.length ≤ cell ∧ ∀ c ∈ text.toList, Text.isBlank c = false

/-- A cell is as wide as its text has room, and three characters more. -/
lemma length_boxed (h : Fits cell text) : (boxed cell text).length = cell + 3 := by
  rw [boxed, List.length_append, List.length_cons, length_padLeft h.1]
  rfl

/-- What stands from a cell on. -/
lemma drop_lineText (hlabel : label.length ≤ width) (htexts : ∀ text ∈ texts, Fits cell text)
    (j : ℕ) : (lineText width cell label texts).drop (width + 2 + j * (cell + 3)) =
      (texts.drop j).flatMap (boxed cell) := by
  have hboxed := fun text h => length_boxed (htexts text h)
  rw [← drop_flatMap_blocks hboxed, lineText, ← List.append_assoc, ← List.drop_drop]
  congr 1
  refine List.drop_left' ?_
  rw [List.length_append, length_padRight hlabel]
  rfl

/-- **A line shows what it was made of**, if nothing is wider than its place.

**Proof sketch.** All cells have one width, so each column begins where the cells in front of it
end. -/
theorem shows_lineText (hlabel : label.length ≤ width) (htexts : ∀ text ∈ texts, Fits cell text) :
    Shows width cell (lineText width cell label texts) label texts := by
  have hcolumn : ∀ j (h : j < texts.length),
      column width cell j (lineText width cell label texts) = (padLeft cell texts[j]).toList := by
    intro j hj
    have hfits := htexts _ (List.getElem_mem hj)
    -- The text of a cell begins one character behind the place where its box begins.
    rw [column, show width + 3 + j * (cell + 3) = width + 2 + j * (cell + 3) + 1 by omega,
      ← List.drop_drop, drop_lineText hlabel htexts, List.drop_eq_getElem_cons hj,
      List.flatMap_cons, boxed, List.cons_append, List.cons_append, List.drop_succ_cons,
      List.drop_zero, List.append_assoc]
    exact List.take_left' (length_padLeft hfits.1)
  refine ⟨?_, ?_, ?_, fun j text htext => ?_, fun j hj => ?_⟩
  · rw [lineText, List.length_append, length_padRight hlabel, List.length_append,
      length_flatMap_blocks fun text h => length_boxed (htexts text h)]
    change width + (2 + _) = _
    omega
  · rw [lineText, ← toList_padRight]
    exact List.take_left' (length_padRight hlabel)
  · rw [lineText, List.drop_left' (length_padRight hlabel)]
    rfl
  · obtain ⟨hj, rfl⟩ := List.getElem?_eq_some_iff.1 htext
    rw [hcolumn j hj]
    exact trim_padLeft (htexts _ (List.getElem_mem hj)).2 cell
  · rw [drop_lineText hlabel htexts, List.drop_eq_getElem_cons hj, List.flatMap_cons,
      List.take_left' (length_boxed (htexts _ (List.getElem_mem hj))), hcolumn j hj]
    rfl

/-- A line has no line end in it, if its label has none. -/
lemma newline_not_mem_lineText {width cell : ℕ} {label : String} {texts : List String}
    (hlabel : '\n' ∉ label.toList) (htexts : ∀ text ∈ texts, Fits cell text) :
    '\n' ∉ lineText width cell label texts := by
  have hblanks : ∀ n, '\n' ∉ List.replicate n ' ' := fun n h => by
    simpa using List.eq_of_mem_replicate h
  have htext : ∀ text ∈ texts, '\n' ∉ text.toList := fun text h hmem =>
    absurd ((htexts text h).2 _ hmem) (by decide)
  simp only [lineText, toList_padRight, List.mem_append, List.mem_flatMap, boxed, toList_padLeft,
    List.mem_cons, not_or, not_exists, not_and]
  refine ⟨⟨hlabel, hblanks _⟩, by decide, fun text h => ?_⟩
  exact ⟨⟨by decide, hblanks _, htext text h⟩, by decide⟩

end DepAtlas.Matrix
