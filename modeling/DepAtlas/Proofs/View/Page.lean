import DepAtlas.Proofs.Text.Replace
import DepAtlas.View.Matrix

set_option relaxedAutoImplicit false
set_option autoImplicit false

/-!
# Reading a page

A page is read the way a browser begins to read it: every `<` opens a tag, whatever stands before
it, and the next `>` closes the tag. A name that is written without these characters stays in the
text behind the tag where it was put, and undoing the escapes gives it back.

## Main definitions

* `DepAtlas.Page.elements` — the tags of a page, each with the text behind it.
* `DepAtlas.Page.rows` — what stands in the rows of the tables.
* `DepAtlas.Page.unescape` — a text as it is meant.

## Main results

* `DepAtlas.Page.elements_eq` — elements that are written are read back.
* `DepAtlas.Page.rows_append_table` — a table gives back the rows that were written.
* `DepAtlas.Page.unescape_append_escapeHtml` — undoing the escapes gives a text back.
-/

namespace DepAtlas.Page

/-! ## Tags -/

/-- A tag, without its brackets, and the text behind it up to the next tag. A page is read as a list
of these, without any knowledge of what was written. -/
structure Element where
  tag : String
  text : String
deriving DecidableEq, Repr

/-- The element of what stands between two tag openings. -/
def elementOf (piece : List Char) : Element :=
  match Text.cut? ['>'] piece with
  | some (tag, text) => ⟨String.ofList tag, String.ofList text⟩
  | none => ⟨String.ofList piece, ""⟩

/-- The elements of a page: every `<` opens a tag, and the next `>` closes it. -/
def elements (page : String) : List Element :=
  (Text.splitOn ['<'] page.toList).tail.map elementOf

/-- What stands behind the opening of a tag. -/
def Element.inner (e : Element) : List Char :=
  e.tag.toList ++ ['>'] ++ e.text.toList

/-- An element in a page. -/
def Element.write (e : Element) : List Char :=
  '<' :: e.inner

/-- Nothing in the element opens a tag, and nothing but its end closes its tag. -/
def Element.IsPlain (e : Element) : Prop :=
  '<' ∉ e.inner ∧ '>' ∉ e.tag.toList

/-- Whether an element is plain can be decided. -/
instance (e : Element) : Decidable e.IsPlain :=
  inferInstanceAs (Decidable (_ ∧ _))

/-- A text that opens no tag may be put behind a plain tag. -/
lemma Element.isPlain_of_not_mem {tag text : String} (htag : Element.IsPlain ⟨tag, ""⟩)
    (htext : '<' ∉ text.toList) : Element.IsPlain ⟨tag, text⟩ := by
  refine ⟨?_, htag.2⟩
  rw [Element.inner, List.mem_append, not_or]
  exact ⟨fun h => htag.1 (List.mem_append_left _ h), htext⟩

/-- A plain element is read back from what stands behind the opening of its tag. -/
lemma elementOf_inner {e : Element} (h : e.IsPlain) : elementOf e.inner = e := by
  rw [elementOf, Element.inner, Text.cut?_append (List.cons_ne_nil _ _)
    (Text.isCutOff_singleton h.2)]
  simp

/-- **Elements that are written are read back.** -/
theorem elements_eq {page : String} {es : List Element} (h : ∀ e ∈ es, e.IsPlain)
    (hpage : page.toList = es.flatMap Element.write) : elements page = es := by
  have hpieces : Text.splitOn ['<'] page.toList = [] :: es.map Element.inner := by
    rw [hpage, ← Text.splitOn_append_flatMap_cons List.not_mem_nil
      (List.forall_mem_map.2 fun e he => (h e he).1), List.flatMap_map]
    rfl
  rw [elements, hpieces, List.tail_cons, List.map_map]
  exact (List.map_congr_left fun e he => elementOf_inner (h e he)).trans (List.map_id es)

/-! ## Rows -/

/-- What stands in the rows of the tables: the elements from each `tr` up to the next `/tr`. -/
def rows : List Element → List (List Element)
  | [] => []
  | e :: es =>
    if e.tag = "tr" then es.takeWhile (fun e => e.tag != "/tr") :: rows es else rows es

/-- A row with its tags. -/
def writeRow (row : List Element) : List Element :=
  ⟨"tr", ""⟩ :: row ++ [⟨"/tr", "\n"⟩]

/-- Elements without a row in front of others add no row. -/
lemma rows_append_of_no_row {es : List Element} (h : ∀ e ∈ es, e.tag ≠ "tr")
    (rest : List Element) : rows (es ++ rest) = rows rest := by
  induction es with
  | nil => rfl
  | cons e es ih =>
    rw [List.cons_append, rows, if_neg (h e List.mem_cons_self),
      ih fun e he => h e (List.mem_cons_of_mem _ he)]

/-- A row whose elements are no tags of rows is read back.

**Proof sketch.** What is taken from its opening tag up to the next closing one are its elements. -/
lemma rows_writeRow_append {row : List Element} (h : ∀ e ∈ row, e.tag ≠ "tr" ∧ e.tag ≠ "/tr")
    (rest : List Element) : rows (writeRow row ++ rest) = row :: rows rest := by
  have hrow : ∀ e ∈ row, (e.tag != "/tr") = true := fun e he => bne_iff_ne.2 (h e he).2
  have hclosed : ∀ e ∈ row ++ [⟨"/tr", "\n"⟩], e.tag ≠ "tr" := by
    intro e he
    rcases List.mem_append.1 he with he | he
    · exact (h e he).1
    · rw [List.mem_singleton.1 he]
      decide
  rw [writeRow, List.cons_append, List.cons_append, rows, if_pos rfl,
    rows_append_of_no_row hclosed, List.append_assoc, List.takeWhile_append_of_pos hrow]
  simp

/-- **A table gives back the rows that were written**, whatever stands before and behind it. -/
theorem rows_append_table {before after : List Element} {table : List (List Element)}
    (hbefore : ∀ e ∈ before, e.tag ≠ "tr") (hafter : ∀ e ∈ after, e.tag ≠ "tr")
    (htable : ∀ row ∈ table, ∀ e ∈ row, e.tag ≠ "tr" ∧ e.tag ≠ "/tr") :
    rows (before ++ table.flatMap writeRow ++ after) = table := by
  rw [List.append_assoc, rows_append_of_no_row hbefore]
  induction table with
  | nil => rw [List.flatMap_nil, ← List.append_nil ([] ++ after), List.nil_append,
      rows_append_of_no_row hafter, rows]
  | cons row table ih =>
    rw [List.flatMap_cons, List.append_assoc, rows_writeRow_append (htable row List.mem_cons_self),
      ih fun row hrow => htable row (List.mem_cons_of_mem _ hrow)]

/-! ## Escapes -/

/-- The characters that a text with escapes stands for. -/
def unescapeChars : List Char → List Char
  | '&' :: 'a' :: 'm' :: 'p' :: ';' :: s => '&' :: unescapeChars s
  | '&' :: 'l' :: 't' :: ';' :: s => '<' :: unescapeChars s
  | '&' :: 'g' :: 't' :: ';' :: s => '>' :: unescapeChars s
  | '&' :: 'q' :: 'u' :: 'o' :: 't' :: ';' :: s => '"' :: unescapeChars s
  | c :: s => c :: unescapeChars s
  | [] => []

/-- A text as it is meant. -/
def unescape (s : String) : String :=
  String.ofList (unescapeChars s.toList)

/-- How a character is written in a page. -/
def escapeChar (c : Char) : List Char :=
  if c = '&' then ['&', 'a', 'm', 'p', ';']
  else if c = '<' then ['&', 'l', 't', ';']
  else if c = '>' then ['&', 'g', 't', ';']
  else if c = '"' then ['&', 'q', 'u', 'o', 't', ';']
  else [c]

/-- A text is escaped character by character, because no escape has a character that is replaced
after it.

**Proof sketch.** The replacements are made one after the other. Ampersands come first, and the
escapes that bring in more of them come later. -/
lemma toList_escapeHtml (s : String) :
    (Matrix.escapeHtml s).toList = s.toList.flatMap escapeChar := by
  dsimp only [Matrix.escapeHtml, String.reduceToList]
  simp only [String.toList_ofList, Text.replaceAll_singleton, List.flatMap_assoc]
  refine List.flatMap_congr fun c _ => ?_
  by_cases hamp : c = '&'
  · subst hamp
    rfl
  by_cases hlt : c = '<'
  · subst hlt
    rfl
  by_cases hgt : c = '>'
  · subst hgt
    rfl
  by_cases hquote : c = '"' <;> simp [escapeChar, hamp, hlt, hgt, hquote]

/-- A character that begins no escape stands for itself. -/
lemma unescapeChars_cons {c : Char} (h : c ≠ '&') (s : List Char) :
    unescapeChars (c :: s) = c :: unescapeChars s := by
  rw [unescapeChars] <;> exact fun _ hc => absurd hc h

/-- So do all characters of a text without escapes. -/
lemma unescapeChars_append {front : List Char} (h : '&' ∉ front) (s : List Char) :
    unescapeChars (front ++ s) = front ++ unescapeChars s := by
  induction front with
  | nil => rfl
  | cons c front ih =>
    obtain ⟨hc, hfront⟩ := List.ne_and_not_mem_of_not_mem_cons h
    rw [List.cons_append, unescapeChars_cons hc.symm, ih hfront, List.cons_append]

/-- The escape of a character stands for the character, and what is behind it is read as it was. -/
lemma unescapeChars_escapeChar_append (c : Char) (s : List Char) :
    unescapeChars (escapeChar c ++ s) = c :: unescapeChars s := by
  unfold escapeChar
  split
  -- Every escape begins with an ampersand; a character that is none is left as it is.
  · next hamp => simp [hamp, unescapeChars]
  split
  · next hlt => simp [hlt, unescapeChars]
  split
  · next hgt => simp [hgt, unescapeChars]
  split
  · next hquote => simp [hquote, unescapeChars]
  · next hamp _ _ _ => exact unescapeChars_cons hamp s

/-- **Undoing the escapes gives a text back**, behind anything that has no escapes. -/
theorem unescape_append_escapeHtml {front : String} (h : '&' ∉ front.toList) (s : String) :
    unescape (front ++ Matrix.escapeHtml s) = front ++ s := by
  have hs : unescapeChars (s.toList.flatMap escapeChar) = s.toList := by
    induction s.toList with
    | nil => rfl
    | cons c cs ih => rw [List.flatMap_cons, unescapeChars_escapeChar_append, ih]
  rw [unescape, String.toList_append, toList_escapeHtml, unescapeChars_append h, hs,
    String.ofList_append, String.ofList_toList, String.ofList_toList]

/-- A name is written without the characters that open and close tags and quotes. Their escapes have
none of them either. -/
lemma not_mem_escapeHtml {c : Char} (h : c = '<' ∨ c = '>' ∨ c = '"') (s : String) :
    c ∉ (Matrix.escapeHtml s).toList := by
  rw [toList_escapeHtml, List.mem_flatMap]
  rintro ⟨d, -, hc⟩
  unfold escapeChar at hc
  split_ifs at hc with hamp hlt hgt hquote
  · rcases h with rfl | rfl | rfl <;> simp at hc
  · rcases h with rfl | rfl | rfl <;> simp at hc
  · rcases h with rfl | rfl | rfl <;> simp at hc
  · rcases h with rfl | rfl | rfl <;> simp at hc
  · obtain rfl := List.mem_singleton.1 hc
    exact h.elim hlt fun h => h.elim hgt hquote

end DepAtlas.Page
