import DepAtlas.Proofs.Text.Reading
import DepAtlas.Proofs.Text.Replace
import DepAtlas.View.Quoted

set_option relaxedAutoImplicit false
set_option autoImplicit false

/-!
# Names in quotes are read back

A quote ends a quoted name unless an odd number of backslashes stands before it, and a backslash is
never left over. So whatever a name is made of, its quotes are closed where they were written.

## Main definitions

* `DepAtlas.Quoted.close?` — the text up to the closing quote.
* `DepAtlas.Quoted.quoted` — the reader of a name in quotes.

## Main results

* `DepAtlas.Quoted.close?_eq_some_iff` — exactly the escaped texts are closed.
* `DepAtlas.Quoted.reads_quote` — a name in quotes is read back, whatever stands behind it.
-/

namespace DepAtlas.Quoted

open Text (Reader)

/-! ## Escapes -/

/-- How a character is written between quotes. -/
def escapeChar (c : Char) : List Char :=
  if c = '\\' ∨ c = '"' then ['\\', c] else [c]

/-- A text is escaped character by character, because the backslashes that are put before quotes
come too late to be doubled. -/
lemma escape_eq_flatMap (s : List Char) : escape s = s.flatMap escapeChar := by
  rw [escape, Text.replaceAll_singleton, Text.replaceAll_singleton, List.flatMap_assoc]
  refine List.flatMap_congr fun c _ => ?_
  by_cases hbackslash : c = '\\'
  · subst hbackslash
    rfl
  · by_cases hquote : c = '"' <;> simp [escapeChar, hbackslash, hquote]

/-- Nothing is written for the empty text. -/
@[simp] lemma escape_nil : escape [] = [] := by
  simp [escape_eq_flatMap]

/-- A backslash is put in front of a backslash or a quote. -/
lemma escape_cons_special {c : Char} (h : c = '\\' ∨ c = '"') (s : List Char) :
    escape (c :: s) = '\\' :: c :: escape s := by
  simp [escape_eq_flatMap, escapeChar, h]

/-- Every other character is written as it is. -/
lemma escape_cons_plain {c : Char} (hbackslash : c ≠ '\\') (hquote : c ≠ '"') (s : List Char) :
    escape (c :: s) = c :: escape s := by
  simp [escape_eq_flatMap, escapeChar, hbackslash, hquote]

/-! ## Closing quotes -/

/-- What stands before the closing quote, and what stands behind it. A backslash stands before a
quote or a backslash, which is meant as it is; nothing else may follow it. -/
def close? : List Char → Option (List Char × List Char)
  | [] | ['\\'] => none
  | '"' :: s => some ([], s)
  | '\\' :: c :: s =>
    if c = '\\' ∨ c = '"' then (close? s).map fun (name, rest) => (c :: name, rest) else none
  | c :: s => (close? s).map fun (name, rest) => (c :: name, rest)

/-- A character that is neither a backslash nor a quote belongs to the name. -/
lemma close?_cons_plain {c : Char} (hbackslash : c ≠ '\\') (hquote : c ≠ '"') (s : List Char) :
    close? (c :: s) = (close? s).map fun (name, rest) => (c :: name, rest) := by
  rw [close?]
  · exact fun h _ => hbackslash h
  · exact hquote
  · exact fun _ _ h _ => hbackslash h

/-- An escaped text is closed by the quote behind it.

**Proof sketch.** Induction along the text: no quote of its own can close it, because a backslash
stands in front of each. -/
lemma close?_escape (name rest : List Char) :
    close? (escape name ++ '"' :: rest) = some (name, rest) := by
  induction name with
  | nil => simp [close?]
  | cons c name ih =>
    by_cases hspecial : c = '\\' ∨ c = '"'
    · rw [escape_cons_special hspecial, List.cons_append, List.cons_append, close?,
        if_pos hspecial, ih]
      rfl
    · obtain ⟨hbackslash, hquote⟩ := not_or.1 hspecial
      rw [escape_cons_plain hbackslash hquote, List.cons_append,
        close?_cons_plain hbackslash hquote, ih]
      rfl

/-- **Exactly the escaped texts are closed.** So two names are never written alike, and no name can
end its quotes.

**Proof sketch.** Induction along the text, by whether a backslash, a quote or another character is
in front. -/
theorem close?_eq_some_iff {s name rest : List Char} :
    close? s = some (name, rest) ↔ s = escape name ++ '"' :: rest := by
  refine ⟨fun h => ?_, fun h => h ▸ close?_escape name rest⟩
  induction s using close?.induct generalizing name with
  | case1 => simp [close?] at h
  | case2 => simp [close?] at h
  | case3 s =>
    obtain ⟨rfl, rfl⟩ := Prod.mk.inj (Option.some.inj h)
    simp
  | case4 c s hspecial ih =>
    rw [close?, if_pos hspecial] at h
    obtain ⟨⟨name, rest⟩, hclose, heq⟩ := Option.map_eq_some_iff.1 h
    obtain ⟨rfl, rfl⟩ := Prod.mk.inj heq
    rw [escape_cons_special hspecial, ih hclose]
    rfl
  | case5 c s hspecial => simp [close?, hspecial] at h
  | case6 c s hlone hquote hbackslash ih =>
    have hplain : c ≠ '\\' := by
      rintro rfl
      cases s with
      | nil => exact hlone rfl rfl
      | cons d s => exact hbackslash d s rfl rfl
    rw [close?_cons_plain hplain hquote] at h
    obtain ⟨⟨name, rest⟩, hclose, heq⟩ := Option.map_eq_some_iff.1 h
    obtain ⟨rfl, rfl⟩ := Prod.mk.inj heq
    rw [escape_cons_plain hplain hquote, ih hclose]
    rfl

/-- The reader of a name in quotes. -/
def quoted : Reader String := do
  Reader.expect "\""
  let name ← close?
  return String.ofList name

/-- A name in quotes is read back, whatever stands behind it. -/
lemma reads_quote (name : String) : quoted.Reads (quote name).toList name := by
  have hclose : Reader.Reads close? (escape name.toList ++ ['"']) name.toList := fun rest => by
    rw [List.append_assoc]
    exact close?_escape name.toList rest
  have htext : (quote name).toList = "\"".toList ++ (escape name.toList ++ ['"']) := by
    simp [quote]
  have hread : quoted.Reads ("\"".toList ++ (escape name.toList ++ ['"']))
      (String.ofList name.toList) := (Reader.reads_expect "\"").bind hclose.bind_pure
  rwa [String.ofList_toList, ← htext] at hread

end DepAtlas.Quoted
