import Mathlib.Data.List.Infix
import Mathlib.Tactic.Common
import DepAtlas.Text.Split

set_option relaxedAutoImplicit false
set_option autoImplicit false

/-!
# Pieces between separators

A text is cut at the leftmost occurrences of a separator. Whether a piece is cut off in the right
place depends on the piece and the separator behind it only, and not on what follows. So pieces can
be left out and the others put together again, and the result is cut into the same pieces.

## Main definitions

* `DepAtlas.Text.IsCutOff` — a piece that ends where the leftmost separator begins.
* `DepAtlas.Text.ArePieces` — a list of texts that may be the pieces of one text.

## Main results

* `DepAtlas.Text.cut?_append`, `DepAtlas.Text.cut?_eq_some` — where a text is cut.
* `DepAtlas.Text.splitOn_joinWith` — pieces that are put together are cut into the same pieces.
* `DepAtlas.Text.arePieces_of_disjoint`, `DepAtlas.Text.arePieces_splitOn` — pieces that share no
  character with the separator, and the pieces of a text.
-/

namespace DepAtlas.Text

variable {sep s : List Char}

/-! ## The leftmost separator -/

/-- No separator begins inside the piece if one follows right behind it. A piece without a separator
need not be cut off by the one behind it, because a separator can overlap with itself. -/
def IsCutOff (sep piece : List Char) : Prop :=
  ∀ t, t <:+ piece → t ≠ [] → ¬ sep <+: t ++ sep

/-- Nothing is cut off by a separator that stands in front. -/
lemma isCutOff_nil (sep : List Char) : IsCutOff sep [] :=
  fun _ ht hne => absurd (List.suffix_nil.1 ht) hne

/-- A separator that begins inside a piece would share its first character. -/
lemma isCutOff_of_disjoint (hsep : sep ≠ []) {piece : List Char} (h : piece.Disjoint sep) :
    IsCutOff sep piece := by
  intro t ht hne hbegins
  obtain ⟨c, cs, rfl⟩ := List.exists_cons_of_ne_nil hsep
  obtain ⟨d, t, rfl⟩ := List.exists_cons_of_ne_nil hne
  obtain rfl : c = d := (List.cons_prefix_cons.1 hbegins).1
  exact h (ht.subset List.mem_cons_self) List.mem_cons_self

/-- A piece without a character is cut off by that character. -/
lemma isCutOff_singleton {c : Char} {piece : List Char} (h : c ∉ piece) : IsCutOff [c] piece :=
  isCutOff_of_disjoint (List.cons_ne_nil _ _) (List.disjoint_singleton.2 h)

/-- A piece that is cut off has no separator inside. -/
lemma IsCutOff.not_occurs (hsep : sep ≠ []) {piece : List Char} (h : IsCutOff sep piece) :
    ¬ sep <:+: piece := by
  rintro ⟨before, after, rfl⟩
  have hsuffix : sep ++ after <:+ before ++ sep ++ after := ⟨before, by simp⟩
  refine h (sep ++ after) hsuffix (by simp [hsep]) ?_
  rw [List.append_assoc]
  exact List.prefix_append sep _

/-- A text is not cut exactly if no separator is in it. -/
lemma cut?_eq_none_iff (hsep : sep ≠ []) : cut? sep s = none ↔ ¬ sep <:+: s := by
  induction s with
  | nil => simp [cut?, hsep]
  | cons c s ih =>
    rw [cut?, List.infix_cons_iff, ← List.isPrefixOf_iff_prefix]
    split
    · next h => simp [h]
    · next h => rw [Option.map_eq_none_iff, ih, or_iff_right h]

/-- **A text is cut behind a piece that is cut off**, whatever follows the separator.

**Proof sketch.** Induction on the piece. Whether a separator begins at a place inside the piece can
be seen in the piece with one separator behind it, because the separator is no longer than that. -/
lemma cut?_append (hsep : sep ≠ []) {piece : List Char} (h : IsCutOff sep piece)
    (rest : List Char) : cut? sep (piece ++ sep ++ rest) = some (piece, rest) := by
  induction piece with
  | nil =>
    obtain ⟨c, cs, rfl⟩ := List.exists_cons_of_ne_nil hsep
    simp [cut?]
  | cons c piece ih =>
    have hpiece : IsCutOff sep piece := fun t ht => h t (ht.trans (List.suffix_cons c piece))
    have hbegins : ¬ sep.isPrefixOf (c :: (piece ++ sep ++ rest)) = true := by
      rw [List.isPrefixOf_iff_prefix]
      intro hfront
      refine h (c :: piece) List.suffix_rfl (List.cons_ne_nil _ _) ?_
      refine List.prefix_of_prefix_length_le hfront ⟨rest, by simp⟩ ?_
      simp only [List.length_append]
      omega
    rw [List.cons_append, List.cons_append, cut?, if_neg hbegins, ih hpiece]
    rfl

/-- Where a text is cut, it is put together again, and the piece is cut off.

**Proof sketch.** Induction along the text. At its front there is a separator, or the cut is further
back, and then no separator begins at the front either. -/
lemma cut?_eq_some (hsep : sep ≠ []) {piece rest : List Char}
    (h : cut? sep s = some (piece, rest)) : s = piece ++ sep ++ rest ∧ IsCutOff sep piece := by
  induction s generalizing piece rest with
  | nil => simp [cut?, hsep] at h
  | cons c s ih =>
    rw [cut?] at h
    split at h
    · next hfront =>
      obtain ⟨rest', hrest⟩ := List.isPrefixOf_iff_prefix.1 hfront
      simp only [Option.some.injEq, Prod.mk.injEq] at h
      obtain ⟨rfl, rfl⟩ := h
      refine ⟨?_, isCutOff_nil sep⟩
      rw [← hrest, List.drop_left]
      rfl
    · next hfront =>
      obtain ⟨⟨piece', rest'⟩, hcut, heq⟩ := Option.map_eq_some_iff.1 h
      simp only [Prod.mk.injEq] at heq
      obtain ⟨rfl, rfl⟩ := heq
      obtain ⟨rfl, hpiece⟩ := ih hcut
      refine ⟨by simp, fun t ht hne hbegins => ?_⟩
      rcases List.suffix_cons_iff.1 ht with rfl | ht
      · refine hfront (List.isPrefixOf_iff_prefix.2 (hbegins.trans ⟨rest', ?_⟩))
        simp
      · exact hpiece t ht hne hbegins

/-! ## All pieces -/

/-- A text without a separator is one piece. -/
lemma splitOn_of_not_occurs (hsep : sep ≠ []) (h : ¬ sep <:+: s) : splitOn sep s = [s] := by
  have hcut : cut? sep s = none := (cut?_eq_none_iff hsep).2 h
  obtain ⟨c, cs, rfl⟩ := List.exists_cons_of_ne_nil hsep
  rw [splitOn, pieces]
  split
  · rfl
  · next hsome => exact absurd (hsome.symm.trans hcut) (Option.some_ne_none _)

/-- Every text has a piece. -/
lemma splitOn_ne_nil : splitOn sep s ≠ [] := by
  cases sep with
  | nil => exact List.cons_ne_nil _ _
  | cons c cs =>
    rw [splitOn, pieces]
    split <;> exact List.cons_ne_nil _ _

/-- What is cut off is the first piece. -/
lemma splitOn_append (hsep : sep ≠ []) {piece : List Char} (h : IsCutOff sep piece)
    (rest : List Char) : splitOn sep (piece ++ sep ++ rest) = piece :: splitOn sep rest := by
  have hcut : cut? sep (piece ++ sep ++ rest) = some (piece, rest) := cut?_append hsep h rest
  obtain ⟨c, cs, rfl⟩ := List.exists_cons_of_ne_nil hsep
  rw [splitOn, pieces]
  split
  · next hnone => exact absurd (hcut.symm.trans hnone) (Option.some_ne_none _)
  · next hsome =>
    obtain ⟨rfl, rfl⟩ := Prod.mk.inj (Option.some.inj (hcut.symm.trans hsome))
    rfl

/-- Pieces that each end in a character are cut apart there, and nothing is left behind them. -/
lemma splitOn_flatMap_concat {c : Char} {texts : List (List Char)}
    (h : ∀ piece ∈ texts, c ∉ piece) :
    splitOn [c] (texts.flatMap fun piece => piece ++ [c]) = texts ++ [[]] := by
  induction texts with
  | nil => exact splitOn_of_not_occurs (List.cons_ne_nil _ _) (by simp)
  | cons piece texts ih =>
    rw [List.flatMap_cons, splitOn_append (List.cons_ne_nil _ _)
      (isCutOff_singleton (h piece List.mem_cons_self)),
      ih fun other hother => h other (List.mem_cons_of_mem _ hother)]
    rfl

/-- Pieces that each follow a character are cut apart there.

**Proof sketch.** Induction along the pieces, each of which is cut off by the character in front of
the next one. -/
lemma splitOn_append_flatMap_cons {c : Char} {piece : List Char} {texts : List (List Char)}
    (hpiece : c ∉ piece) (h : ∀ text ∈ texts, c ∉ text) :
    splitOn [c] (piece ++ texts.flatMap (c :: ·)) = piece :: texts := by
  induction texts generalizing piece with
  | nil =>
    rw [List.flatMap_nil, List.append_nil]
    refine splitOn_of_not_occurs (List.cons_ne_nil _ _) ?_
    rwa [List.singleton_infix_iff]
  | cons text texts ih =>
    have hpieces := ih (h text List.mem_cons_self) fun other hother =>
      h other (List.mem_cons_of_mem _ hother)
    have hfirst := splitOn_append (List.cons_ne_nil c []) (isCutOff_singleton hpiece)
      (text ++ texts.flatMap (c :: ·))
    rw [hpieces, List.append_assoc] at hfirst
    exact hfirst

/-- A text has no separator, or it begins with a piece that is cut off. -/
lemma not_occurs_or_exists_isCutOff (hsep : sep ≠ []) (s : List Char) :
    ¬ sep <:+: s ∨ ∃ piece rest, s = piece ++ sep ++ rest ∧ IsCutOff sep piece := by
  cases hcut : cut? sep s with
  | none => exact .inl ((cut?_eq_none_iff hsep).1 hcut)
  | some p => exact .inr ⟨p.1, p.2, cut?_eq_some hsep hcut⟩

/-- Texts that may be the pieces of one text: none has a separator inside, and each but the last is
cut off by the separator behind it. -/
structure ArePieces (sep : List Char) (texts : List (List Char)) : Prop where
  isCutOff : texts.Pairwise fun piece _ => IsCutOff sep piece
  not_occurs : ∀ piece ∈ texts, ¬ sep <:+: piece

/-- Pieces may be left out. -/
lemma ArePieces.sublist {texts texts' : List (List Char)} (h : ArePieces sep texts)
    (hsub : texts'.Sublist texts) : ArePieces sep texts' :=
  ⟨h.isCutOff.sublist hsub, fun piece hp => h.not_occurs piece (hsub.subset hp)⟩

/-- **Pieces that are put together are cut into the same pieces.**

**Proof sketch.** Induction along the pieces: the first one is cut off by the separator behind it,
and the last one has none in it. -/
theorem splitOn_joinWith (hsep : sep ≠ []) {texts : List (List Char)} (hne : texts ≠ [])
    (h : ArePieces sep texts) : splitOn sep (joinWith sep texts) = texts := by
  induction texts with
  | nil => exact absurd rfl hne
  | cons piece texts ih =>
    cases texts with
    | nil => exact splitOn_of_not_occurs hsep (h.not_occurs piece List.mem_cons_self)
    | cons next texts =>
      have hcut : IsCutOff sep piece :=
        (List.pairwise_cons.1 h.isCutOff).1 next List.mem_cons_self
      rw [joinWith, splitOn_append hsep hcut,
        ih (List.cons_ne_nil _ _) (h.sublist (List.sublist_cons_self _ _))]
      exact List.cons_ne_nil _ _

/-- Pieces that share no character with the separator may be the pieces of one text. -/
lemma arePieces_of_disjoint (hsep : sep ≠ []) {texts : List (List Char)}
    (h : ∀ piece ∈ texts, piece.Disjoint sep) : ArePieces sep texts where
  isCutOff := List.pairwise_of_forall_mem_list fun _ hp _ _ => isCutOff_of_disjoint hsep (h _ hp)
  not_occurs _ hp := (isCutOff_of_disjoint hsep (h _ hp)).not_occurs hsep

/-- This is so in particular for pieces that share no character with the separator. -/
lemma splitOn_joinWith_of_disjoint (hsep : sep ≠ []) {texts : List (List Char)} (hne : texts ≠ [])
    (h : ∀ piece ∈ texts, piece.Disjoint sep) : splitOn sep (joinWith sep texts) = texts :=
  splitOn_joinWith hsep hne (arePieces_of_disjoint hsep h)

/-- **Cutting a text gives pieces.**

**Proof sketch.** Induction on the length of the text; what follows a piece that is cut off is
shorter. -/
theorem arePieces_splitOn (hsep : sep ≠ []) (s : List Char) : ArePieces sep (splitOn sep s) := by
  induction hn : s.length using Nat.strong_induction_on generalizing s with
  | _ n ih =>
    rcases not_occurs_or_exists_isCutOff hsep s with hfree | ⟨piece, rest, rfl, hpiece⟩
    · rw [splitOn_of_not_occurs hsep hfree]
      exact ⟨List.pairwise_singleton _ _, fun p hp => List.mem_singleton.1 hp ▸ hfree⟩
    · have hlt : rest.length < n := by
        have hpos : 0 < sep.length := List.length_pos_iff.2 hsep
        rw [← hn, List.length_append, List.length_append]
        omega
      have hrest : ArePieces sep (splitOn sep rest) := ih rest.length hlt rest rfl
      rw [splitOn_append hsep hpiece]
      refine ⟨List.pairwise_cons.2 ⟨fun _ _ => hpiece, hrest.isCutOff⟩, fun p hp => ?_⟩
      rcases List.mem_cons.1 hp with rfl | hp
      · exact hpiece.not_occurs hsep
      · exact hrest.not_occurs p hp

end DepAtlas.Text
