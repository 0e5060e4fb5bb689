import DepAtlas.Proofs.Text.Join
import DepAtlas.Proofs.Text.Split

set_option relaxedAutoImplicit false
set_option autoImplicit false

/-!
# Replacing a character

Escapes are put into a text by replacing one character after the other. Replacing a character is
done character by character, so escapes that follow each other are one escape.

## Main results

* `DepAtlas.Text.replaceAll_singleton` — every occurrence of the character is replaced, and nothing
  else.
-/

namespace DepAtlas.Text

variable {c d : Char} {s : List Char}

/-- A character in front that is no separator is in front of the first piece.

**Proof sketch.** The text has no separator, and neither has the longer one, or its first piece is
cut off, and the longer one is too. -/
lemma splitOn_cons_of_ne (h : d ≠ c) : ∃ piece texts,
    splitOn [c] s = piece :: texts ∧ splitOn [c] (d :: s) = (d :: piece) :: texts := by
  have hsep : [c] ≠ [] := List.cons_ne_nil _ _
  rcases not_occurs_or_exists_isCutOff hsep s with hfree | ⟨piece, rest, rfl, hpiece⟩
  · refine ⟨s, [], splitOn_of_not_occurs hsep hfree, splitOn_of_not_occurs hsep ?_⟩
    rw [List.singleton_infix_iff] at hfree ⊢
    exact List.not_mem_cons_of_ne_of_not_mem h.symm hfree
  · have hc : c ∉ d :: piece := by
      refine List.not_mem_cons_of_ne_of_not_mem h.symm ?_
      rw [← List.singleton_infix_iff]
      exact hpiece.not_occurs hsep
    exact ⟨piece, splitOn [c] rest, splitOn_append hsep hpiece rest,
      splitOn_append hsep (isCutOff_singleton hc) rest⟩

/-- **Replacing a character goes through a text character by character.**

**Proof sketch.** Induction along the text. Replacing cuts the text at the character and puts the
pieces together again; a character in front is in the first piece, or it cuts off an empty one. -/
theorem replaceAll_singleton (c : Char) (new s : List Char) :
    replaceAll [c] new s = s.flatMap fun d => if d = c then new else [d] := by
  induction s with
  | nil =>
    rw [replaceAll, splitOn_of_not_occurs (List.cons_ne_nil _ _) (by simp)]
    rfl
  | cons d s ih =>
    rw [List.flatMap_cons, ← ih, replaceAll, replaceAll]
    by_cases heq : d = c
    · subst heq
      have hfront : splitOn [d] (d :: s) = [] :: splitOn [d] s :=
        splitOn_append (List.cons_ne_nil _ _) (isCutOff_nil [d]) s
      rw [hfront, joinWith_cons splitOn_ne_nil, if_pos rfl]
      rfl
    · obtain ⟨piece, texts, hs, hds⟩ := splitOn_cons_of_ne (s := s) heq
      rw [hs, hds, if_neg heq]
      cases texts with
      | nil => rfl
      | cons next rest => rfl

end DepAtlas.Text
