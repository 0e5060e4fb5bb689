import DepAtlas.Proofs.Text.Split

set_option relaxedAutoImplicit false
set_option autoImplicit false

/-!
# Texts put together with a separator

Pieces that are put together can be taken off again at both ends: in front where they are known, and
behind the rightmost separator. The pieces of a text give the text again, and fewer of them give a part of
its characters.

## Main results

* `DepAtlas.Text.joinWith_append` — putting together two lists of pieces.
* `DepAtlas.Text.joinWith_splitOn`, `DepAtlas.Text.joinWith_sublist` — all pieces of a text, and some of
  them.
* `DepAtlas.Text.lastCut?_append` — the rightmost separator stands where no other one begins behind
  it, not even one that overlaps it.
* `DepAtlas.Text.append_cons_inj_left`, `DepAtlas.Text.append_cons_inj_right` — a text is divided in
  one way at the first or the last occurrence of a character.
-/

namespace DepAtlas.Text

variable {sep piece : List Char} {texts others : List (List Char)}

/-! ## Putting together -/

/-- A piece in front is put in front of the others, with a separator behind it. -/
lemma joinWith_cons (h : texts ≠ []) :
    joinWith sep (piece :: texts) = piece ++ sep ++ joinWith sep texts := by
  obtain ⟨next, rest, rfl⟩ := List.exists_cons_of_ne_nil h
  rfl

/-- Pieces behind others are put behind them, with one separator in between. -/
lemma joinWith_append (htexts : texts ≠ []) (hothers : others ≠ []) :
    joinWith sep (texts ++ others) = joinWith sep texts ++ sep ++ joinWith sep others := by
  induction texts with
  | nil => exact absurd rfl htexts
  | cons piece texts ih =>
    by_cases hnil : texts = []
    · subst hnil
      exact joinWith_cons hothers
    · rw [List.cons_append, joinWith_cons (List.append_ne_nil_of_left_ne_nil hnil _), ih hnil,
        joinWith_cons hnil]
      simp only [List.append_assoc]

/-- Nothing comes out of putting pieces together only if there are none, or a single empty one. -/
lemma joinWith_eq_nil_iff (hsep : sep ≠ []) :
    joinWith sep texts = [] ↔ texts = [] ∨ texts = [[]] := by
  match texts with
  | [] => simp [joinWith]
  | [piece] => simp [joinWith]
  | piece :: next :: rest => simp [joinWith, hsep]

/-- Every character comes from a piece or from the separator. -/
lemma mem_joinWith {c : Char} (h : c ∈ joinWith sep texts) :
    c ∈ sep ∨ ∃ piece ∈ texts, c ∈ piece := by
  induction texts with
  | nil => exact absurd h List.not_mem_nil
  | cons piece texts ih =>
    by_cases hnil : texts = []
    · subst hnil
      exact .inr ⟨piece, List.mem_cons_self, h⟩
    · rw [joinWith_cons hnil, List.append_assoc, List.mem_append, List.mem_append] at h
      rcases h with h | h | h
      · exact .inr ⟨piece, List.mem_cons_self, h⟩
      · exact .inl h
      · exact (ih h).imp_right fun ⟨p, hp, hc⟩ => ⟨p, List.mem_cons_of_mem _ hp, hc⟩

/-- Without a separator, pieces are put one behind the other. -/
lemma joinWith_nil_left (texts : List (List Char)) : joinWith [] texts = texts.flatten := by
  induction texts with
  | nil => rfl
  | cons piece texts ih =>
    by_cases hnil : texts = []
    · subst hnil
      simp [joinWith]
    · rw [joinWith_cons hnil, ih, List.append_nil, List.flatten_cons]

/-- **The pieces of a text put together are the text.**

**Proof sketch.** Induction on the length of the text; what follows the first separator is shorter. -/
theorem joinWith_splitOn (sep s : List Char) : joinWith sep (splitOn sep s) = s := by
  by_cases hsep : sep = []
  · subst hsep
    simp [joinWith_nil_left, splitOn, ← List.flatMap_def]
  induction hn : s.length using Nat.strong_induction_on generalizing s with
  | _ n ih =>
    rcases not_occurs_or_exists_isCutOff hsep s with hfree | ⟨piece, rest, rfl, hpiece⟩
    · rw [splitOn_of_not_occurs hsep hfree]
      rfl
    · have hlt : rest.length < n := by
        have hpos : 0 < sep.length := List.length_pos_iff.2 hsep
        rw [← hn, List.length_append, List.length_append]
        omega
      rw [splitOn_append hsep hpiece, joinWith_cons splitOn_ne_nil, ih rest.length hlt rest rfl]

/-- **Fewer pieces give fewer characters**, in the same order: a piece that is left out takes one
separator with it.

**Proof sketch.** Induction on which pieces are left out. Where only the pieces behind the first one
are left out, the separator behind it goes with the last of them. -/
theorem joinWith_sublist (h : texts.Sublist others) :
    (joinWith sep texts).Sublist (joinWith sep others) := by
  induction h with
  | slnil => exact List.Sublist.refl _
  | @cons texts others piece h ih =>
    by_cases hnil : others = []
    · subst hnil
      rw [List.sublist_nil.1 h]
      exact List.nil_sublist _
    · rw [joinWith_cons hnil]
      exact ih.trans (List.sublist_append_right _ _)
  | @cons_cons texts others piece h ih =>
    by_cases hnil : texts = []
    · subst hnil
      by_cases hnil' : others = []
      · rw [hnil']
      · rw [joinWith_cons hnil', List.append_assoc]
        exact List.sublist_append_left _ _
    · have hnil' : others ≠ [] := by
        rintro rfl
        exact hnil (List.sublist_nil.1 h)
      rw [joinWith_cons hnil, joinWith_cons hnil']
      exact ih.append_left _

/-! ## The rightmost separator -/

/-- A text has no last separator exactly if it has none. -/
lemma lastCut?_eq_none_iff (hsep : sep ≠ []) {s : List Char} :
    lastCut? sep s = none ↔ ¬ sep <:+: s := by
  induction s with
  | nil => simp [lastCut?, hsep]
  | cons c s ih =>
    rw [lastCut?, List.infix_cons_iff, ← List.isPrefixOf_iff_prefix]
    cases hcut : lastCut? sep s with
    | none => simp [ih.1 hcut]
    | some parts =>
      have hoccurs : sep <:+: s := by
        by_contra hfree
        exact absurd (hcut.symm.trans (ih.2 hfree)) (Option.some_ne_none _)
      simp [hoccurs]

/-- **The rightmost separator stands where no other one begins behind it.**

**Proof sketch.** Induction on the text before it; every character there is passed over because the
separator is found behind it. -/
lemma lastCut?_append (hsep : sep ≠ []) (before : List Char) {after : List Char}
    (h : ¬ sep <:+: sep.tail ++ after) :
    lastCut? sep (before ++ sep ++ after) = some (before, after) := by
  induction before with
  | nil =>
    obtain ⟨c, cs, rfl⟩ := List.exists_cons_of_ne_nil hsep
    have hnone : lastCut? (c :: cs) (cs ++ after) = none := (lastCut?_eq_none_iff hsep).2 h
    rw [List.nil_append, List.cons_append, lastCut?, hnone]
    simp
  | cons c before ih => rw [List.cons_append, List.cons_append, lastCut?, ih]

/-! ## One way to divide a text -/

variable {c : Char} {x y u v : List Char}

/-- A text is cut in one way only at the first place of a character.

**Proof sketch.** Induction along one of the parts in front, neither of which has the character. -/
lemma append_cons_inj_left (hx : c ∉ x) (hy : c ∉ y) (h : x ++ c :: u = y ++ c :: v) :
    x = y ∧ u = v := by
  induction x generalizing y with
  | nil =>
    cases y with
    | nil => exact ⟨rfl, (List.cons.inj h).2⟩
    | cons d y => exact absurd ((List.cons.inj h).1 ▸ List.mem_cons_self) hy
  | cons d x ih =>
    cases y with
    | nil => exact absurd ((List.cons.inj h).1 ▸ List.mem_cons_self) hx
    | cons e y =>
      obtain ⟨rfl, htail⟩ := List.cons.inj h
      obtain ⟨rfl, rfl⟩ := ih (fun hc => hx (List.mem_cons_of_mem _ hc))
        (fun hc => hy (List.mem_cons_of_mem _ hc)) htail
      exact ⟨rfl, rfl⟩

/-- A text is cut in one way only at the last place of a character. -/
lemma append_cons_inj_right (hu : c ∉ u) (hv : c ∉ v) (h : x ++ c :: u = y ++ c :: v) :
    x = y ∧ u = v := by
  have hreverse : u.reverse ++ c :: x.reverse = v.reverse ++ c :: y.reverse := by
    simpa using congrArg List.reverse h
  obtain ⟨huv, hxy⟩ := append_cons_inj_left (by simpa using hu) (by simpa using hv) hreverse
  exact ⟨List.reverse_inj.1 hxy, List.reverse_inj.1 huv⟩

end DepAtlas.Text
