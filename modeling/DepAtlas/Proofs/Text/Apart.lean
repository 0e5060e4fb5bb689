import DepAtlas.Proofs.Text.Join

set_option relaxedAutoImplicit false
set_option autoImplicit false

/-!
# Pieces apart from the separator

A piece that shares no character with the separator cannot hide a part of a separator. So pieces of this
kind that are put together are found again by every way to search the text: from the left, from the
right, and as the beginning of the text.

## Main results

* `DepAtlas.Text.joinWith_inj_of_disjoint` — the text that they are put together to tells them apart.
* `DepAtlas.Text.joinWith_append_prefix_iff` — which texts such a text with a separator behind it begins.
* `DepAtlas.Text.dropSuffixes_joinWith_append` — separators at the end are dropped, and nothing else.
-/

namespace DepAtlas.Text

variable {sep piece s rest : List Char} {texts others : List (List Char)}

/-! ## Searching from the left -/

/-- **The text tells the pieces apart.** -/
lemma joinWith_inj_of_disjoint (hsep : sep ≠ []) (htexts : texts ≠ []) (hothers : others ≠ [])
    (h : ∀ piece ∈ texts, piece.Disjoint sep) (h' : ∀ piece ∈ others, piece.Disjoint sep) :
    joinWith sep texts = joinWith sep others ↔ texts = others := by
  refine ⟨fun heq => ?_, congrArg _⟩
  have hsplit := congrArg (splitOn sep) heq
  rwa [splitOn_joinWith_of_disjoint hsep htexts h, splitOn_joinWith_of_disjoint hsep hothers h']
    at hsplit

/-- Pieces with a separator behind them are cut off one by one.

**Proof sketch.** Induction along the pieces. -/
lemma splitOn_joinWith_append (hsep : sep ≠ []) (hne : texts ≠ [])
    (h : ∀ piece ∈ texts, IsCutOff sep piece) (rest : List Char) :
    splitOn sep (joinWith sep texts ++ sep ++ rest) = texts ++ splitOn sep rest := by
  induction texts with
  | nil => exact absurd rfl hne
  | cons piece texts ih =>
    have hpiece := h piece List.mem_cons_self
    by_cases hnil : texts = []
    · subst hnil
      exact splitOn_append hsep hpiece rest
    · have htext : joinWith sep (piece :: texts) ++ sep ++ rest =
          piece ++ sep ++ (joinWith sep texts ++ sep ++ rest) := by
        rw [joinWith_cons hnil]
        simp only [List.append_assoc]
      rw [htext, splitOn_append hsep hpiece, ih hnil fun p hp => h p (List.mem_cons_of_mem _ hp)]
      rfl

/-- **A text with a separator behind it begins another one** if the pieces of the other one begin with
its pieces and go on.

**Proof sketch.** Cut the longer text: the pieces of the shorter one are cut off first. -/
lemma joinWith_append_prefix_iff (hsep : sep ≠ []) (hne : texts ≠ [])
    (h : ∀ piece ∈ texts, piece.Disjoint sep) (h' : ∀ piece ∈ others, piece.Disjoint sep) :
    joinWith sep texts ++ sep <+: joinWith sep others ↔ texts <+: others ∧ texts ≠ others := by
  constructor
  · rintro ⟨rest, hrest⟩
    have hothers : others ≠ [] := by
      rintro rfl
      simp [joinWith, hsep] at hrest
    have hsplit := congrArg (splitOn sep) hrest
    rw [splitOn_joinWith_append hsep hne fun p hp => isCutOff_of_disjoint hsep (h p hp),
      splitOn_joinWith_of_disjoint hsep hothers h'] at hsplit
    refine ⟨⟨_, hsplit⟩, fun heq => ?_⟩
    rw [heq] at hsplit
    exact splitOn_ne_nil (List.self_eq_append_right.1 hsplit.symm)
  · rintro ⟨⟨more, rfl⟩, hlonger⟩
    have hmore : more ≠ [] := by
      rintro rfl
      exact hlonger (List.append_nil _).symm
    rw [joinWith_append hne hmore]
    exact List.prefix_append _ _

/-! ## Searching from the right -/

/-- A separator in front of a piece and in it would share its last character with the piece.

**Proof sketch.** The separator is longer than its tail, so it would end inside the piece. -/
lemma not_infix_tail_append (hsep : sep ≠ []) (h : piece.Disjoint sep) :
    ¬ sep <:+: sep.tail ++ piece := by
  rintro ⟨before, after, heq⟩
  have hlength : sep.tail.length < (before ++ sep).length := by
    have hpos := List.length_pos_iff.2 hsep
    rw [List.length_append, List.length_tail]
    omega
  -- the separator is longer than its tail, so it ends inside the piece
  rcases List.append_eq_append_iff.1 heq with ⟨x, htail, -⟩ | ⟨x, hfront, hpiece⟩
  · rw [htail, List.length_append] at hlength
    omega
  · have hx : x ≠ [] := by
      rintro rfl
      rw [hfront, List.append_nil] at hlength
      exact absurd hlength (lt_irrefl _)
    have hlast := congrArg List.getLast? hfront
    rw [List.getLast?_append_of_ne_nil _ hsep, List.getLast?_append_of_ne_nil _ hx,
      List.getLast?_eq_some_getLast hx] at hlast
    exact h (hpiece ▸ List.mem_append_left _ (List.getLast_mem hx)) (List.mem_of_getLast? hlast)

/-! ## Separators at the end -/

/-- More fuel than there are characters makes no difference.

**Proof sketch.** Induction on the fuel: each copy that is dropped takes a character at least. -/
lemma dropCopies_of_length_le (hsep : sep ≠ []) {n m : ℕ} (hn : s.length ≤ n) (hm : s.length ≤ m) :
    dropCopies sep n s = dropCopies sep m s := by
  have hpos : 0 < sep.length := List.length_pos_iff.2 hsep
  have hnone : afterPrefix? sep [] = none := by simp [afterPrefix?, hsep]
  induction n generalizing s m with
  | zero =>
    obtain rfl : s = [] := List.eq_nil_of_length_eq_zero (Nat.le_zero.1 hn)
    cases m with
    | zero => rfl
    | succ m => rw [dropCopies, dropCopies, hnone]
  | succ n ih =>
    cases m with
    | zero =>
      obtain rfl : s = [] := List.eq_nil_of_length_eq_zero (Nat.le_zero.1 hm)
      rw [dropCopies, dropCopies, hnone]
    | succ m =>
      rw [dropCopies, dropCopies]
      split
      · next rest hrest =>
        have hshorter : rest.length + 1 ≤ s.length := by
          unfold afterPrefix? at hrest
          split at hrest
          · next hbegins =>
            have hle := (List.isPrefixOf_iff_prefix.1 hbegins).length_le
            rw [← Option.some.inj hrest, List.length_drop]
            omega
          · exact nomatch hrest
        exact ih (by omega) (by omega)
      · rfl

/-- A separator at the end is dropped, and then what is left of the text is looked at again. -/
lemma dropSuffixes_append (hsep : sep ≠ []) (s : List Char) :
    dropSuffixes sep (s ++ sep) = dropSuffixes sep s := by
  have hsep' : sep.reverse ≠ [] := by simpa using hsep
  have hpos : 0 < sep.length := List.length_pos_iff.2 hsep
  have hfuel : (s ++ sep).length = s.length + (sep.length - 1) + 1 := by
    rw [List.length_append]
    omega
  have hcopy : afterPrefix? sep.reverse (sep.reverse ++ s.reverse) = some s.reverse := by
    simp [afterPrefix?]
  rw [dropSuffixes, dropSuffixes, if_neg (by simpa using hsep), if_neg (by simpa using hsep),
    List.reverse_append, hfuel, dropCopies, hcopy]
  exact congrArg List.reverse (dropCopies_of_length_le hsep' (by simp) (by simp))

/-- A text that does not end in a separator is left as it is. -/
lemma dropSuffixes_eq_self (h : ¬ sep <:+ s) : dropSuffixes sep s = s := by
  have hnone : afterPrefix? sep.reverse s.reverse = none := by
    rw [afterPrefix?, if_neg]
    rwa [List.isPrefixOf_iff_prefix, List.reverse_prefix]
  unfold dropSuffixes
  split
  · rfl
  · cases s.length with
    | zero => simp [dropCopies]
    | succ n => simp [dropCopies, hnone]

/-- Nothing can be dropped from the empty text. -/
lemma dropSuffixes_nil (sep : List Char) : dropSuffixes sep [] = [] := by
  simp [dropSuffixes, dropCopies]

/-- Any number of separators at the end is dropped. -/
lemma dropSuffixes_append_flatten (hsep : sep ≠ []) (s : List Char) (count : ℕ) :
    dropSuffixes sep (s ++ (List.replicate count sep).flatten) = dropSuffixes sep s := by
  induction count with
  | zero => simp
  | succ count ih =>
    rw [List.replicate_succ', List.flatten_concat, ← List.append_assoc, dropSuffixes_append hsep, ih]

/-- A text does not end in a separator if its last piece is not empty and apart from the separator. -/
lemma not_suffix_joinWith_concat (hsep : sep ≠ []) (hpiece : piece ≠ []) (h : piece.Disjoint sep)
    (texts : List (List Char)) : ¬ sep <:+ joinWith sep (texts ++ [piece]) := by
  have hlast : (joinWith sep (texts ++ [piece])).getLast? = piece.getLast? := by
    by_cases hnil : texts = []
    · rw [hnil]
      rfl
    · rw [joinWith_append hnil (List.cons_ne_nil _ _)]
      exact List.getLast?_append_of_ne_nil _ hpiece
  rintro ⟨before, heq⟩
  rw [← heq, List.getLast?_append_of_ne_nil _ hsep, List.getLast?_eq_some_getLast hpiece] at hlast
  exact h (List.getLast_mem hpiece) (List.mem_of_getLast? hlast)

/-- **Separators behind pieces that are not empty are dropped, and nothing else.** -/
lemma dropSuffixes_joinWith_append (hsep : sep ≠ [])
    (h : ∀ piece ∈ texts, piece ≠ [] ∧ piece.Disjoint sep) (count : ℕ) :
    dropSuffixes sep (joinWith sep texts ++ (List.replicate count sep).flatten) =
      joinWith sep texts := by
  rw [dropSuffixes_append_flatten hsep]
  rcases List.eq_nil_or_concat' texts with rfl | ⟨front, last, rfl⟩
  · exact dropSuffixes_nil sep
  · obtain ⟨hsolid, hlast⟩ := h last (by simp)
    exact dropSuffixes_eq_self (not_suffix_joinWith_concat hsep hsolid hlast front)

end DepAtlas.Text
