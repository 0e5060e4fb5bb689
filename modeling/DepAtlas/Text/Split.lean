set_option autoImplicit false

/-!
# Cutting text at a separator

Searching a text for a separator, from the left and from the right, and cutting it there. A
separator may be empty: the empty text occurs before every character and at the end.

## Main definitions

* `Text.cut?` — the parts before and after the leftmost occurrence of a separator.
* `Text.lastCut?` — the parts before and after the rightmost occurrence.
* `Text.splitOn` — the pieces between leftmost non-overlapping occurrences.
* `Text.dropSuffixes` — a text without the separators it ends in.
* `Text.joinWith` — pieces put together with a separator between neighbours.
* `Text.replaceAll` — every leftmost non-overlapping occurrence replaced.
-/

namespace DepAtlas.Text

/-! ## Occurrences -/

/-- The text after `sep` when `s` begins with it. -/
def afterPrefix? (sep s : List Char) : Option (List Char) :=
  if sep.isPrefixOf s then some (s.drop sep.length) else none

/-- The text before `sep` when `s` ends in it. -/
def beforeSuffix? (sep s : List Char) : Option (List Char) :=
  if sep.isSuffixOf s then some (s.take (s.length - sep.length)) else none

/-- The text before and the text after the leftmost occurrence of `sep`. The empty separator occurs
at the front of every text. -/
def cut? (sep : List Char) : List Char → Option (List Char × List Char)
  | [] => if sep.isEmpty then some ([], []) else none
  | c :: s =>
    if sep.isPrefixOf (c :: s) then some ([], (c :: s).drop sep.length)
    else (cut? sep s).map fun (before, after) => (c :: before, after)

/-- The text before and the text after the rightmost occurrence of `sep`. The empty separator occurs
at the end of every text. -/
def lastCut? (sep : List Char) : List Char → Option (List Char × List Char)
  | [] => if sep.isEmpty then some ([], []) else none
  | c :: s =>
    match lastCut? sep s with
    | some (before, after) => some (c :: before, after)
    | none => if sep.isPrefixOf (c :: s) then some ([], (c :: s).drop sep.length) else none

/-- What follows the leftmost occurrence of a separator that is not empty is shorter. So cutting
again and again comes to an end. -/
theorem length_lt_of_cut? {sep s before after : List Char} (hsep : sep ≠ [])
    (h : cut? sep s = some (before, after)) : after.length < s.length := by
  have hpos : 0 < sep.length := List.length_pos_iff.2 hsep
  induction s generalizing before after with
  | nil => simp [cut?, hsep] at h
  | cons c s ih =>
    rw [cut?] at h
    split at h
    · simp only [Option.some.injEq, Prod.mk.injEq] at h
      rw [← h.2, List.length_drop, List.length_cons]
      omega
    · obtain ⟨⟨b, a⟩, hcut, heq⟩ := Option.map_eq_some_iff.1 h
      simp only [Prod.mk.injEq] at heq
      have := ih hcut
      rw [← heq.2, List.length_cons]
      omega

/-! ## Pieces -/

/-- The pieces between the leftmost non-overlapping occurrences of a separator that is not
empty; `sep₀ :: seps` is that separator. -/
def pieces (sep₀ : Char) (seps s : List Char) : List (List Char) :=
  match _h : cut? (sep₀ :: seps) s with
  | none => [s]
  | some (before, after) => before :: pieces sep₀ seps after
termination_by s.length
decreasing_by exact length_lt_of_cut? (by simp) _h

/-- The pieces of `s` between occurrences of `sep`. The empty separator cuts before every
character and at the end, so it gives one piece a character between two empty pieces. -/
def splitOn (sep s : List Char) : List (List Char) :=
  match sep with
  | [] => [] :: (s.map fun c => [c]) ++ [[]]
  | c :: cs => pieces c cs s

/-- The pieces with `sep` between neighbours. -/
def joinWith (sep : List Char) : List (List Char) → List Char
  | [] => []
  | [piece] => piece
  | piece :: rest => piece ++ sep ++ joinWith sep rest

/-- Every occurrence of `sep`, found from the left without overlap, replaced by `new`. What is put
in is not searched again. -/
def replaceAll (sep new s : List Char) : List Char :=
  joinWith new (splitOn sep s)

/-- The rest of a reversed text after all leading copies of `sep`, with fuel for each copy. -/
def dropCopies (sep : List Char) : Nat → List Char → List Char
  | 0, s => s
  | n + 1, s =>
    match afterPrefix? sep s with
    | some rest => dropCopies sep n rest
    | none => s

/-- The text without the copies of `sep` at its end. An empty separator changes nothing. -/
def dropSuffixes (sep s : List Char) : List Char :=
  if sep.isEmpty then s else (dropCopies sep.reverse s.length s.reverse).reverse

end DepAtlas.Text
