import Mathlib.Data.String.Basic
import DepAtlas.Name
import DepAtlas.Proofs.Text.Split

set_option relaxedAutoImplicit false
set_option autoImplicit false

/-!
# Segments and roots of names

There are two ways to say where a name begins: its first segment, which is never empty, and its root,
which is what stands before the first separator. They are the same unless a separator stands in
front of the name, where the root is empty.

## Main results

* `DepAtlas.Name.segments_truncate` — a name that is cut down has the first segments.
* `DepAtlas.Name.head?_segments`, `DepAtlas.Name.root_eq_empty` — how root and first segment go
  together.
-/

namespace DepAtlas.Name

variable {name separator : String}

/-- A separator that is not empty has characters. -/
lemma toList_ne_nil (h : separator ≠ "") : separator.toList ≠ [] := by
  simpa using h

/-- The pieces of a name that are not empty. -/
def solidPieces (name separator : String) : List (List Char) :=
  (Text.splitOn separator.toList name.toList).filter fun piece => !piece.isEmpty

/-- The segments of a name are its solid pieces. -/
lemma segments_eq_map (name separator : String) :
    segments name separator = (solidPieces name separator).map String.ofList := rfl

/-- The characters of a name that is cut down. -/
lemma toList_truncate (name separator : String) (depth : ℕ) :
    (truncate name separator depth).toList =
      Text.joinWith separator.toList ((solidPieces name separator).take depth) := by
  have hpieces : ((segments name separator).take depth).map String.toList =
      (solidPieces name separator).take depth := by
    rw [segments_eq_map, List.map_take, List.map_map]
    simp [Function.comp_def]
  rw [truncate, join, hpieces, String.toList_ofList]

/-- **A name that is cut down has the first segments**: no separator appears where segments are put
together again.

**Proof sketch.** The solid pieces of a name can be put together without a separator appearing
across two of them, and so can the first ones of these. Cutting the outcome gives them back. -/
theorem segments_truncate (hsep : separator ≠ "") (name : String) (depth : ℕ) :
    segments (truncate name separator depth) separator = (segments name separator).take depth := by
  have hne := toList_ne_nil hsep
  have hsolid : ∀ piece ∈ (solidPieces name separator).take depth, (!piece.isEmpty) = true :=
    fun piece hp => (List.mem_filter.1 (List.mem_of_mem_take hp)).2
  have hpieces : Text.ArePieces separator.toList ((solidPieces name separator).take depth) :=
    (Text.arePieces_splitOn hne name.toList).sublist
      ((List.take_sublist _ _).trans List.filter_sublist)
  rw [segments_eq_map, segments_eq_map, ← List.map_take, solidPieces, toList_truncate]
  refine congrArg _ ?_
  by_cases hnil : (solidPieces name separator).take depth = []
  · rw [hnil, Text.joinWith, Text.splitOn_of_not_occurs hne (by simpa using hne)]
    rfl
  · rw [Text.splitOn_joinWith hne hnil hpieces, List.filter_eq_self.2 hsolid]

/-- A name with a separator in front has an empty root. -/
lemma root_eq_empty (hsep : separator ≠ "") (h : separator.toList <+: name.toList) :
    root name separator = "" := by
  obtain ⟨rest, hrest⟩ := h
  rw [root, ← hrest]
  have hsplit := Text.splitOn_append (toList_ne_nil hsep) (Text.isCutOff_nil _) rest
  rw [List.nil_append] at hsplit
  rw [hsplit]
  rfl

/-- A name without a separator in front has its root as its first segment. Its first piece is not
empty then. -/
lemma head?_segments (hsep : separator ≠ "") (hname : name ≠ "")
    (h : ¬ separator.toList <+: name.toList) :
    (segments name separator).head? = some (root name separator) := by
  have hne := toList_ne_nil hsep
  rw [segments_eq_map, solidPieces, root]
  rcases Text.not_occurs_or_exists_isCutOff hne name.toList with hfree | ⟨piece, rest, heq, hpiece⟩
  · rw [Text.splitOn_of_not_occurs hne hfree]
    simp [hname]
  · have hsolid : piece ≠ [] := by
      rintro rfl
      exact h ⟨rest, by simpa using heq.symm⟩
    rw [heq, Text.splitOn_append hne hpiece]
    simp [hsolid]

end DepAtlas.Name
