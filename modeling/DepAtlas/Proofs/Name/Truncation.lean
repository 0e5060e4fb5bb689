import Mathlib.Data.List.DropRight
import DepAtlas.Graph.Basic
import DepAtlas.Proofs.Name.Segments
import DepAtlas.Proofs.Text.Join

set_option relaxedAutoImplicit false
set_option autoImplicit false

/-!
# Names cut down more than once

A name that is cut down has the first segments of the name, whatever the separator is, so cutting it down
again is cutting it down once to the smaller number of segments. Names fall together exactly if their first
segments do. Cutting down leaves some of the characters of the name, so a blank name stays blank.

## Main definitions

* `DepAtlas.Name.IsCutInto` — texts that a name is cut into.

## Main results

* `DepAtlas.Name.exists_isCutInto` — what the segments of a name are, also if the separator is empty.
* `DepAtlas.Name.segments_truncate_of_any` — the segments of a name that is cut down.
* `DepAtlas.Name.truncate_truncate` — cutting down twice.
* `DepAtlas.Name.truncate_eq_truncate_iff`, `DepAtlas.Name.truncate_eq_self_iff` — which names fall
  together, and which are left alone.
* `DepAtlas.Name.truncation_is_stable` — all of this, for any name and any separator.
* `DepAtlas.Name.truncate_sublist` — the characters that are left.
* `DepAtlas.Name.isBlankName_truncate` — blank names stay blank.
-/

namespace DepAtlas

/-- A name is blank if all its characters are. -/
lemma isBlankName_iff {name : String} :
    isBlankName name = true ↔ ∀ c ∈ name.toList, Text.isBlank c = true := by
  rw [isBlankName, List.isEmpty_iff, Text.trim, Text.trimEnd, Text.trimStart, List.reverse_eq_nil_iff,
    List.dropWhile_eq_nil_iff]
  simp only [List.mem_reverse]
  rw [← List.dropWhile_eq_nil_iff, List.dropWhile_idempotent, List.dropWhile_eq_nil_iff]

namespace Name

variable {name separator : String}

/-! ## The empty separator -/

/-- Without a separator every character is a piece. -/
lemma solidPieces_empty (name : String) :
    solidPieces name "" = name.toList.map fun c => [c] := by
  have hsolid : ∀ piece ∈ name.toList.map (fun c => [c]), (!piece.isEmpty) = true := by
    intro piece hpiece
    obtain ⟨c, -, rfl⟩ := List.mem_map.1 hpiece
    rfl
  rw [solidPieces, String.toList_empty, Text.splitOn, List.filter_append, List.filter_cons_of_neg (by simp),
    List.filter_eq_self.2 hsolid]
  simp

/-- Without a separator a name is cut down to its first characters. -/
lemma toList_truncate_empty (name : String) (depth : ℕ) :
    (truncate name "" depth).toList = name.toList.take depth := by
  rw [toList_truncate, solidPieces_empty, String.toList_empty, Text.joinWith_nil_left, ← List.map_take,
    ← List.flatMap_def, List.flatMap_singleton']

/-- The empty separator leaves no two characters together. -/
lemma length_le_one_of_mem_splitOn {piece s : List Char} (h : piece ∈ Text.splitOn [] s) :
    piece.length ≤ 1 := by
  simp only [Text.splitOn, List.cons_append, List.mem_cons, List.mem_append, List.mem_map,
    List.not_mem_nil, or_false] at h
  rcases h with rfl | ⟨c, -, rfl⟩ | rfl
  · exact Nat.zero_le 1
  · exact Nat.le_refl 1
  · exact Nat.zero_le 1

/-! ## What a name is cut into -/

/-- Texts that a name is cut into: put together they are the name, and no separator is left in them. The
empty separator is found in every text, but then only at its ends. -/
structure IsCutInto (separator name : String) (pieces : List String) : Prop where
  join_eq : join pieces separator = name
  at_end : ∀ piece ∈ pieces, ∀ before after, piece = before ++ separator ++ after →
    separator = "" ∧ (before = "" ∨ after = "")

/-- No separator is left in a piece but the empty one at its ends. The empty separator cuts a text
into its characters, so no piece has a place between two of them. -/
lemma eq_nil_of_mem_splitOn {sep s before after : List Char}
    (h : before ++ sep ++ after ∈ Text.splitOn sep s) : sep = [] ∧ (before = [] ∨ after = []) := by
  by_cases hsep : sep = []
  · subst hsep
    refine ⟨rfl, ?_⟩
    have hshort : (before ++ [] ++ after).length ≤ 1 := length_le_one_of_mem_splitOn h
    by_contra! hlong
    have hbefore : 0 < before.length := List.length_pos_iff.2 hlong.1
    have hafter : 0 < after.length := List.length_pos_iff.2 hlong.2
    rw [List.append_nil, List.length_append] at hshort
    omega
  · have hoccurs : sep <:+: before ++ sep ++ after := ⟨before, after, rfl⟩
    exact absurd hoccurs ((Text.arePieces_splitOn hsep s).not_occurs _ h)

/-- **The segments of a name** are what it is cut into, without the empty pieces.

**Proof sketch.** The pieces give back the name when they are put together, and no separator is left
in any of them. -/
lemma exists_isCutInto (name separator : String) : ∃ pieces,
    IsCutInto separator name pieces ∧
      segments name separator = pieces.filter fun piece => piece ≠ "" := by
  refine ⟨(Text.splitOn separator.toList name.toList).map String.ofList, ⟨?_, ?_⟩, ?_⟩
  · have htexts : ((Text.splitOn separator.toList name.toList).map String.ofList).map String.toList =
        Text.splitOn separator.toList name.toList := by
      simp [Function.comp_def]
    rw [join, htexts, Text.joinWith_splitOn, String.ofList_toList]
  · intro piece hpiece before after heq
    obtain ⟨text, htext, rfl⟩ := List.mem_map.1 hpiece
    have hparts : text = before.toList ++ separator.toList ++ after.toList := by
      simpa using congrArg String.toList heq
    rw [hparts] at htext
    simpa using eq_nil_of_mem_splitOn htext
  · have hsolid : ∀ text : List Char, (!text.isEmpty) = decide (String.ofList text ≠ "") := by
      intro text
      cases text <;> simp
    rw [segments, List.filter_map, funext hsolid]
    rfl

/-! ## Cutting down twice -/

/-- **A name that is cut down has the first segments**, also if the separator is empty. -/
theorem segments_truncate_of_any (name separator : String) (depth : ℕ) :
    segments (truncate name separator depth) separator = (segments name separator).take depth := by
  by_cases hsep : separator = ""
  · subst hsep
    rw [segments_eq_map, segments_eq_map, solidPieces_empty, solidPieces_empty, toList_truncate_empty,
      List.map_take, List.map_take]
  · exact segments_truncate hsep name depth

/-- **Cutting down twice is cutting down to the smaller number of segments.** -/
theorem truncate_truncate (name separator : String) (n m : ℕ) :
    truncate (truncate name separator n) separator m = truncate name separator (min n m) := by
  rw [truncate, segments_truncate_of_any, List.take_take, Nat.min_comm, ← truncate]

/-- A name that is left alone when it is cut down to fewer segments is left alone by more. -/
lemma truncate_eq_self_of_min {n m : ℕ} (h : truncate name separator (min n m) = name) :
    truncate name separator n = name := by
  have hagain := truncate_truncate name separator (min n m) n
  rwa [h, Nat.min_eq_left (Nat.min_le_left n m), h] at hagain

/-! ## Names that fall together -/

/-- **Names fall together when they are cut down** if they have the same first segments. -/
lemma truncate_eq_truncate_iff {other : String} {n : ℕ} :
    truncate name separator n = truncate other separator n ↔
      (segments name separator).take n = (segments other separator).take n := by
  refine ⟨fun heq => ?_, fun hfirst => by rw [truncate, truncate, hfirst]⟩
  rw [← segments_truncate_of_any, heq, segments_truncate_of_any]

/-- A name is left alone if it has no more segments and holds nothing else than them, divided by one separator
each. -/
lemma truncate_eq_self_iff {n : ℕ} : truncate name separator n = name ↔
    (segments name separator).length ≤ n ∧ join (segments name separator) separator = name := by
  constructor
  · intro hself
    have hall : (segments name separator).take n = segments name separator := by
      rw [← segments_truncate_of_any, hself]
    rw [truncate, hall] at hself
    exact ⟨(List.take_eq_self_iff _).1 hall, hself⟩
  · rintro ⟨hfew, hself⟩
    rw [truncate, List.take_of_length_le hfew, hself]

/-- **Cutting down is stable under cutting apart again**, for every name and every separator, also if the
separator is empty or overlaps itself and wherever parts of it stand in the name. What is left has the first
segments: none is lost, and no new separator appears where they are put together. So cutting down again is
cutting down once to the smaller number of segments. Names fall together exactly if they have the same first
segments, and a name is left alone exactly if it has no more of them and is put together from them. The
segments are what the name is cut into, without the empty pieces. -/
theorem truncation_is_stable (name separator : String) (n m : ℕ) :
    segments (truncate name separator n) separator = (segments name separator).take n ∧
    truncate (truncate name separator n) separator m = truncate name separator (min n m) ∧
    (∀ other, truncate name separator n = truncate other separator n ↔
      (segments name separator).take n = (segments other separator).take n) ∧
    (truncate name separator n = name ↔
      (segments name separator).length ≤ n ∧ join (segments name separator) separator = name) ∧
    ∃ pieces, IsCutInto separator name pieces ∧
      segments name separator = pieces.filter fun piece => piece ≠ "" :=
  ⟨segments_truncate_of_any name separator n, truncate_truncate name separator n m,
    fun _ => truncate_eq_truncate_iff, truncate_eq_self_iff, exists_isCutInto name separator⟩

/-- A separator that overlaps itself, in a name where a part of it follows it and where it is doubled: the
first two of three `a` are the separator, and they still are in what is left. -/
theorem truncation_of_overlapping_separator :
    let name := "baaacaaaad"
    segments name "aa" = ["b", "ac", "d"] ∧ truncate name "aa" 2 = "baaac" ∧
      segments "baaac" "aa" = ["b", "ac"] ∧ truncate "baaac" "aa" 1 = "b" ∧
      truncate name "aa" 2 = truncate "baaacaae" "aa" 2 ∧ truncate name "aa" 3 ≠ name := by
  intro name
  have hsegs : segments name "aa" = ["b", "ac", "d"] := by decide +kernel
  have hcut : truncate name "aa" 2 = "baaac" := by decide +kernel
  obtain ⟨hfirst, hagain, hsame, -, -⟩ := truncation_is_stable name "aa" 2 1
  obtain ⟨-, -, -, hself, -⟩ := truncation_is_stable name "aa" 3 3
  rw [hcut, hsegs] at hfirst
  rw [hcut] at hagain
  refine ⟨hsegs, hcut, hfirst, hagain.trans (by decide +kernel), (hsame "baaacaae").2 ?_, ?_⟩
  · decide +kernel
  · exact fun heq => absurd (hself.1 heq).2 (by decide +kernel)

/-! ## What is left -/

/-- **Cutting down leaves some of the characters**, in the same order. -/
theorem truncate_sublist (name separator : String) (depth : ℕ) :
    (truncate name separator depth).toList.Sublist name.toList := by
  have hpieces : ((solidPieces name separator).take depth).Sublist
      (Text.splitOn separator.toList name.toList) :=
    (List.take_sublist _ _).trans List.filter_sublist
  rw [toList_truncate, ← Text.joinWith_splitOn separator.toList name.toList]
  exact Text.joinWith_sublist hpieces

/-- A blank name stays blank. -/
lemma isBlankName_truncate (h : isBlankName name = true) (separator : String) (depth : ℕ) :
    isBlankName (truncate name separator depth) = true :=
  isBlankName_iff.2 fun c hc =>
    isBlankName_iff.1 h c ((truncate_sublist name separator depth).subset hc)

end Name

end DepAtlas
