import DepAtlas.Proofs.Name.Ancestor
import DepAtlas.Proofs.Text.Apart

set_option relaxedAutoImplicit false
set_option autoImplicit false

/-!
# The hierarchy of names

The functions on names search for the separator in different ways: from the left for all segments, from
the right for the namespace, at the end of a namespace for what does not count there, and behind the
namespace for the rest of a name. For names that are put together from segments apart from the separator
they all see the same list of segments, and a name is within a namespace if the segments of the namespace
are the first ones of the name.

## Main definitions

* `DepAtlas.Name.IsPlain` — a segment that shares no character with the separator.

## Main results

* `DepAtlas.Name.segments_join`, `DepAtlas.Name.truncate_join`, `DepAtlas.Name.head?_eq_root_join`,
  `DepAtlas.Name.namespace?_join_eq` — the functions on a name, from its segments.
* `DepAtlas.Name.isWithin_join_iff` — what is within a namespace.
* `DepAtlas.Name.segment_hierarchy` — all of them together.
-/

namespace DepAtlas.Name

variable {name separator segment : String} {segs around : List String}

/-- A segment that is not empty and shares no character with the separator. Names made of such
segments can be cut at any separator without one appearing across two segments. -/
def IsPlain (separator segment : String) : Prop :=
  segment ≠ "" ∧ ∀ c ∈ segment.toList, c ∉ separator.toList

-- Only the characters of the segment are tried, not all characters there are.
/-- Whether a segment is plain can be decided. -/
instance (separator segment : String) : Decidable (IsPlain separator segment) :=
  @instDecidableAnd _ _ _ (List.decidableBAll _ _)

/-! ## Plain segments -/

/-- A plain segment shares no character with the separator. -/
lemma IsPlain.disjoint (h : IsPlain separator segment) :
    segment.toList.Disjoint separator.toList :=
  fun _ hc => h.2 _ hc

/-- A plain segment is a segment in the sense of ancestors. -/
lemma IsPlain.isSegment (hsep : separator ≠ "") (h : IsPlain separator segment) :
    IsSegment separator segment :=
  ⟨h.1, Text.not_infix_tail_append (toList_ne_nil hsep) h.disjoint⟩

/-- Between two colons stands what has none. -/
lemma isPlain_of_colon_not_mem (hsolid : segment ≠ "") (h : ':' ∉ segment.toList) :
    IsPlain defaultSeparator segment := by
  refine ⟨hsolid, fun c hc hsep => h ?_⟩
  obtain rfl : c = ':' := by simpa [defaultSeparator] using hsep
  exact hc

/-- The characters of plain segments are none of the separator. -/
lemma disjoint_of_mem_map (h : ∀ s ∈ segs, IsPlain separator s) :
    ∀ piece ∈ segs.map String.toList, piece.Disjoint separator.toList :=
  List.forall_mem_map.2 fun s hs => (h s hs).disjoint

/-- None of some plain segments is empty. -/
lemma not_mem_of_forall_isPlain (h : ∀ s ∈ segs, IsPlain separator s) : "" ∉ segs :=
  fun hempty => (h "" hempty).1 rfl

/-- Plain segments are not a single empty one. -/
lemma ne_singleton_empty (h : ∀ s ∈ segs, IsPlain separator s) : segs ≠ [""] := by
  rintro rfl
  exact not_mem_of_forall_isPlain h List.mem_cons_self

/-- Only a name without segments is empty. -/
lemma join_eq_empty_iff_of_isPlain (hsep : separator ≠ "") (h : ∀ s ∈ segs, IsPlain separator s) :
    join segs separator = "" ↔ segs = [] := by
  rw [join_eq_empty_iff hsep, or_iff_left (ne_singleton_empty h)]

/-! ## From the segments of a name -/

/-- A name made of plain segments is cut at its separators into these. -/
lemma splitOn_toList_join (hsep : separator ≠ "") (hne : segs ≠ [])
    (h : ∀ s ∈ segs, IsPlain separator s) :
    Text.splitOn separator.toList (join segs separator).toList = segs.map String.toList := by
  rw [toList_join]
  exact Text.splitOn_joinWith_of_disjoint (toList_ne_nil hsep) (by simpa using hne)
    (disjoint_of_mem_map h)

/-- **The segments of a name** are those that it is put together from. -/
lemma segments_join (hsep : separator ≠ "") (h : ∀ s ∈ segs, IsPlain separator s) :
    segments (join segs separator) separator = segs := by
  by_cases hnil : segs = []
  · subst hnil
    rw [segments, toList_join, Text.splitOn_of_not_occurs (toList_ne_nil hsep)]
    · rfl
    · simpa [Text.joinWith] using hsep
  · have hsolid : ∀ piece ∈ segs.map String.toList, (!piece.isEmpty) = true :=
      List.forall_mem_map.2 fun s hs => by simpa using (h s hs).1
    rw [segments, splitOn_toList_join hsep hnil h, List.filter_eq_self.2 hsolid, List.map_map]
    simp [Function.comp_def]

/-- Names of different segments are different. -/
lemma join_inj_of_isPlain {others : List String} (hsep : separator ≠ "")
    (h : ∀ s ∈ segs, IsPlain separator s) (h' : ∀ s ∈ others, IsPlain separator s) :
    join segs separator = join others separator ↔ segs = others := by
  refine ⟨fun heq => ?_, congrArg (join · separator)⟩
  rw [← segments_join hsep h, ← segments_join hsep h', heq]

/-- A name cut down is made of its first segments. -/
lemma truncate_join (hsep : separator ≠ "") (h : ∀ s ∈ segs, IsPlain separator s) (depth : ℕ) :
    truncate (join segs separator) separator depth = join (segs.take depth) separator := by
  rw [truncate, segments_join hsep h]

/-- The root of a name is its first segment. -/
lemma head?_eq_root_join (hsep : separator ≠ "") (hne : segs ≠ [])
    (h : ∀ s ∈ segs, IsPlain separator s) :
    segs.head? = some (root (join segs separator) separator) := by
  rw [root, splitOn_toList_join hsep hne h]
  obtain ⟨first, rest, rfl⟩ := List.exists_cons_of_ne_nil hne
  simp

/-- The namespace around a name is made of all segments but the last, if there is more than one.

**Proof sketch.** Plain segments are segments in the sense of ancestors, where this is known for
names of two segments or more. -/
lemma namespace?_join_eq (hsep : separator ≠ "") (hne : segs ≠ [])
    (h : ∀ s ∈ segs, IsPlain separator s) :
    Name.namespace? (join segs separator) separator =
      if segs.length = 1 then none else some (join segs.dropLast separator) := by
  obtain ⟨front, last, rfl⟩ := (List.eq_nil_or_concat' segs).resolve_left hne
  have hlast : IsSegment separator last := (h last (by simp)).isSegment hsep
  by_cases hfront : front = []
  · subst hfront
    rw [List.nil_append, join_singleton, namespace?_of_isSegment hsep hlast]
    rfl
  · have hplain : ∀ s ∈ front, IsPlain separator s := fun s hs => h s (List.mem_append_left _ hs)
    rw [namespace?_join hsep hfront (ne_singleton_empty hplain) hlast, if_neg (by simpa using hfront),
      List.dropLast_concat]

/-! ## Within a namespace -/

/-- A name is within a namespace if nothing is left of the namespace, if it is the namespace, or if it
goes on behind it with a separator. -/
lemma isWithin_iff {«namespace» : String} {left : List Char}
    (h : Text.dropSuffixes separator.toList «namespace».toList = left) :
    isWithin name «namespace» separator = true ↔
      left = [] ∨ name.toList = left ∨ left ++ separator.toList <+: name.toList := by
  simp only [isWithin, h, Text.afterPrefix?, Bool.or_eq_true, List.isEmpty_iff, beq_iff_eq, or_assoc]
  by_cases hbegins : left <+: name.toList
  · obtain ⟨rest, hrest⟩ := hbegins
    simp [← hrest, List.prefix_append_right_inj]
  · have hnot : ¬ left ++ separator.toList <+: name.toList := fun hlonger =>
      hbegins ((List.prefix_append _ _).trans hlonger)
    simp [hbegins, hnot]

/-- **A name is within a namespace** if the segments of the namespace are the first ones of the name.
Separators behind the namespace do not count.

**Proof sketch.** Dropping the separators leaves the namespace as it is put together from its segments. A
name that goes on behind it is cut into these segments first. -/
lemma isWithin_join_iff (hsep : separator ≠ "") (hsegs : ∀ s ∈ segs, IsPlain separator s)
    (haround : ∀ s ∈ around, IsPlain separator s) (count : ℕ) :
    isWithin (join segs separator)
      (join around separator ++ String.join (List.replicate count separator)) separator = true ↔
        around <+: segs := by
  have hsep' := toList_ne_nil hsep
  have hinj : Function.Injective String.toList := fun _ _ => String.toList_inj.1
  have hdropped : Text.dropSuffixes separator.toList
      (join around separator ++ String.join (List.replicate count separator)).toList =
        Text.joinWith separator.toList (around.map String.toList) := by
    have hpieces : ∀ piece ∈ around.map String.toList,
        piece ≠ [] ∧ piece.Disjoint separator.toList :=
      List.forall_mem_map.2 fun s hs => ⟨by simpa using (haround s hs).1, (haround s hs).disjoint⟩
    rw [String.toList_append, toList_join, String.toList_join, List.flatMap_def, List.map_replicate]
    exact Text.dropSuffixes_joinWith_append hsep' hpieces count
  rw [isWithin_iff hdropped, toList_join]
  by_cases hnil : around = []
  · simp [hnil, Text.joinWith]
  have hlong : around.map String.toList ≠ [] := by simpa using hnil
  have hsolid : Text.joinWith separator.toList (around.map String.toList) ≠ [] := by
    rw [← toList_join]
    simpa using mt (join_eq_empty_iff_of_isPlain hsep haround).1 hnil
  have hsame : Text.joinWith separator.toList (segs.map String.toList) =
      Text.joinWith separator.toList (around.map String.toList) ↔ segs = around := by
    by_cases hsegs' : segs = []
    · simp [hsegs', Text.joinWith, Ne.symm hnil, Ne.symm hsolid]
    · rw [Text.joinWith_inj_of_disjoint hsep' (by simpa using hsegs') hlong
        (disjoint_of_mem_map hsegs) (disjoint_of_mem_map haround), List.map_inj_right hinj]
  rw [or_iff_right hsolid, hsame, Text.joinWith_append_prefix_iff hsep' hlong
    (disjoint_of_mem_map haround) (disjoint_of_mem_map hsegs), ne_eq, List.map_inj_right hinj,
    List.prefix_map_iff_of_injective hinj]
  constructor
  · rintro (rfl | ⟨hfirst, -⟩)
    · exact List.prefix_refl _
    · exact hfirst
  · intro hfirst
    by_cases heq : segs = around
    · exact .inl heq
    · exact .inr ⟨hfirst, Ne.symm heq⟩

/-- A name is within another one if the segments of the other one are its first ones. -/
lemma isWithin_join_join_iff (hsep : separator ≠ "") (hsegs : ∀ s ∈ segs, IsPlain separator s)
    (haround : ∀ s ∈ around, IsPlain separator s) :
    isWithin (join segs separator) (join around separator) separator = true ↔ around <+: segs := by
  simpa [String.join] using isWithin_join_iff hsep hsegs haround 0

/-- **All functions on names see the same segments.** For a name that is put together from segments apart
from the separator, the segments are those again, cutting it down leaves the first ones, its root is the
first one, and its namespace is made of all but the last, if there is more than one. It is within a
namespace, with any number of separators behind it, if the segments of the namespace are its first ones.
So names are within themselves and within what a name that they are within is within, and every name is
within its namespace and within what is left when it is cut down. -/
theorem segment_hierarchy {separator : String} (hsep : separator ≠ "") {segs : List String}
    (hne : segs ≠ []) (hsegs : ∀ s ∈ segs, IsPlain separator s) :
    let name := join segs separator
    segments name separator = segs ∧
    (∀ depth, truncate name separator depth = join (segs.take depth) separator) ∧
    segs.head? = some (root name separator) ∧
    Name.namespace? name separator =
      (if segs.length = 1 then none else some (join segs.dropLast separator)) ∧
    (∀ around, (∀ s ∈ around, IsPlain separator s) → ∀ count,
      isWithin name (join around separator ++ String.join (List.replicate count separator))
        separator = true ↔ around <+: segs) ∧
    isWithin name name separator = true ∧
    (∀ middle outer, (∀ s ∈ middle, IsPlain separator s) → (∀ s ∈ outer, IsPlain separator s) →
      isWithin name (join middle separator) separator = true →
      isWithin (join middle separator) (join outer separator) separator = true →
      isWithin name (join outer separator) separator = true) ∧
    (∀ around, namespace? name separator = some around → isWithin name around separator = true) ∧
    ∀ depth, truncate name separator depth ≠ "" →
      isWithin name (truncate name separator depth) separator = true := by
  intro name
  have hwithin : ∀ {inner outer : List String}, (∀ s ∈ inner, IsPlain separator s) →
      (∀ s ∈ outer, IsPlain separator s) →
      (isWithin (join inner separator) (join outer separator) separator = true ↔ outer <+: inner) :=
    isWithin_join_join_iff hsep
  refine ⟨segments_join hsep hsegs, truncate_join hsep hsegs, head?_eq_root_join hsep hne hsegs,
    Name.namespace?_join_eq hsep hne hsegs, fun _ haround => isWithin_join_iff hsep hsegs haround,
    (hwithin hsegs hsegs).2 (List.prefix_refl _), ?_, ?_, ?_⟩
  · intro middle outer hmiddle houter hinside hbetween
    have hfirst := (hwithin hmiddle houter).1 hbetween
    exact (hwithin hsegs houter).2 (hfirst.trans ((hwithin hsegs hmiddle).1 hinside))
  · intro around haround
    rw [namespace?_join_eq hsep hne hsegs] at haround
    split at haround
    · exact nomatch haround
    · rw [← Option.some.inj haround]
      exact (hwithin hsegs fun s hs => hsegs s (List.mem_of_mem_dropLast hs)).2 (List.dropLast_prefix _)
  · intro depth _
    rw [truncate_join hsep hsegs]
    exact (hwithin hsegs fun s hs => hsegs s (List.mem_of_mem_take hs)).2 (List.take_prefix _ _)

/-- A separator that overlaps itself, with two more of it behind the namespace, and a namespace whose last
segment only begins like that of the name. -/
theorem hierarchy_of_overlapping_separator :
    let segs := ["x", "yx", "z"]
    "aba" ≠ "" ∧ segs ≠ [] ∧ (∀ s ∈ segs, IsPlain "aba" s) ∧ join segs "aba" = "xabayxabaz" ∧
      root "xabayxabaz" "aba" = "x" ∧ namespace? "xabayxabaz" "aba" = some "xabayx" ∧
      isWithin "xabayxabaz" "xabayxabaaba" "aba" = true ∧
      isWithin "xabayxabaz" "xabay" "aba" = false := by
  intro segs
  have hsegs : ∀ s ∈ segs, IsPlain "aba" s := by decide
  obtain ⟨-, -, hroot, hnamespace, hwithin, -⟩ :=
    segment_hierarchy (by decide : "aba" ≠ "") (by decide : segs ≠ []) hsegs
  refine ⟨by decide, by decide, hsegs, by decide, Option.some.inj hroot.symm, hnamespace,
    (hwithin ["x", "yx"] (by decide) 2).2 (by decide), ?_⟩
  rw [← Bool.not_eq_true]
  exact mt (hwithin ["x", "y"] (by decide) 0).1 (by decide)

end DepAtlas.Name
