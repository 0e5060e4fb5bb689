import DepAtlas.Proofs.Name.Segments
import DepAtlas.Proofs.Text.Join

set_option relaxedAutoImplicit false
set_option autoImplicit false

/-!
# Namespaces around a name

The enclosing namespace of a name is what stands before the last separator. For a name that is put
together from segments this drops the last one, provided that no separator begins inside the separator
in front of a segment and ends in the segment: `a:::b` is `a` and `:b`, but its last separator stands
behind `a:`.

## Main definitions

* `DepAtlas.Name.IsSegment` — a text that stands behind a separator without making another one.
* `DepAtlas.Name.ancestor?` — the namespace some levels above a name.

## Main results

* `DepAtlas.Name.namespace?_join` — the enclosing namespace of a name made of segments.
* `DepAtlas.Name.ancestor?_join` — all namespaces around it.
-/

namespace DepAtlas.Name

variable {separator name : String} {segs : List String}

/-- A text that is not empty and that has no separator inside, also if it follows one. The second
condition excludes a text that completes a separator with the end of the one in front. -/
def IsSegment (separator segment : String) : Prop :=
  segment ≠ "" ∧ ¬ separator.toList <:+: separator.toList.tail ++ segment.toList
deriving Decidable

/-- The namespace some levels above a name. -/
def ancestor? (separator name : String) : ℕ → Option String
  | 0 => some name
  | level + 1 => (namespace? name separator).bind (ancestor? separator · level)

/-- The characters of a name are those of its segments with separators in between. -/
lemma toList_join (segs : List String) (separator : String) :
    (join segs separator).toList = Text.joinWith separator.toList (segs.map String.toList) := by
  rw [join, String.toList_ofList]

/-- One segment is the name. -/
@[simp] lemma join_singleton (segment separator : String) : join [segment] separator = segment := by
  simp [join, Text.joinWith]

/-- A name that is put together is empty only if there is nothing to put together, or one empty
text. -/
lemma join_eq_empty_iff (hsep : separator ≠ "") :
    join segs separator = "" ↔ segs = [] ∨ segs = [""] := by
  rw [← String.toList_inj, toList_join]
  refine (Text.joinWith_eq_nil_iff (toList_ne_nil hsep)).trans ?_
  match segs with
  | [] => simp
  | [piece] => simp
  | piece :: next :: rest => simp

/-- No name is in an empty namespace. -/
lemma namespace?_ne_empty {around : String} (h : namespace? name separator = some around) :
    around ≠ "" := by
  unfold namespace? at h
  split at h
  · exact nomatch h
  · exact nomatch h
  · next before _ hsolid _ =>
    rintro rfl
    exact hsolid (by simpa using h)

/-- No name has an empty ancestor, unless it is empty itself. -/
lemma ancestor?_ne_empty (hname : name ≠ "") {level : ℕ} {around : String}
    (h : ancestor? separator name level = some around) : around ≠ "" := by
  induction level generalizing name with
  | zero => exact Option.some.inj h ▸ hname
  | succ level ih =>
    obtain ⟨above, habove, h⟩ := Option.bind_eq_some_iff.1 h
    exact ih (namespace?_ne_empty habove) h

/-- A segment alone is in no namespace. -/
lemma namespace?_of_isSegment (hsep : separator ≠ "") {segment : String}
    (h : IsSegment separator segment) : namespace? segment separator = none := by
  have hfree : ¬ separator.toList <:+: segment.toList := fun hoccurs =>
    h.2 (hoccurs.trans (List.suffix_append _ _).isInfix)
  rw [namespace?, (Text.lastCut?_eq_none_iff (toList_ne_nil hsep)).2 hfree]

/-- **The enclosing namespace of a name made of segments** is the name without the last one.

**Proof sketch.** The name ends with a separator and its last segment. There is no separator further
back, so it is the one at which the name is cut. -/
lemma namespace?_join (hsep : separator ≠ "") (hne : segs ≠ []) (hfront : segs ≠ [""])
    {last : String} (hlast : IsSegment separator last) : namespace? (join (segs ++ [last]) separator)
      separator = some (join segs separator) := by
  have htext : (join (segs ++ [last]) separator).toList =
      (join segs separator).toList ++ separator.toList ++ last.toList := by
    rw [toList_join, toList_join, List.map_append,
      Text.joinWith_append (by simpa using hne) (by simp)]
    rfl
  have hsolid : (join segs separator).toList ≠ [] := by
    simpa using mt (join_eq_empty_iff hsep).1 (not_or.2 ⟨hne, hfront⟩)
  rw [namespace?, htext, Text.lastCut?_append (toList_ne_nil hsep) _ hlast.2]
  split
  · next h => exact nomatch h
  · next h => exact absurd (Prod.mk.inj (Option.some.inj h)).1 hsolid
  · next h => rw [← (Prod.mk.inj (Option.some.inj h)).1, String.ofList_toList]

/-- **All namespaces around a name made of segments** are made of its first segments.

**Proof sketch.** Induction on the level; the enclosing namespace is made of all segments but the
last. -/
theorem ancestor?_join (hsep : separator ≠ "") (hne : segs ≠ [])
    (hsegs : ∀ segment ∈ segs, IsSegment separator segment) (level : ℕ) :
    ancestor? separator (join segs separator) level =
      if level < segs.length then some (join (segs.take (segs.length - level)) separator)
      else none := by
  induction level generalizing segs with
  | zero => simp [ancestor?, List.length_pos_iff.2 hne]
  | succ level ih =>
    obtain ⟨front, last, rfl⟩ := List.eq_nil_or_concat' segs |>.resolve_left hne
    have hlast : IsSegment separator last := hsegs last (by simp)
    rw [ancestor?]
    by_cases hfront : front = []
    · subst hfront
      rw [List.nil_append, join_singleton, namespace?_of_isSegment hsep hlast]
      simp
    · have hsegments : ∀ segment ∈ front, IsSegment separator segment := fun s hs =>
        hsegs s (List.mem_append_left _ hs)
      have hsolid : front ≠ [""] := by
        rintro rfl
        exact (hsegments "" (by simp)).1 rfl
      rw [namespace?_join hsep hfront hsolid hlast, Option.bind_some, ih hfront hsegments]
      simp [List.take_append_of_le_length]

end DepAtlas.Name
