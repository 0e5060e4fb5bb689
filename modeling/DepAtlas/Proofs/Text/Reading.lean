import Mathlib.Tactic.Common
import DepAtlas.Proofs.Text.Split

set_option relaxedAutoImplicit false
set_option autoImplicit false

/-!
# Reading a text from its front

A reader takes a value off the front of a text. A written form is read back if the reader takes
exactly that form off, whatever stands behind it; put this way, readers are chained in the same
order as the forms that they read.

## Main definitions

* `DepAtlas.Text.Reader` — what takes a value off the front of a text.
* `DepAtlas.Text.Reader.Reads` — a reader takes a text off and gives a value.
* `DepAtlas.Text.Reader.expect`, `DepAtlas.Text.Reader.before` — a given text, and what stands
  before a character.
* `DepAtlas.Text.Reader.many` — values up to a text that ends them.

## Main results

* `DepAtlas.Text.Reader.Reads.bind` — readers after each other read texts after each other.
* `DepAtlas.Text.Reader.Reads.many_map` — written values are read back up to the text that ends them.
-/

namespace DepAtlas.Text

/-- A reader takes a value off the front of a text, or fails. -/
abbrev Reader := StateT (List Char) Option

namespace Reader

variable {α β : Type} {r r' : Reader α} {s t : List Char} {a : α}

/-- The reader takes `t` off the front and gives `a`, whatever stands behind it. Readers of this
kind can be put one after the other without looking at what follows, so each statement of a diagram
is read by itself. -/
def Reads (r : Reader α) (t : List Char) (a : α) : Prop :=
  ∀ rest, r.run (t ++ rest) = some (a, rest)

/-! ## Chains of readers -/

/-- A value is read from nothing. -/
lemma reads_pure (a : α) : Reads (pure a) [] a :=
  fun _ => rfl

/-- A value that is there is read from nothing. -/
lemma reads_lift {found : Option α} (h : found = some a) : Reads (liftM found) [] a := by
  subst h
  exact fun _ => rfl

/-- Readers after each other read texts after each other. -/
lemma Reads.bind {f : α → Reader β} {b : β} (hr : Reads r s a) (hf : Reads (f a) t b) :
    Reads (r >>= f) (s ++ t) b := by
  intro rest
  rw [StateT.run_bind, List.append_assoc, hr]
  exact hf rest

/-- What is made of a value is read from the text of the value. -/
lemma Reads.bind_pure {f : α → β} (h : Reads r t a) :
    Reads (r >>= fun x => pure (f x)) t (f a) :=
  List.append_nil t ▸ h.bind (reads_pure (f a))

/-- The first of two readers counts if it reads the text. -/
lemma Reads.orElse_left (h : Reads r t a) : Reads (r <|> r') t a := by
  intro rest
  change (r.run (t ++ rest) <|> r'.run (t ++ rest)) = _
  rw [h]
  rfl

/-- The second of two readers counts if the first one fails on every text that goes on from here. -/
lemma Reads.orElse_right (hr : ∀ rest, r.run (t ++ rest) = none) (h : Reads r' t a) :
    Reads (r <|> r') t a := by
  intro rest
  change (r.run (t ++ rest) <|> r'.run (t ++ rest)) = _
  rw [hr, h]
  rfl

/-! ## Given texts -/

/-- The reader of a given text. -/
def expect (text : String) : Reader Unit := fun s =>
  (afterPrefix? text.toList s).map fun rest => ((), rest)

/-- A given text is read by the reader that expects it. -/
lemma reads_expect (text : String) : Reads (expect text) text.toList () := by
  intro rest
  change (afterPrefix? text.toList (text.toList ++ rest)).map _ = _
  simp [afterPrefix?]

/-- A reader that begins with a given text fails on a text that does not begin with it. -/
lemma run_expect_bind_eq_none {text : String} {f : Unit → Reader β}
    (h : afterPrefix? text.toList s = none) : (expect text >>= f).run s = none := by
  rw [StateT.run_bind]
  change ((afterPrefix? text.toList s).map _ >>= _) = none
  rw [h]
  rfl

/-- The reader of what stands before the first `c`; the `c` is taken too. -/
def before (c : Char) : Reader String := fun s =>
  (cut? [c] s).map fun (front, rest) => (String.ofList front, rest)

/-- What has no `c` in it is read up to the `c`. -/
lemma reads_before {c : Char} {front : String} (h : c ∉ front.toList) :
    Reads (before c) (front.toList ++ [c]) front := by
  intro rest
  change (cut? [c] (front.toList ++ [c] ++ rest)).map _ = _
  rw [cut?_append (List.cons_ne_nil _ _) (isCutOff_singleton h)]
  simp

/-! ## Lists of values -/

/-- The values up to the text `stop`, which is taken too. A value has to be written with at least
one character. -/
def many (stop : String) (r : Reader α) (s : List Char) : Option (List α × List Char) :=
  match afterPrefix? stop.toList s with
  | some rest => some ([], rest)
  | none =>
    match r.run s with
    | none => none
    | some (a, rest) =>
      if rest.length < s.length then
        (many stop r rest).map fun (as, behind) => (a :: as, behind)
      else none
termination_by s.length

/-- **Written values are read back up to the text that ends them**, if none of them begins with
that text.

**Proof sketch.** Induction on what is written. A written value that does not begin with the text
has at least one character, so the rest is shorter. -/
lemma Reads.many_map {ι : Type} {stop : String} {write : ι → List Char} {f : ι → α} {is : List ι}
    (hr : ∀ i ∈ is, Reads r (write i) (f i))
    (hstop : ∀ i ∈ is, ∀ rest, afterPrefix? stop.toList (write i ++ rest) = none) :
    Reads (many stop r) (is.flatMap write ++ stop.toList) (is.map f) := by
  induction is with
  | nil =>
    intro rest
    change Reader.many stop r (stop.toList ++ rest) = _
    rw [Reader.many]
    simp [afterPrefix?]
  | cons i is ih =>
    intro rest
    have ih := ih (fun j hj => hr j (List.mem_cons_of_mem _ hj))
      (fun j hj => hstop j (List.mem_cons_of_mem _ hj)) rest
    have hnone := hstop i List.mem_cons_self
    have hne : write i ≠ [] := by
      intro hnil
      simpa [hnil, afterPrefix?] using hnone stop.toList
    have hread := hr i List.mem_cons_self (is.flatMap write ++ stop.toList ++ rest)
    change Reader.many stop r _ = _ at ih ⊢
    rw [List.flatMap_cons, List.append_assoc, List.append_assoc, ← List.append_assoc _ _ rest,
      Reader.many, hnone, hread]
    simp only [ih, Option.map_some, List.map_cons]
    rw [if_pos]
    have hpos : 0 < (write i).length := List.length_pos_iff.2 hne
    simp only [List.length_append]
    omega

/-- Values that are written one after the other are read one by one, if none of them begins with the
text that ends them. -/
lemma Reads.many {stop : String} {write : α → List Char} {as : List α}
    (hr : ∀ a ∈ as, Reads r (write a) a)
    (hstop : ∀ a ∈ as, ∀ rest, afterPrefix? stop.toList (write a ++ rest) = none) :
    Reads (many stop r) (as.flatMap write ++ stop.toList) as := by
  have hmany := Reads.many_map (f := id) hr hstop
  rwa [List.map_id] at hmany

/-! ## Whole texts -/

/-- The value of a text that the reader takes off as a whole. -/
def value? (r : Reader α) (text : String) : Option α :=
  match r.run text.toList with
  | some (a, []) => some a
  | _ => none

/-- The value of a text is what the reader reads from it. -/
lemma Reads.value?_eq {text : String} (h : Reads r text.toList a) : r.value? text = some a := by
  have hread := h []
  rw [List.append_nil] at hread
  rw [value?, hread]

end Reader

end DepAtlas.Text
