import Mathlib.Tactic.Common
import DepAtlas.Text.Blank

set_option relaxedAutoImplicit false
set_option autoImplicit false

/-!
# Numbers in decimal digits

## Main results

* `DepAtlas.Text.not_mem_toString` — a number is written with digits only.
* `DepAtlas.Text.ofDigitChars_toString` — the digits give the number back.
* `DepAtlas.Text.length_toString_le` — a smaller number is not longer.
-/

namespace DepAtlas.Text

/-- A number is written with its decimal digits. -/
lemma toList_toString (n : ℕ) : (toString n).toList = Nat.toDigits 10 n :=
  Nat.toList_repr

/-- A number is written with digits only. -/
lemma not_mem_toString {c : Char} (hc : c.isDigit = false) (n : ℕ) : c ∉ (toString n).toList := by
  intro hmem
  rw [toList_toString] at hmem
  exact absurd (Nat.isDigit_of_mem_toDigits (by decide) (Nat.le_refl 10) hmem) (by simp [hc])

/-- A number is written without blanks. -/
lemma isBlank_of_mem_toString {c : Char} {n : ℕ} (h : c ∈ (toString n).toList) :
    isBlank c = false := by
  rw [toList_toString] at h
  have hdigit : 48 ≤ c.toNat ∧ c.toNat ≤ 57 := by
    have hdigit := Nat.isDigit_of_mem_toDigits (by decide) (Nat.le_refl 10) h
    simpa [Char.isDigit, UInt32.le_iff_toNat_le] using hdigit
  simp only [isBlank, Bool.or_eq_false_iff, Bool.and_eq_false_iff, decide_eq_false_iff_not,
    beq_eq_false_iff_ne]
  omega

/-- The digits of a number give it back. -/
lemma ofDigitChars_toString (n : ℕ) : Nat.ofDigitChars 10 (toString n).toList 0 = n := by
  rw [toList_toString]
  exact Nat.ofDigitChars_toDigits (by decide) (Nat.le_refl 10)

/-- Different numbers are written differently. -/
lemma toString_injective : Function.Injective (toString : ℕ → String) := fun m n h => by
  rw [← ofDigitChars_toString m, h, ofDigitChars_toString]

/-- A number has a digit at least. -/
lemma length_toString_pos (n : ℕ) : 0 < (toString n).length := by
  rw [← String.length_toList, toList_toString]
  exact Nat.length_toDigits_pos

/-- A smaller number is not longer.

**Proof sketch.** A number has at most `k` digits exactly if it is below `10 ^ k`. -/
lemma length_toString_le {m n : ℕ} (h : m ≤ n) : (toString m).length ≤ (toString n).length := by
  have hpos := length_toString_pos n
  have hdigits : (Nat.toDigits 10 n).length = (toString n).length := by
    rw [← toList_toString, String.length_toList]
  have hn := (Nat.length_toDigits_le_iff (by decide) hpos).1 (Nat.le_of_eq hdigits)
  rw [← String.length_toList (s := toString m), toList_toString]
  exact (Nat.length_toDigits_le_iff (by decide) hpos).2 (Nat.lt_of_le_of_lt h hn)

end DepAtlas.Text
