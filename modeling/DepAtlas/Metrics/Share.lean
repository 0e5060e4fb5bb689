set_option autoImplicit false

/-!
# Shares of a total in hundredths

A share is a quotient `part / total` rounded to hundredths. The quotient and its hundredfold are
first rounded to 53 binary digits, ties to even, as binary floating point arithmetic of 64 bits
does, and only then to a whole number of hundredths, ties upwards.

## Main definitions

* `Share` — a number of hundredths.
* `Share.ofQuotient` — the rounded quotient.
* `Share.shortest`, `Share.twoPlaces` — the two ways to write a share.
-/

namespace DepAtlas

/-- A number of hundredths. -/
structure Share where
  hundredths : Nat
deriving DecidableEq, Repr, Inhabited

namespace Share

/-- The whole number nearest to `num / den`; of two, the even one. -/
def roundTiesEven (num den : Nat) : Nat :=
  let q := num / den
  let twice := 2 * (num % den)
  if twice < den then q
  else if twice > den then q + 1
  else if q % 2 = 0 then q else q + 1

/-- A binary fraction `digits / 2 ^ scale`. -/
structure Binary where
  digits : Nat
  scale : Nat
deriving DecidableEq, Repr

/-- The quotient `num / den`, at most one, rounded to 53 binary digits. The scale is chosen such
that the digits have at least 53 places; where they have one more, a smaller scale does. -/
def quotient (num den : Nat) : Binary :=
  if num = 0 then ⟨0, 0⟩
  else
    let scale := 53 + Nat.log2 den - Nat.log2 num
    let digits := roundTiesEven (num * Nat.pow 2 scale) den
    if digits < Nat.pow 2 53 then ⟨digits, scale⟩
    else ⟨roundTiesEven (num * Nat.pow 2 (scale - 1)) den, scale - 1⟩

/-- The hundredfold of a fraction, rounded to 53 binary digits. -/
def hundredfold (x : Binary) : Binary :=
  let exact := 100 * x.digits
  let excess := Nat.log2 exact + 1 - 53
  ⟨roundTiesEven exact (Nat.pow 2 excess) * Nat.pow 2 excess, x.scale⟩

/-- The whole number nearest to a fraction; of two, the greater one. -/
def Binary.nearest (x : Binary) : Nat :=
  (2 * x.digits + Nat.pow 2 x.scale) / (2 * Nat.pow 2 x.scale)

/-- The part of a total in hundredths; no share of nothing. Each step is rounded as it would be in
binary floating point arithmetic, so a tie may go the other way than that of the exact quotient. -/
def ofQuotient (part total : Nat) : Share :=
  if total = 0 then ⟨0⟩ else ⟨(hundredfold (quotient part total)).nearest⟩

/-! ## Writing -/

/-- Two decimal digits. -/
def twoDigits (n : Nat) : String :=
  toString (n / 10) ++ toString (n % 10)

/-- The share with two places. -/
def twoPlaces (s : Share) : String :=
  toString (s.hundredths / 100) ++ "." ++ twoDigits (s.hundredths % 100)

/-- The share with as few places as tell its value, but at least one. -/
def shortest (s : Share) : String :=
  let whole := toString (s.hundredths / 100) ++ "."
  let rest := s.hundredths % 100
  if rest % 10 = 0 then whole ++ toString (rest / 10) else whole ++ twoDigits rest

end Share

end DepAtlas
