import DepAtlas.Json.Reader
import DepAtlas.Proofs.Text.Decimal
import DepAtlas.Proofs.Text.Join

set_option relaxedAutoImplicit false
set_option autoImplicit false

/-!
# JSON that is written is read back

The compact form of a value is read back as this value, whatever stands behind it. Only a number asks for
something: what follows it must not go on with it. The brackets around a value are counted by the reader,
so a value that is too deep is written but not read.

## Main definitions

* `DepAtlas.Json.IsReadable` — a value with a bounded number of brackets around each of its parts.
* `DepAtlas.Json.EndsNumber` — a text that does not go on with a number in front of it.

## Main results

* `DepAtlas.Json.readString_escaped` — strings are read back.
* `DepAtlas.Json.readNumber_toString` — numbers are read back.
* `DepAtlas.Json.readValue_writeCompact` — values are read back, whatever stands behind them.
* `DepAtlas.Json.read?_compact` — documents are read back.
-/

namespace DepAtlas.Json

variable {rest : List Char}

/-! ## Strings -/

/-- A hexadecimal digit is read back. -/
lemma hexValue?_hexDigit : ∀ n < 16, hexValue? (hexDigit n) = some n := by
  decide

/-- A character that is written by its number is read back. -/
lemma readUnits_hexDigits {c : Char} (hc : c.toNat < 32) (rest : List Char) :
    readUnits ('0' :: '0' :: hexDigit (c.toNat / 16) :: hexDigit (c.toNat % 16) :: rest) =
      some (c, rest) := by
  have hzero : hexValue? '0' = some 0 := by decide
  have hhigh := hexValue?_hexDigit (c.toNat / 16) (by omega)
  have hlow := hexValue?_hexDigit (c.toNat % 16) (by omega)
  have hvalue : c.toNat / 16 * 16 + c.toNat % 16 = c.toNat := by omega
  have hlowHalf : isLowHalf c.toNat = false := by simp [isLowHalf]; omega
  have hhighHalf : isHighHalf c.toNat = false := by simp [isHighHalf]; omega
  simp [readUnits, readUnit, hzero, hhigh, hlow, hvalue, hlowHalf, hhighHalf]

/-- A character inside a string is read back.

**Proof sketch.** Those with an escape of their own, those that are written by their number and all
others are the three cases of the writer, and the reader tells them apart by the first two
characters. -/
lemma readCharacters_escapeChar (fuel : ℕ) (c : Char) (rest : List Char) :
    readCharacters (fuel + 1) (escapeChar c ++ rest) =
      (readCharacters fuel rest).map fun (more, behind) => (c :: more, behind) := by
  have hescaped : ∀ {s : List Char}, readEscape (s ++ rest) = some (c, rest) →
      readCharacters (fuel + 1) ('\\' :: s ++ rest) =
        (readCharacters fuel rest).map fun (more, behind) => (c :: more, behind) := by
    intro s hs
    cases hmore : readCharacters fuel rest <;>
      simp [readCharacters, hs, hmore]
  have hnumber : ∀ n, (c.toNat == n) = true → Char.ofNat n = c := by
    intro n hn
    rw [← beq_iff_eq.1 hn, Char.ofNat_toNat]
  unfold escapeChar
  split_ifs with hquote hbackslash hn hr ht hb hf hcontrol
  · exact hescaped (by simp [readEscape, beq_iff_eq.1 hquote])
  · exact hescaped (by simp [readEscape, beq_iff_eq.1 hbackslash])
  · exact hescaped (by simp [readEscape, beq_iff_eq.1 hn])
  · exact hescaped (by simp [readEscape, beq_iff_eq.1 hr])
  · exact hescaped (by simp [readEscape, beq_iff_eq.1 ht])
  · exact hescaped (congrArg (fun d => some (d, rest)) (hnumber 8 hb))
  · exact hescaped (congrArg (fun d => some (d, rest)) (hnumber 12 hf))
  · exact hescaped (by simp [readEscape, readUnits_hexDigits hcontrol])
  · cases hmore : readCharacters fuel rest <;>
      simp [readCharacters, hmore, hquote, hbackslash, hcontrol]

/-- The characters of a string are read back up to its closing quote. -/
lemma readCharacters_escaped (s : List Char) {fuel : ℕ} (hfuel : s.length < fuel) (rest : List Char) :
    readCharacters fuel (s.flatMap escapeChar ++ '"' :: rest) = some (s, rest) := by
  induction s generalizing fuel with
  | nil =>
    obtain ⟨fuel, rfl⟩ := Nat.exists_eq_succ_of_ne_zero (Nat.ne_of_gt hfuel)
    simp [readCharacters]
  | cons c s ih =>
    obtain ⟨fuel, rfl⟩ := Nat.exists_eq_succ_of_ne_zero (Nat.ne_zero_of_lt hfuel)
    rw [List.flatMap_cons, List.append_assoc, readCharacters_escapeChar,
      ih (Nat.lt_of_succ_lt_succ hfuel)]
    rfl

/-- A string is written with at least one character for each of its own. -/
lemma length_le_flatMap_escapeChar (s : List Char) : s.length ≤ (s.flatMap escapeChar).length := by
  induction s with
  | nil => exact Nat.le_refl _
  | cons c s ih =>
    have hone : 1 ≤ (escapeChar c).length := by
      unfold escapeChar
      split_ifs <;> exact Nat.succ_le_succ (Nat.zero_le _)
    rw [List.flatMap_cons, List.length_append, List.length_cons]
    omega

/-- **A string is read back**, whatever stands behind its closing quote. -/
lemma readString_escaped (s : String) (rest : List Char) :
    readString (s.toList.flatMap escapeChar ++ '"' :: rest) = some (s, rest) := by
  have hfuel : s.toList.length < (s.toList.flatMap escapeChar ++ '"' :: rest).length + 1 := by
    have hlength := length_le_flatMap_escapeChar s.toList
    rw [List.length_append]
    omega
  rw [readString, readCharacters_escaped s.toList hfuel rest]
  simp

/-! ## Numbers -/

/-- The text does not go on with a number in front of it. A number ends where nothing that could
belong to it follows. -/
def EndsNumber (rest : List Char) : Prop :=
  ∀ c ∈ rest.head?, c.isDigit = false ∧ c ≠ '.' ∧ c ≠ 'e' ∧ c ≠ 'E'

/-- A number ends at the end of a text. -/
lemma endsNumber_nil : EndsNumber [] := by
  simp [EndsNumber]

/-- A number ends in front of a comma or a closing bracket. -/
lemma endsNumber_cons {c : Char} (hc : c ∈ [',', ']', '\x7d']) (rest : List Char) :
    EndsNumber (c :: rest) := by
  simp only [List.mem_cons, List.not_mem_nil, or_false] at hc
  rcases hc with rfl | rfl | rfl <;> simp [EndsNumber]

/-- A number of several digits does not begin with a zero.

**Proof sketch.** Strong induction on the number: its digits are those of the quotient by ten and one
more. -/
lemma head?_toDigits_ne_zero {n : ℕ} (hn : 0 < n) : (Nat.toDigits 10 n).head? ≠ some '0' := by
  induction n using Nat.strong_induction_on with
  | _ n ih =>
    rw [Nat.toDigits_eq_if (by decide)]
    split
    · next hlt =>
      have hone : ∀ k < 10, 0 < k → [Nat.digitChar k].head? ≠ some '0' := by decide
      exact hone n hlt hn
    · next hge =>
      have hquotient : 0 < n / 10 := by omega
      have hhead := ih (n / 10) (by omega) hquotient
      cases hdigits : Nat.toDigits 10 (n / 10) with
      | nil => exact absurd hdigits (List.length_pos_iff.1 Nat.length_toDigits_pos)
      | cons d digits =>
        rw [hdigits] at hhead
        simpa using hhead

/-- A digit is different from everything that is none. -/
lemma ne_of_isDigit {c d : Char} (hc : c.isDigit = true) (hd : d.isDigit = false) : c ≠ d := by
  rintro rfl
  exact absurd (hc.symm.trans hd) (by decide)

/-- A digit is no gap. -/
lemma isGap_of_isDigit {c : Char} (hc : c.isDigit = true) : isGap c = false := by
  have hother : ∀ d : Char, d.isDigit = false → c ≠ d := fun d hd => ne_of_isDigit hc hd
  simp [isGap, hother ' ' (by decide), hother '\n' (by decide), hother '\t' (by decide),
    hother '\r' (by decide)]

/-- A number is written with a digit in front. -/
lemma exists_toString_eq_cons (n : ℕ) :
    ∃ d digits, (toString n).toList = d :: digits ∧ d.isDigit = true := by
  rw [Text.toList_toString]
  have hne : Nat.toDigits 10 n ≠ [] := List.length_pos_iff.1 Nat.length_toDigits_pos
  obtain ⟨d, digits, hcons⟩ := List.exists_cons_of_ne_nil hne
  exact ⟨d, digits, hcons, Nat.isDigit_of_mem_toDigits (by decide) (Nat.le_refl 10)
    (hcons ▸ List.mem_cons_self)⟩

/-- The digits of a number go up to where the number ends. -/
lemma EndsNumber.takeWhile_append (h : EndsNumber rest) {digits : List Char}
    (hdigits : ∀ c ∈ digits, c.isDigit = true) :
    (digits ++ rest).takeWhile Char.isDigit = digits := by
  have hstop : rest.takeWhile Char.isDigit = [] := by
    cases rest with
    | nil => rfl
    | cons c rest => simp [(h c rfl).1]
  rw [List.takeWhile_append_of_pos hdigits, hstop, List.append_nil]

/-- No fraction follows where a number ends. -/
lemma EndsNumber.readFraction_eq (h : EndsNumber rest) : readFraction rest = some ([], rest) := by
  cases rest with
  | nil => rfl
  | cons c rest =>
    unfold readFraction
    split
    · next heq => exact absurd (List.cons.inj heq).1 (h c rfl).2.1
    · rfl

/-- No exponent follows where a number ends. -/
lemma EndsNumber.readExponent_eq (h : EndsNumber rest) :
    readExponent rest = some ((false, false, 0), rest) := by
  cases rest with
  | nil => rfl
  | cons c rest => simp [readExponent, (h c rfl).2.2.1, (h c rfl).2.2.2]

/-- The digits of a number may be read as one: there are some, and no zero stands in front of others. -/
lemma toDigits_are_whole (n : ℕ) : ((Nat.toDigits 10 n).isEmpty ||
    ((Nat.toDigits 10 n).length > 1 && (Nat.toDigits 10 n).head? == some '0')) = false := by
  have hne : Nat.toDigits 10 n ≠ [] := List.length_pos_iff.1 Nat.length_toDigits_pos
  have hzero : ¬ (1 < (Nat.toDigits 10 n).length ∧ (Nat.toDigits 10 n).head? = some '0') := by
    rintro ⟨hlong, hhead⟩
    have hpos : 0 < n := by
      by_contra h
      obtain rfl : n = 0 := by omega
      exact absurd hlong (by decide)
    exact head?_toDigits_ne_zero hpos hhead
  rw [Bool.eq_false_iff]
  simpa [hne] using hzero

/-- A number that has room in 64 bits is far from the greatest floating point number. -/
lemma isOutOfRange_eq_false {n : ℕ} (hn : n < Nat.pow 2 64) : isOutOfRange n 0 false 0 = false := by
  have hlt : n < Nat.pow 2 1024 - Nat.pow 2 970 := Nat.lt_of_lt_of_le hn (by decide +kernel)
  unfold isOutOfRange
  -- the limit is a variable from here on, so that it is not computed in full
  generalize Nat.pow 2 1024 - Nat.pow 2 970 = limit at hlt ⊢
  simp [hlt]

/-- **A number is read back**, unless what stands behind it goes on with it.

**Proof sketch.** All of its digits are taken, and no sign, fraction or exponent is there. What is left
is that the digits give back the number and that it is in range. -/
lemma readNumber_toString {n : ℕ} (hn : n < Nat.pow 2 64) (hrest : EndsNumber rest) :
    readNumber ((toString n).toList ++ rest) = some (.natural n, rest) := by
  rw [Text.toList_toString]
  have hdigits : ∀ c ∈ Nat.toDigits 10 n, c.isDigit = true := fun c hc =>
    Nat.isDigit_of_mem_toDigits (by decide) (Nat.le_refl 10) hc
  have hvalue : decimalValue (Nat.toDigits 10 n) = n :=
    Nat.ofDigitChars_toDigits (by decide) (Nat.le_refl 10)
  obtain ⟨d, digits, hcons⟩ := List.exists_cons_of_ne_nil (List.length_pos_iff.1
    (Nat.length_toDigits_pos (b := 10) (n := n)))
  have hminus : d ≠ '-' := ne_of_isDigit (hdigits d (hcons ▸ List.mem_cons_self)) (by decide)
  unfold readNumber
  split
  next negative body hbody =>
    split at hbody
    · next heq => exact absurd (List.cons.inj ((List.cons_append ▸ hcons ▸ heq))).1 hminus
    · obtain ⟨rfl, rfl⟩ := Prod.mk.inj hbody
      simp only [hrest.takeWhile_append hdigits, List.drop_left, toDigits_are_whole]
      have hlimit : n < 18446744073709551616 := hn
      simp [hrest.readFraction_eq, hrest.readExponent_eq, hvalue, isOutOfRange_eq_false hn, hlimit]

/-! ## Values -/

/-- A value that can be read back: its numbers are natural and in range, and at most `depth` brackets stand
around each of its parts. -/
inductive IsReadable : (depth : ℕ) → Json → Prop where
  | null {depth : ℕ} : IsReadable depth .null
  | bool {depth : ℕ} (value : Bool) : IsReadable depth (.bool value)
  | natural {depth n : ℕ} (h : n < Nat.pow 2 64) : IsReadable depth (.natural n)
  | string {depth : ℕ} (value : String) : IsReadable depth (.string value)
  | array {depth : ℕ} {items : List Json} (h : ∀ item ∈ items, IsReadable depth item) :
      IsReadable (depth + 1) (.array items)
  | object {depth : ℕ} {members : List (String × Json)} (h : ∀ m ∈ members, IsReadable depth m.2) :
      IsReadable (depth + 1) (.object members)

/-- The items of an array are written one by one. -/
lemma compactItems_eq_map (items : List Json) : compactItems items = items.map writeCompact := by
  induction items with
  | nil => rfl
  | cons item items ih => rw [compactItems, ih, List.map_cons]

/-- The members of an object are written one by one, each with its name in quotes. -/
lemma compactMembers_eq_map (members : List (String × Json)) :
    compactMembers members = members.map fun m => quote m.1 ++ ':' :: m.2.writeCompact := by
  induction members with
  | nil => rfl
  | cons m members ih => rw [compactMembers, ih, List.map_cons]

/-- What is written of a value begins neither with a gap nor with a closing bracket. -/
lemma exists_writeCompact_eq_cons {depth : ℕ} {v : Json} (h : IsReadable depth v) :
    ∃ c s, v.writeCompact = c :: s ∧ isGap c = false ∧ c ≠ ']' := by
  cases h with
  | null => exact ⟨'n', _, rfl, rfl, by decide⟩
  | bool value => cases value <;> exact ⟨_, _, rfl, rfl, by decide⟩
  | @natural _ n h =>
    obtain ⟨d, digits, hcons, hdigit⟩ := exists_toString_eq_cons n
    exact ⟨d, digits, hcons, isGap_of_isDigit hdigit, ne_of_isDigit hdigit (by decide)⟩
  | string value => exact ⟨'"', _, rfl, rfl, by decide⟩
  | array h => exact ⟨'[', _, rfl, rfl, by decide⟩
  | object h => exact ⟨'\x7b', _, rfl, rfl, by decide⟩

/-- Nothing is skipped in front of a character that is no gap. -/
lemma skipGap_cons {c : Char} (hc : isGap c = false) (s : List Char) : skipGap (c :: s) = c :: s := by
  simp [skipGap, hc]

/-- The items of an array are read back if each of them is.

**Proof sketch.** Induction on the items; behind each of them stands a comma or the closing bracket, and
neither goes on with a number. -/
lemma readItems_compactItems {item : List Char → Option (Json × List Char)} {items : List Json}
    (hitems : ∀ v ∈ items, ∀ rest, EndsNumber rest → item (v.writeCompact ++ rest) = some (v, rest))
    (hne : items ≠ []) {fuel : ℕ} (hfuel : items.length ≤ fuel) (rest : List Char) :
    readItems item fuel (Text.joinWith [','] (compactItems items) ++ ']' :: rest) =
      some (items, rest) := by
  rw [compactItems_eq_map]
  induction items generalizing fuel with
  | nil => exact absurd rfl hne
  | cons v items ih =>
    obtain ⟨fuel, rfl⟩ := Nat.exists_eq_succ_of_ne_zero (Nat.ne_zero_of_lt hfuel)
    have hitem := hitems v List.mem_cons_self
    by_cases hnil : items = []
    · subst hnil
      have hlast := hitem (']' :: rest) (endsNumber_cons (by simp) rest)
      simp [readItems, Text.joinWith, hlast, skipGap_cons (show isGap ']' = false by decide)]
    · have hmore := ih (fun w hw => hitems w (List.mem_cons_of_mem _ hw)) hnil
        (Nat.le_of_succ_le_succ hfuel)
      have hfirst := hitem _ (endsNumber_cons (show ',' ∈ [',', ']', '\x7d'] by simp)
        (Text.joinWith [','] (items.map writeCompact) ++ ']' :: rest))
      rw [List.map_cons, Text.joinWith_cons (by simpa using hnil)]
      simp [readItems, hfirst, skipGap_cons (show isGap ',' = false by decide), hmore]

/-- The members of an object are read back if each of their values is.

**Proof sketch.** Induction along the members. Behind each of them stands a comma or the closing
bracket, so that the value ends there, and it tells whether another member follows. -/
lemma readMembers_compactMembers {item : List Char → Option (Json × List Char)}
    {members : List (String × Json)}
    (hmembers : ∀ m ∈ members, ∀ rest, EndsNumber rest →
      item (m.2.writeCompact ++ rest) = some (m.2, rest))
    (hne : members ≠ []) {fuel : ℕ} (hfuel : members.length ≤ fuel) (rest : List Char) :
    readMembers item fuel (Text.joinWith [','] (compactMembers members) ++ '\x7d' :: rest) =
      some (members, rest) := by
  rw [compactMembers_eq_map]
  have hquote : ∀ (key : String) (s : List Char),
      skipGap (quote key ++ s) = '"' :: (key.toList.flatMap escapeChar ++ '"' :: s) := by
    intro key s
    simp [quote, skipGap_cons (show isGap '"' = false by decide)]
  have hcolon : ∀ s, skipGap (':' :: s) = ':' :: s := skipGap_cons (by decide)
  induction members generalizing fuel with
  | nil => exact absurd rfl hne
  | cons m members ih =>
    obtain ⟨key, v⟩ := m
    obtain ⟨fuel, rfl⟩ := Nat.exists_eq_succ_of_ne_zero (Nat.ne_zero_of_lt hfuel)
    have hitem := hmembers (key, v) List.mem_cons_self
    by_cases hnil : members = []
    · subst hnil
      have hlast := hitem ('\x7d' :: rest) (endsNumber_cons (by simp) rest)
      simp [readMembers, Text.joinWith, hquote, readString_escaped, hcolon, hlast,
        skipGap_cons (show isGap '\x7d' = false by decide)]
    · have hmore := ih (fun m hm => hmembers m (List.mem_cons_of_mem _ hm)) hnil
        (Nat.le_of_succ_le_succ hfuel)
      have hfirst := hitem _ (endsNumber_cons (show ',' ∈ [',', ']', '\x7d'] by simp)
        (Text.joinWith [','] (members.map fun m => quote m.1 ++ ':' :: m.2.writeCompact)
          ++ '\x7d' :: rest))
      rw [List.map_cons, Text.joinWith_cons (by simpa using hnil)]
      simp [readMembers, hquote, readString_escaped, hcolon, hfirst,
        skipGap_cons (show isGap ',' = false by decide), hmore]

/-- What is put together begins as its first part. -/
lemma exists_joinWith_cons_eq (sep : List Char) (c : Char) (s : List Char) (texts : List (List Char)) :
    ∃ t, Text.joinWith sep ((c :: s) :: texts) = c :: t := by
  cases texts with
  | nil => exact ⟨s, rfl⟩
  | cons next texts => exact ⟨_, rfl⟩

/-- Each of some parts that are not empty has a place in what they are put together to. So the
characters of an object are fuel enough for its members. -/
lemma length_le_length_joinWith {texts : List (List Char)} (h : ∀ t ∈ texts, t ≠ []) :
    texts.length ≤ (Text.joinWith [','] texts).length := by
  induction texts with
  | nil => exact Nat.zero_le _
  | cons t texts ih =>
    have hone : 1 ≤ t.length := List.length_pos_iff.2 (h t List.mem_cons_self)
    have ih := ih fun t ht => h t (List.mem_cons_of_mem _ ht)
    by_cases hnil : texts = []
    · subst hnil
      exact hone
    · rw [Text.joinWith_cons hnil]
      simp only [List.length_append, List.length_cons]
      omega

/-- A number is read as one, as no other value begins with a digit. -/
lemma readValue_of_isDigit {c : Char} (hc : c.isDigit = true) (depth : ℕ) (s : List Char) :
    readValue (depth + 1) (c :: s) = readNumber (c :: s) := by
  have hother : ∀ d : Char, d.isDigit = false → c ≠ d := fun d hd => ne_of_isDigit hc hd
  rw [readValue, skipGap_cons (isGap_of_isDigit hc)]
  split
  · next heq => exact absurd (List.cons.inj heq).1 (hother 'n' (by decide))
  · next heq => exact absurd (List.cons.inj heq).1 (hother 't' (by decide))
  · next heq => exact absurd (List.cons.inj heq).1 (hother 'f' (by decide))
  · next heq => exact absurd (List.cons.inj heq).1 (hother '"' (by decide))
  · next heq => exact absurd (List.cons.inj heq).1 (hother '[' (by decide))
  · next heq => exact absurd (List.cons.inj heq).1 (hother '\x7b' (by decide))
  · rfl

/-- An array is read back if each of its items is. The empty one has no items to read, and in front of
the first item of any other there is nothing to skip. -/
lemma readValue_compact_array {depth : ℕ} {items : List Json} (h : ∀ v ∈ items, IsReadable depth v)
    (hitems : ∀ v ∈ items, ∀ rest, EndsNumber rest →
      readValue (depth + 1) (v.writeCompact ++ rest) = some (v, rest)) (rest : List Char) :
    readValue (depth + 2) ((array items).writeCompact ++ rest) = some (array items, rest) := by
  have hbracket : ∀ s, skipGap ('[' :: s) = '[' :: s := skipGap_cons (by decide)
  have htext : (array items).writeCompact ++ rest =
      '[' :: (Text.joinWith [','] (compactItems items) ++ ']' :: rest) := by
    simp [writeCompact]
  rw [htext, readValue, hbracket]
  cases items with
  | nil => rfl
  | cons v items =>
    have hlength : (v :: items).length ≤ (Text.joinWith [','] (compactItems (v :: items))).length := by
      rw [compactItems_eq_map, ← List.length_map writeCompact]
      refine length_le_length_joinWith fun t ht => ?_
      obtain ⟨w, hw, rfl⟩ := List.mem_map.1 ht
      obtain ⟨c, s, hcons, -⟩ := exists_writeCompact_eq_cons (h w hw)
      exact hcons ▸ List.cons_ne_nil _ _
    have hread := readItems_compactItems hitems (List.cons_ne_nil _ _)
      (hlength.trans (List.length_append ▸ Nat.le_add_right _ (']' :: rest).length)) rest
    obtain ⟨c, s, hcons, hgap, hc⟩ := exists_writeCompact_eq_cons (h v List.mem_cons_self)
    obtain ⟨t, ht⟩ := exists_joinWith_cons_eq [','] c s (compactItems items)
    rw [compactItems, hcons, ht, List.cons_append] at hread ⊢
    simpa [skipGap_cons hgap, hc] using hread

/-- An object is read back if the values of its members are. A member begins with the quote of its
name, so there is nothing to skip in front of the first. -/
lemma readValue_compact_object {depth : ℕ} {members : List (String × Json)}
    (hmembers : ∀ m ∈ members, ∀ rest, EndsNumber rest →
      readValue (depth + 1) (m.2.writeCompact ++ rest) = some (m.2, rest)) (rest : List Char) :
    readValue (depth + 2) ((object members).writeCompact ++ rest) = some (object members, rest) := by
  have hbrace : ∀ s, skipGap ('\x7b' :: s) = '\x7b' :: s := skipGap_cons (by decide)
  have htext : (object members).writeCompact ++ rest =
      '\x7b' :: (Text.joinWith [','] (compactMembers members) ++ '\x7d' :: rest) := by
    simp [writeCompact]
  rw [htext, readValue, hbrace]
  cases members with
  | nil => rfl
  | cons m members =>
    have hlength : (m :: members).length ≤
        (Text.joinWith [','] (compactMembers (m :: members))).length := by
      rw [compactMembers_eq_map, ← List.length_map fun m => quote m.1 ++ ':' :: m.2.writeCompact]
      refine length_le_length_joinWith fun t ht => ?_
      obtain ⟨n, -, rfl⟩ := List.mem_map.1 ht
      exact List.cons_ne_nil _ _
    have hread := readMembers_compactMembers hmembers (List.cons_ne_nil _ _)
      (hlength.trans (List.length_append ▸ Nat.le_add_right _ ('\x7d' :: rest).length)) rest
    obtain ⟨t, ht⟩ := exists_joinWith_cons_eq [','] '"' (m.1.toList.flatMap escapeChar ++ ['"']
      ++ ':' :: m.2.writeCompact) (compactMembers members)
    have hfirst : compactMembers (m :: members) = ('"' :: (m.1.toList.flatMap escapeChar ++ ['"']
        ++ ':' :: m.2.writeCompact)) :: compactMembers members := rfl
    rw [hfirst, ht, List.cons_append] at hread ⊢
    simpa [skipGap_cons (show isGap '"' = false by decide)] using hread

/-- **A value is read back**, whatever stands behind it.

**Proof sketch.** Induction on the value. A number is the only value whose end is not marked, so for a number
alone what follows it counts. -/
theorem readValue_writeCompact {depth : ℕ} {v : Json} (h : IsReadable depth v) {rest : List Char}
    (hrest : EndsNumber rest) :
    readValue (depth + 1) (v.writeCompact ++ rest) = some (v, rest) := by
  induction h generalizing rest with
  | null => rfl
  | bool value => cases value <;> rfl
  | @natural _ n h =>
    obtain ⟨d, digits, hcons, hdigit⟩ := exists_toString_eq_cons n
    rw [writeCompact, ← readNumber_toString h hrest, hcons]
    exact readValue_of_isDigit hdigit _ _
  | string value =>
    have hread := readString_escaped value rest
    simp [readValue, writeCompact, quote, skipGap_cons (show isGap '"' = false by decide), hread]
  | array h ih => exact readValue_compact_array h (fun v hv _ hrest => ih v hv hrest) rest
  | object h ih => exact readValue_compact_object (fun m hm _ hrest => ih m hm hrest) rest

/-- **A document is read back.** -/
theorem read?_compact {v : Json} (h : IsReadable depthLimit v) : read? v.compact = some v := by
  have hread := readValue_writeCompact h endsNumber_nil
  rw [List.append_nil] at hread
  rw [read?, compact, String.toList_ofList, hread]
  rfl

end DepAtlas.Json
