import DepAtlas.Json.Basic

set_option autoImplicit false

/-!
# Reading JSON

A strict reader: no comments, no trailing commas, no leading zeros, no control characters in
strings, no halves of surrogate pairs, no number beyond the range of a binary floating point
number, and at most `Json.depthLimit` brackets around a value.

## Main definitions

* `Json.read?` — the value that a document holds.
-/

namespace DepAtlas.Json

/-- Whether a character may stand between the parts of a document. -/
def isGap (c : Char) : Bool :=
  c == ' ' || c == '\n' || c == '\t' || c == '\r'

/-- The text after the gap at its front. -/
def skipGap (s : List Char) : List Char :=
  s.dropWhile isGap

/-! ## Strings -/

/-- The value of a hexadecimal digit. -/
def hexValue? (c : Char) : Option Nat :=
  if c.isDigit then some (c.toNat - 48)
  else if 'a' ≤ c && c ≤ 'f' then some (c.toNat - 87)
  else if 'A' ≤ c && c ≤ 'F' then some (c.toNat - 55)
  else none

/-- Four hexadecimal digits. -/
def readUnit : List Char → Option (Nat × List Char)
  | a :: b :: c :: d :: rest => do
    let a ← hexValue? a
    let b ← hexValue? b
    let c ← hexValue? c
    let d ← hexValue? d
    some (a * 4096 + b * 256 + c * 16 + d, rest)
  | _ => none

/-- Whether a 16-bit unit is the first half of a pair. -/
def isHighHalf (n : Nat) : Bool := 0xD800 ≤ n && n ≤ 0xDBFF

/-- Whether a 16-bit unit is the second half of a pair. -/
def isLowHalf (n : Nat) : Bool := 0xDC00 ≤ n && n ≤ 0xDFFF

/-- The character written by the units after a backslash and `u`. A character beyond 16 bits takes
two units, and neither of their halves may stand alone. -/
def readUnits (s : List Char) : Option (Char × List Char) := do
  let (unit, rest) ← readUnit s
  if isLowHalf unit then none
  else if isHighHalf unit then
    match rest with
    | '\\' :: 'u' :: more => do
      let (low, rest) ← readUnit more
      if isLowHalf low then
        some (Char.ofNat (0x10000 + (unit - 0xD800) * 1024 + (low - 0xDC00)), rest)
      else none
    | _ => none
  else some (Char.ofNat unit, rest)

/-- The character written by what follows a backslash. -/
def readEscape : List Char → Option (Char × List Char)
  | '"' :: rest => some ('"', rest)
  | '\\' :: rest => some ('\\', rest)
  | '/' :: rest => some ('/', rest)
  | 'b' :: rest => some (Char.ofNat 8, rest)
  | 'f' :: rest => some (Char.ofNat 12, rest)
  | 'n' :: rest => some ('\n', rest)
  | 'r' :: rest => some ('\r', rest)
  | 't' :: rest => some ('\t', rest)
  | 'u' :: rest => readUnits rest
  | _ => none

/-- The characters up to the closing quote, at most `fuel` of them. A control character has to be
written by an escape. -/
def readCharacters : Nat → List Char → Option (List Char × List Char)
  | 0, _ => none
  | _ + 1, [] => none
  | fuel + 1, c :: rest =>
    if c == '"' then some ([], rest)
    else if c == '\\' then do
      let (c, rest) ← readEscape rest
      let (more, rest) ← readCharacters fuel rest
      some (c :: more, rest)
    else if c.toNat < 32 then none
    else do
      let (more, rest) ← readCharacters fuel rest
      some (c :: more, rest)

/-- A string after its opening quote. -/
def readString (s : List Char) : Option (String × List Char) := do
  let (characters, rest) ← readCharacters (s.length + 1) s
  some (String.ofList characters, rest)

/-! ## Numbers -/

/-- The value of decimal digits. -/
def decimalValue (digits : List Char) : Nat :=
  digits.foldl (fun n c => 10 * n + (c.toNat - 48)) 0

/-- The digits of a fraction, if a point stands in front; the point asks for a digit. -/
def readFraction : List Char → Option (List Char × List Char)
  | '.' :: rest =>
    let digits := rest.takeWhile Char.isDigit
    if digits.isEmpty then none else some (digits, rest.drop digits.length)
  | s => some ([], s)

/-- An exponent, if one stands in front: whether it is written, whether it is negative, and its
value. -/
def readExponent (s : List Char) : Option ((Bool × Bool × Nat) × List Char) :=
  match s with
  | c :: rest =>
    if c == 'e' || c == 'E' then
      let (negative, rest) := match rest with
        | '-' :: more => (true, more)
        | '+' :: more => (false, more)
        | _ => (false, rest)
      let digits := rest.takeWhile Char.isDigit
      if digits.isEmpty then none
      else some ((true, negative, decimalValue digits), rest.drop digits.length)
    else some ((false, false, 0), s)
  | [] => some ((false, false, 0), s)

/-- Whether `significand · 10 ^ exponent`, divided by `10 ^ places`, is too large for a binary
floating point number of 64 bits. The limit lies half a step above the greatest of them, as what is
below it is rounded down. -/
def isOutOfRange (significand places : Nat) (negative : Bool) (exponent : Nat) : Bool :=
  let limit := Nat.pow 2 1024 - Nat.pow 2 970
  if significand == 0 then false
  else if negative then significand ≥ limit * Nat.pow 10 (places + Nat.min exponent 400)
  else if exponent > places + 400 then true
  else significand * Nat.pow 10 exponent ≥ limit * Nat.pow 10 places

/-- A number. A zero in front of other digits is not allowed. A natural number that fits into 64
bits is told apart from all others, which are kept as they are written. -/
def readNumber (s : List Char) : Option (Json × List Char) := do
  let (negative, body) := match s with
    | '-' :: rest => (true, rest)
    | _ => (false, s)
  let whole := body.takeWhile Char.isDigit
  if whole.isEmpty || (whole.length > 1 && whole.head? == some '0') then none
  else
    let (fraction, rest) ← readFraction (body.drop whole.length)
    let ((hasExponent, negativeExponent, exponent), rest) ← readExponent rest
    let significand := decimalValue (whole ++ fraction)
    if isOutOfRange significand fraction.length negativeExponent exponent then none
    else if !negative && fraction.isEmpty && !hasExponent && significand < Nat.pow 2 64 then
      some (.natural significand, rest)
    else some (.number (String.ofList (s.take (s.length - rest.length))), rest)

/-! ## Values -/

/-- The items of an array after its opening bracket, at most `fuel` of them. -/
def readItems (item : List Char → Option (Json × List Char)) :
    Nat → List Char → Option (List Json × List Char)
  | 0, _ => none
  | fuel + 1, s => do
    let (value, rest) ← item s
    match skipGap rest with
    | ']' :: rest => some ([value], rest)
    | ',' :: rest => do
      let (more, rest) ← readItems item fuel rest
      some (value :: more, rest)
    | _ => none

/-- The members of an object after its opening bracket, at most `fuel` of them. Keys may be repeated
here; what that means is left to those who look for a member. -/
def readMembers (item : List Char → Option (Json × List Char)) :
    Nat → List Char → Option (List (String × Json) × List Char)
  | 0, _ => none
  | fuel + 1, s =>
    match skipGap s with
    | '"' :: rest => do
      let (key, rest) ← readString rest
      match skipGap rest with
      | ':' :: rest => do
        let (value, rest) ← item rest
        match skipGap rest with
        | '}' :: rest => some ([(key, value)], rest)
        | ',' :: rest => do
          let (more, rest) ← readMembers item fuel rest
          some ((key, value) :: more, rest)
        | _ => none
      | _ => none
    | _ => none

/-- A value with less than `depth` brackets around each of its parts. The depth falls with each
bracket, and the reading of items and members has the rest of the text as its fuel. -/
def readValue : Nat → List Char → Option (Json × List Char)
  | 0, _ => none
  | depth + 1, s =>
    match skipGap s with
    | 'n' :: 'u' :: 'l' :: 'l' :: rest => some (.null, rest)
    | 't' :: 'r' :: 'u' :: 'e' :: rest => some (.bool true, rest)
    | 'f' :: 'a' :: 'l' :: 's' :: 'e' :: rest => some (.bool false, rest)
    | '"' :: rest => (readString rest).map fun (value, rest) => (.string value, rest)
    | '[' :: rest =>
      if depth == 0 then none
      else match skipGap rest with
        | ']' :: rest => some (.array [], rest)
        | _ => (readItems (readValue depth) rest.length rest).map
            fun (items, rest) => (.array items, rest)
    | '{' :: rest =>
      if depth == 0 then none
      else match skipGap rest with
        | '}' :: rest => some (.object [], rest)
        | _ => (readMembers (readValue depth) rest.length rest).map
            fun (members, rest) => (.object members, rest)
    | s => readNumber s

/-- The number of brackets that may stand around a value. -/
def depthLimit : Nat := 127

/-- The value that a document holds, with nothing but gaps around it. -/
def read? (document : String) : Option Json :=
  match readValue (depthLimit + 1) document.toList with
  | some (value, rest) => if (skipGap rest).isEmpty then some value else none
  | none => none

end DepAtlas.Json
