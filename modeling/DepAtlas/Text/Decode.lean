set_option autoImplicit false

/-!
# Decoding of bytes

Text is stored as UTF-8. Bytes that are no UTF-8 can still be shown, with the replacement character
for each longest run that begins a character but does not finish it. Where it matters whether a
replacement character was written or stands for a byte, the bytes are read as glyphs.

## Main definitions

* `Text.decode?` — the text that bytes stand for.
* `Text.decodeAnyway` — that text with replacements.
* `Text.Glyph` — a character of a text, or a byte that belongs to none.
* `Text.glyphs` — the glyphs of bytes.
-/

namespace DepAtlas.Text

/-- The text that bytes stand for, if they are UTF-8. -/
def decode? (bytes : ByteArray) : Option String :=
  String.fromUTF8? bytes

/-- How a first byte goes on: the range of the second byte and the number of bytes after that. -/
def continuation? (b : UInt8) : Option (UInt8 × UInt8 × Nat) :=
  if 0xC2 ≤ b && b ≤ 0xDF then some (0x80, 0xBF, 0)
  else if b == 0xE0 then some (0xA0, 0xBF, 1)
  else if b == 0xED then some (0x80, 0x9F, 1)
  else if 0xE1 ≤ b && b ≤ 0xEF then some (0x80, 0xBF, 1)
  else if b == 0xF0 then some (0x90, 0xBF, 2)
  else if 0xF1 ≤ b && b ≤ 0xF3 then some (0x80, 0xBF, 2)
  else if b == 0xF4 then some (0x80, 0x8F, 2)
  else none

/-- Takes up to `n` continuation bytes onto a code point, with whether all of them are there. -/
def takeContinuation : (n : Nat) → (code : Nat) → List UInt8 → Bool × Nat × List UInt8
  | 0, code, bytes => (true, code, bytes)
  | n + 1, code, b :: rest =>
    if 0x80 ≤ b && b ≤ 0xBF then takeContinuation n (64 * code + (b.toNat - 0x80)) rest
    else (false, code, b :: rest)
  | _ + 1, code, [] => (false, code, [])

/-- The first character of bytes, if they begin with a whole one, and the bytes behind it, or behind
the longest run that begins one. -/
def decodeFirst (b : UInt8) (rest : List UInt8) : Option Char × List UInt8 :=
  if b < 0x80 then (some (Char.ofNat b.toNat), rest)
  else match continuation? b, rest with
    | some (least, most, more), c :: tail =>
      if least ≤ c && c ≤ most then
        let lead := b.toNat % (if more = 0 then 32 else if more = 1 then 16 else 8)
        match takeContinuation more (64 * lead + (c.toNat - 0x80)) tail with
        | (true, code, after) => (some (Char.ofNat code), after)
        | (false, _, after) => (none, after)
      else (none, rest)
    | _, _ => (none, rest)

/-- The character that stands for what is no UTF-8. -/
def replacement : Char := '\uFFFD'

/-- The characters of bytes, with fuel for each of them. -/
def decodeAll : (fuel : Nat) → List UInt8 → List Char
  | 0, _ | _, [] => []
  | fuel + 1, b :: rest =>
    let (c, after) := decodeFirst b rest
    c.getD replacement :: decodeAll fuel after

/-- The text that bytes stand for, with replacements for what is no UTF-8. A run of bytes that
begins a character without finishing it gets a single replacement. -/
def decodeAnyway (bytes : ByteArray) : String :=
  match decode? bytes with
  | some text => text
  | none => String.ofList (decodeAll bytes.size bytes.toList)

/-! ## Glyphs -/

/-- A character of a text, or a stray byte: one that belongs to no character. For a stray byte stands
the replacement character, which may also be written in a text. -/
structure Glyph where
  char : Char
  isStray : Bool := false
deriving DecidableEq, Repr, Inhabited

/-- The number of bytes of a glyph. -/
def Glyph.size (g : Glyph) : Nat :=
  if g.isStray then 1 else g.char.utf8Size

/-- The characters of a text as glyphs. -/
def glyphsOf (text : String) : List Glyph :=
  text.toList.map fun c => { char := c }

/-- The glyphs of bytes, with fuel for each of them. After a stray byte reading goes on with the next
byte, whether that was taken for a part of a character or not. -/
def readGlyphs : (fuel : Nat) → List UInt8 → List Glyph
  | 0, _ | _, [] => []
  | fuel + 1, b :: rest =>
    match decodeFirst b rest with
    | (some c, after) => { char := c } :: readGlyphs fuel after
    | (none, _) => { char := replacement, isStray := true } :: readGlyphs fuel rest

/-- The glyphs of bytes. Those of a whole text are its characters, so only bytes that are no UTF-8
make stray ones. -/
def glyphs (bytes : ByteArray) : List Glyph :=
  match decode? bytes with
  | some text => glyphsOf text
  | none => readGlyphs bytes.size bytes.toList

end DepAtlas.Text
