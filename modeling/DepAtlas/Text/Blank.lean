set_option autoImplicit false

/-!
# Blank characters

The characters with the Unicode property `White_Space`, and trimming them off a text.

## Main definitions

* `Text.isBlank` — membership in the property.
* `Text.trim` — a text without the blanks at both ends.
* `Text.dropBlanks` — a text without any blank.
-/

namespace DepAtlas.Text

/-- The characters with the Unicode property `White_Space`. -/
def isBlank (c : Char) : Bool :=
  let n := c.toNat
  (9 ≤ n && n ≤ 13) || n == 0x20 || n == 0x85 || n == 0xA0 || n == 0x1680
    || (0x2000 ≤ n && n ≤ 0x200A) || n == 0x2028 || n == 0x2029 || n == 0x202F || n == 0x205F
    || n == 0x3000

/-- The text without its leading blanks. -/
def trimStart (s : List Char) : List Char :=
  s.dropWhile isBlank

/-- The text without its trailing blanks. -/
def trimEnd (s : List Char) : List Char :=
  (s.reverse.dropWhile isBlank).reverse

/-- The text without the blanks at both ends. -/
def trim (s : List Char) : List Char :=
  trimEnd (trimStart s)

/-- The text without any blank. -/
def dropBlanks (s : List Char) : List Char :=
  s.filter fun c => !isBlank c

end DepAtlas.Text
