import DepAtlas.Text.Blank
import DepAtlas.Text.Decode
import DepAtlas.Unicode.Property

set_option autoImplicit false

/-!
# Tokens of Rust source

A source text is cut into words, literals, comments and single marks, each with the blanks in front
of it. Operators of more than one mark are put together only when the text is read, because the
same marks mean different things in different places: `>>` shifts a number or closes two lists.
A byte that is no UTF-8 may stand where a replacement character may, and the token remembers it.

## Main definitions

* `Token` — one token with its place.
* `Token.ofGlyphs` — the tokens of a source.
* `Token.ofText` — the tokens of a text.
-/

namespace DepAtlas.Source

/-! ## Types -/

/-- What a token is. -/
inductive TokenKind where
  /-- a name or a keyword -/
  | word
  /-- a `$` with a name -/
  | metavariable
  | integer
  | float
  | string
  | character
  /-- a single punctuation character -/
  | mark
  | comment
  /-- the end of the text -/
  | finish
  /-- a character that begins no token, or a token that never ends -/
  | broken
deriving DecidableEq, Repr, Inhabited

/-- A place in a text: its line, and the number of bytes before it on that line. -/
structure Place where
  line : Nat := 1
  offset : Nat := 0
deriving DecidableEq, Repr, Inhabited

/-- The place after a glyph. -/
def Place.step (p : Place) (g : Text.Glyph) : Place :=
  if g.char = '\n' then ⟨p.line + 1, 0⟩ else ⟨p.line, p.offset + g.size⟩

/-- The place after some glyphs. -/
def Place.after (p : Place) (s : List Text.Glyph) : Place :=
  s.foldl step p

/-- One token: the blanks before it, its text, where it starts and stops, its number, and whether
there is a stray byte in it. The numbers count the tokens of a source from its front. -/
structure Token where
  kind : TokenKind
  gap : List Char
  text : String
  start : Place
  stop : Place
  number : Nat
  hasStray : Bool := false
deriving Repr, Inhabited

/-- Whether a token follows the one before it without a blank. -/
def Token.isGlued (t : Token) : Bool :=
  t.gap.isEmpty

/-! ## Characters -/

/-- Whether a character begins a word. -/
def isWordStart (c : Char) : Bool :=
  c.isAlpha || c == '_' || (128 ≤ c.toNat && Unicode.Property.xidStart.mem c)

/-- Whether a character goes on with a word. -/
def isWordRest (c : Char) : Bool :=
  c.isAlphanum || c == '_' || (128 ≤ c.toNat && Unicode.Property.xidContinue.mem c)

/-- Whether a character goes on with the name of a metavariable. -/
def isVariableRest (c : Char) : Bool :=
  c.isAlphanum || c == '_' || (128 ≤ c.toNat && Unicode.wordCharacters.mem c)

/-- Whether a character is a punctuation mark of the language. -/
def isMark (c : Char) : Bool :=
  "+-*/%^!&|<>=@.,;:#?()[]\x7b\x7d$'".toList.contains c

/-- Whether a character is a hexadecimal digit. -/
def isHexDigit (c : Char) : Bool :=
  c.isDigit || ('a' ≤ c && c ≤ 'f') || ('A' ≤ c && c ≤ 'F')

/-- Whether a character is a digit or a digit separator. -/
def isDigitOrGap (c : Char) : Bool :=
  c.isDigit || c == '_'

/-! ## Pieces of text

Each of these functions is given the rest of the text and answers with what is left after one
piece of a token, or with nothing if there is no such piece. -/

/-- The rest after digits of a code point in braces. -/
def afterCodePoint? (s : List Char) : Option (List Char) :=
  match s.span isHexDigit with
  | (_ :: _, '\x7d' :: rest) => some rest
  | _ => none

/-- The rest after a backslash and the escape behind it; `s` follows the backslash. -/
def afterEscape? : List Char → Option (List Char)
  | 'x' :: a :: b :: rest => if isHexDigit a && isHexDigit b then some rest else none
  | 'x' :: _ => none
  | 'u' :: '\x7b' :: rest => afterCodePoint? rest
  | 'u' :: a :: b :: c :: d :: rest =>
    if [a, b, c, d].all isHexDigit then some rest else none
  | 'u' :: _ => none
  | _ :: rest => some rest
  | [] => none

/-- The rest after the quote that ends a string. -/
def afterString? : List Char → Option (List Char)
  | [] => none
  | '"' :: rest => some rest
  | '\\' :: c :: rest =>
    if (afterEscape? (c :: rest)).isSome then afterString? rest else none
  | _ :: rest => afterString? rest

/-- The rest after the quote and the hashes that end a raw string. A backslash has no meaning there. -/
def afterRawString? (hashes : List Char) : List Char → Option (List Char)
  | [] => none
  | c :: rest =>
    if c == '"' && hashes.isPrefixOf rest then some (rest.drop hashes.length)
    else afterRawString? hashes rest

/-- The rest after a character literal; `s` follows its first quote. Without a second quote there is
none, and the first one is the mark of a lifetime. -/
def afterCharacter? : List Char → Option (List Char)
  | '\'' :: rest => some rest
  | '\\' :: rest =>
    match afterEscape? rest with
    | some ('\'' :: rest) => some rest
    | _ => none
  | _ :: '\'' :: rest => some rest
  | _ => none

/-- The rest after a block comment; comments may be nested, and `depth` counts the open ones. A
comment that stays open has no end. -/
def afterBlock? : (depth : Nat) → List Char → Option (List Char)
  | 0, rest => some rest
  | depth + 1, '*' :: '/' :: rest => afterBlock? depth rest
  | depth + 1, '/' :: '*' :: rest => afterBlock? (depth + 2) rest
  | depth + 1, _ :: rest => afterBlock? (depth + 1) rest
  | _ + 1, [] => none

/-- The suffixes that give a number its type. -/
def numberSuffixes : List String :=
  ["u8", "i8", "u16", "i16", "u32", "i32", "u64", "i64", "u128", "i128", "isize", "usize", "f32",
   "f64"]

/-- The rest after the longest suffix of a number. -/
def afterSuffix (s : List Char) : List Char :=
  match (numberSuffixes.filter fun suffix => suffix.toList.isPrefixOf s).getLast? with
  | some suffix => s.drop suffix.length
  | none => s

/-- The digits that follow the mark of a base. -/
def basedDigits? : List Char → Option (List Char)
  | '0' :: 'x' :: rest =>
    match rest.span fun c => isHexDigit c || c == '_' with
    | (_ :: _, rest) => some rest
    | _ => none
  | '0' :: 'b' :: rest =>
    match rest.span fun c => c == '0' || c == '1' || c == '_' with
    | (_ :: _, rest) => some rest
    | _ => none
  | '0' :: 'o' :: rest =>
    match rest.span fun c => ('0' ≤ c && c ≤ '7') || c == '_' with
    | (_ :: _, rest) => some rest
    | _ => none
  | _ => none

/-- The rest after an integer, which begins with a digit. -/
def afterInteger (s : List Char) : List Char :=
  afterSuffix ((basedDigits? s).getD (s.dropWhile isDigitOrGap))

/-- The rest after an exponent. -/
def afterExponent? (s : List Char) : Option (List Char) :=
  let afterDigits (s : List Char) : Option (List Char) :=
    if s.head?.any isDigitOrGap then some (s.dropWhile isDigitOrGap) else none
  match s with
  | c :: rest =>
    if c == 'e' || c == 'E' then
      match rest with
      | '+' :: rest | '-' :: rest => afterDigits rest
      | rest => afterDigits rest
    else none
  | [] => none

/-- The rest after the type of a float: a letter and digits. -/
def afterFloatType (s : List Char) : List Char :=
  match s with
  | c :: d :: rest =>
    if (c == 'u' || c == 'i' || c == 'f') && d.isDigit then rest.dropWhile Char.isDigit else s
  | _ => s

/-- The rest after a float. A point that another point or a letter follows is no part of it, as in a
range or in a call, and without a point there must be an exponent. -/
def afterFloat? (s : List Char) : Option (List Char) :=
  match s.dropWhile isDigitOrGap with
  | '.' :: rest =>
    if rest.head?.any fun c => c == '.' || c.isAlpha || (128 ≤ c.toNat && isWordStart c) then none
    else
      let rest := rest.dropWhile isDigitOrGap
      some (afterFloatType ((afterExponent? rest).getD rest))
  | rest => (afterExponent? rest).map afterFloatType

/-- The hashes and the rest after the opening quote of a raw string; `s` follows the letter. -/
def rawOpening? (s : List Char) : Option (List Char × List Char) :=
  match s.span (· == '#') with
  | (hashes, '"' :: rest) => some (hashes, rest)
  | _ => none

/-! ## Tokens -/

/-- A kind with the rest after it; a token that never ends is broken and takes all. -/
def orBroken (kind : TokenKind) : Option (List Char) → TokenKind × List Char
  | some rest => (kind, rest)
  | none => (.broken, [])

/-- A string that begins with up to one letter in front of its quote, or a raw string. -/
def stringAt? (s : List Char) : Option (TokenKind × List Char) :=
  let raw (s : List Char) : Option (TokenKind × List Char) :=
    (rawOpening? s).map fun (hashes, rest) => orBroken .string (afterRawString? hashes rest)
  match s with
  | '"' :: rest => some (orBroken .string (afterString? rest))
  | 'b' :: '"' :: rest | 'c' :: '"' :: rest => some (orBroken .string (afterString? rest))
  | 'b' :: '\'' :: rest => (afterCharacter? rest).map fun rest => (.character, rest)
  | 'r' :: rest | 'b' :: 'r' :: rest | 'c' :: 'r' :: rest => raw rest
  | _ => none

/-- The rest after a word, which may be marked as raw. -/
def afterWord? (s : List Char) : Option (List Char) :=
  let plain (s : List Char) : Option (List Char) :=
    if s.head?.any isWordStart then some (s.tail.dropWhile isWordRest) else none
  match s with
  | 'r' :: '#' :: rest => (plain rest).orElse fun _ => plain s
  | s => plain s

/-- The kind of the token at the front of a text and the rest after it. Right after a point there
are only integers, as in `pair.0.1`. A string is looked for before a word, as its letters in front
would begin one. -/
def lexeme (afterPoint : Bool) (s : List Char) : TokenKind × List Char :=
  match s with
  | [] => (.finish, [])
  | '/' :: '/' :: rest => (.comment, rest.dropWhile (· != '\n'))
  | '/' :: '*' :: rest => orBroken .comment (afterBlock? 1 rest)
  | '\'' :: rest =>
    match afterCharacter? rest with
    | some rest => (.character, rest)
    | none => (.mark, rest)
  | '$' :: rest =>
    if rest.head?.any fun c => c.isAlpha || c == '_' then
      (.metavariable, rest.dropWhile isVariableRest)
    else (.mark, rest)
  | c :: rest =>
    if c.isDigit then
      match if afterPoint then none else afterFloat? s with
      | some rest => (.float, rest)
      | none => (.integer, afterInteger s)
    else
      -- a letter may begin a string, so strings are tried before words
      match stringAt? s with
      | some token => token
      | none =>
        match afterWord? s with
        | some rest => (.word, rest)
        | none => (if isMark c then .mark else .broken, rest)

/-- Whether the next token stands right after a point that belongs to no range. -/
def isPoint (pointBefore : Bool) (kind : TokenKind) (text : List Char) : Bool :=
  kind == .mark && text == ['.'] && !pointBefore

/-- The tokens of a source that starts at a place, the end of the source last. The fuel counts the
tokens, of which each but the last takes a glyph at least. -/
def tokensFrom : (fuel : Nat) → (number : Nat) → (afterPoint : Bool) → Place → List Text.Glyph →
    List Token
  | 0, _, _, _, _ => []
  | fuel + 1, number, afterPoint, place, s =>
    let (gap, s) := s.span fun g => Text.isBlank g.char
    let start := place.after gap
    let (kind, rest) := lexeme afterPoint (s.map Text.Glyph.char)
    let length := s.length - rest.length
    let text := s.take length
    let stop := start.after text
    let chars := text.map Text.Glyph.char
    let token : Token :=
      { kind, gap := gap.map Text.Glyph.char, text := String.ofList chars, start, stop, number
        hasStray := text.any Text.Glyph.isStray }
    if s.isEmpty then [token]
    else token :: tokensFrom fuel (number + 1) (isPoint afterPoint kind chars) stop (s.drop length)

/-- The number of characters of a first line that names an interpreter, if there is one. An
attribute of the whole file begins with the same two marks. -/
def interpreterLength? (s : List Char) : Option Nat :=
  match s with
  | '#' :: '!' :: '[' :: _ => none
  | '#' :: '!' :: rest =>
    let line := rest.takeWhile (· != '\n')
    if line.length = rest.length then none else some (line.length + 2)
  | _ => none

/-- The tokens of a source. A byte order mark at the front and a first line that names an interpreter
count as blank. -/
def Token.ofGlyphs (s : List Text.Glyph) : List Token :=
  let (mark, s) := s.splitAt (if s.head?.any (·.char == '\uFEFF') then 1 else 0)
  let (gap, s) := s.span fun g => Text.isBlank g.char
  let (line, s) := s.splitAt ((interpreterLength? (s.map Text.Glyph.char)).getD 0)
  tokensFrom (s.length + 1) 0 false (((Place.after {} mark).after gap).after line) s

/-- The tokens of a text. -/
def Token.ofText (text : String) : List Token :=
  ofGlyphs (Text.glyphsOf text)

end DepAtlas.Source
