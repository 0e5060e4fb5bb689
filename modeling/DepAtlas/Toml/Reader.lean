import DepAtlas.Toml.Basic

set_option autoImplicit false

/-!
# Reading TOML

The notation is that of version 1.0, with at most `Toml.depthLimit` brackets around a value. Every
reader takes what it reads from the front of a text and answers with the rest.

## Main definitions

* `Toml.read?` — the table that a document holds.
-/

namespace DepAtlas.Toml

/-- How many brackets and braces may stand around a value. -/
def depthLimit : Nat := 79

/-! ## Blanks, comments and line ends -/

/-- The rest after blanks on a line. -/
def skipBlanks (s : List Char) : List Char :=
  s.dropWhile fun c => c == ' ' || c == '\t'

/-- Whether a character may stand in a comment or a string: no control character but the tab. -/
def isPrintable (c : Char) : Bool :=
  c == '\t' || (32 ≤ c.toNat && c.toNat != 127)

/-- The rest after the end of a line, which is no end of the text. -/
def newline? : List Char → Option (List Char)
  | '\n' :: rest => some rest
  | '\r' :: '\n' :: rest => some rest
  | _ => none

/-- The rest after a comment, if there is one. -/
def skipComment : List Char → List Char
  | '#' :: rest => rest.dropWhile isPrintable
  | s => s

/-- The rest after what may stand between a value and the next line. -/
def endOfLine? (s : List Char) : Option (List Char) :=
  match skipComment (skipBlanks s) with
  | [] => some []
  | s => newline? s

/-- The rest after blanks, comments and line ends, with fuel for each of them. -/
def skipLines : (fuel : Nat) → List Char → List Char
  | 0, s => s
  | fuel + 1, s =>
    let s := skipBlanks s
    match s with
    | '#' :: _ =>
      match newline? (skipComment s) with
      | some rest => skipLines fuel rest
      | none => s
    | s =>
      match newline? s with
      | some rest => skipLines fuel rest
      | none => s

/-- The rest after all blanks, comments and line ends. -/
def skipGap (s : List Char) : List Char :=
  skipLines (s.length + 1) s

/-! ## Strings -/

/-- The value of a hexadecimal digit. -/
def hexValue? (c : Char) : Option Nat :=
  if c.isDigit then some (c.toNat - 48)
  else if 'a' ≤ c && c ≤ 'f' then some (c.toNat - 87)
  else if 'A' ≤ c && c ≤ 'F' then some (c.toNat - 55)
  else none

/-- The character of a number of hexadecimal digits. -/
def readCode? (count : Nat) (s : List Char) : Option (Char × List Char) := do
  let digits := s.take count
  if digits.length < count then none
  let code ← digits.foldlM (fun n c => (hexValue? c).map fun d => 16 * n + d) 0
  if code > 0x10FFFF || (0xD800 ≤ code && code ≤ 0xDFFF) then none
  else some (Char.ofNat code, s.drop count)

/-- The character of an escape, behind its backslash. -/
def readEscape? : List Char → Option (Char × List Char)
  | 'b' :: rest => some (Char.ofNat 8, rest)
  | 't' :: rest => some ('\t', rest)
  | 'n' :: rest => some ('\n', rest)
  | 'f' :: rest => some (Char.ofNat 12, rest)
  | 'r' :: rest => some ('\r', rest)
  | '"' :: rest => some ('"', rest)
  | '\\' :: rest => some ('\\', rest)
  | 'u' :: rest => readCode? 4 rest
  | 'U' :: rest => readCode? 8 rest
  | _ => none

/-- A string on one line, behind its opening quote, with fuel for each character. -/
def readBasic? : (fuel : Nat) → List Char → Option (List Char × List Char)
  | 0, _ | _, [] => none
  | _, '"' :: rest => some ([], rest)
  | fuel + 1, '\\' :: rest => do
    let (c, rest) ← readEscape? rest
    let (chars, rest) ← readBasic? fuel rest
    some (c :: chars, rest)
  | fuel + 1, c :: rest => do
    if !isPrintable c then none
    let (chars, rest) ← readBasic? fuel rest
    some (c :: chars, rest)

/-- A string without escapes on one line, behind its opening quote. -/
def readLiteral? (s : List Char) : Option (List Char × List Char) :=
  let text := s.takeWhile fun c => isPrintable c && c != '\''
  match s.drop text.length with
  | '\'' :: rest => some (text, rest)
  | _ => none

/-- The quotes that end a string of several lines: up to two of five belong to it. A sixth quote is
left over and begins something else. -/
def closing? (quote : Char) (s : List Char) : Option (List Char × List Char) :=
  let count := (s.takeWhile (· == quote)).length
  if count < 3 then none
  else
    let inner := Nat.min (count - 3) 2
    some (List.replicate inner quote, s.drop (inner + 3))

/-- The rest after a backslash that ends a line: all blanks and line ends are left out, those of the
lines below too. Blanks may stand between the backslash and the end of its line. -/
def lineJoint? (s : List Char) : Option (List Char) :=
  match newline? (skipBlanks s) with
  | some rest => some (rest.dropWhile fun c => c == ' ' || c == '\t' || c == '\n' || c == '\r')
  | none => none

/-- A string of several lines, behind its opening quotes, with fuel for each character. Escapes
count only between double quotes, and a line end of two characters is read as one. -/
def readLong? (quote : Char) : (fuel : Nat) → List Char → Option (List Char × List Char)
  | 0, _ => none
  | fuel + 1, s =>
    match closing? quote s with
    | some found => some found
    | none =>
      let further (c : Char) (rest : List Char) : Option (List Char × List Char) := do
        let (chars, rest) ← readLong? quote fuel rest
        some (c :: chars, rest)
      match newline? s with
      | some rest => further '\n' rest
      | none =>
        match s with
        | [] => none
        | c :: rest =>
          if c == '\\' && quote == '"' then
            match lineJoint? rest with
            | some rest => readLong? quote fuel rest
            | none =>
              match readEscape? rest with
              | some (c, rest) => further c rest
              | none => none
          else if isPrintable c then further c rest
          else none

/-- A string of any kind. A line end right behind the opening quotes of a string of several lines is
no part of it. -/
def readText? (s : List Char) : Option (List Char × List Char) :=
  let long (quote : Char) (rest : List Char) : Option (List Char × List Char) :=
    readLong? quote (rest.length + 1) ((newline? rest).getD rest)
  match s with
  | '"' :: '"' :: '"' :: rest => long '"' rest
  | '\'' :: '\'' :: '\'' :: rest => long '\'' rest
  | '"' :: rest => readBasic? (rest.length + 1) rest
  | '\'' :: rest => readLiteral? rest
  | _ => none

/-! ## Keys -/

/-- Whether a character may stand in a key without quotes. -/
def isKeyChar (c : Char) : Bool :=
  c.isAlphanum || c == '_' || c == '-'

/-- One part of a key. -/
def readKeyPart? (s : List Char) : Option (String × List Char) :=
  match s with
  | '"' :: rest => (readBasic? (rest.length + 1) rest).map fun (t, r) => (String.ofList t, r)
  | '\'' :: rest => (readLiteral? rest).map fun (t, r) => (String.ofList t, r)
  | s =>
    let text := s.takeWhile isKeyChar
    if text.isEmpty then none else some (String.ofList text, s.drop text.length)

/-- The parts of a key with dots between them, with fuel for each part. -/
def readKeyParts? : (fuel : Nat) → List Char → Option (List String × List Char)
  | 0, _ => none
  | fuel + 1, s => do
    let (part, rest) ← readKeyPart? (skipBlanks s)
    match skipBlanks rest with
    | '.' :: rest => do
      let (parts, rest) ← readKeyParts? fuel rest
      some (part :: parts, rest)
    | rest => some ([part], rest)

/-- A key: the parts in front, and the last one. -/
def readKey? (s : List Char) : Option ((List String × String) × List Char) := do
  let (parts, rest) ← readKeyParts? (s.length + 1) s
  if parts.length > depthLimit then none
  else some ((parts.dropLast, parts.getLastD ""), rest)

/-! ## Numbers -/

/-- Digits with single underscores between them, without the underscores. An underscore has to stand
between two digits. -/
def readDigits? (isDigit : Char → Bool) : List Char → Option (List Char × List Char)
  | [] => none
  | c :: rest =>
    if !isDigit c then none
    else
      match rest with
      | '_' :: more => (readDigits? isDigit more).map fun (digits, rest) => (c :: digits, rest)
      | rest =>
        match readDigits? isDigit rest with
        | some (digits, rest) => some (c :: digits, rest)
        | none =>
          match rest with
          | [] => some ([c], [])
          | d :: _ => if isDigit d then none else some ([c], rest)

/-- The sign in front of a number. -/
def readSign : List Char → Bool × List Char
  | '-' :: rest => (true, rest)
  | '+' :: rest => (false, rest)
  | s => (false, s)

/-- The number of digits in a base. -/
def numberOf (base : Nat) (digits : List Char) : Nat :=
  digits.foldl (fun n c => base * n + (hexValue? c).getD 0) 0

/-- A decimal number without a zero in front. -/
def readDecimal? (s : List Char) : Option (List Char × List Char) :=
  match s with
  | '0' :: rest => some (['0'], rest)
  | s => readDigits? Char.isDigit s

/-- An integer of 64 bits. A number in another base has no sign, and a decimal number no zero in
front. -/
def readInteger? (s : List Char) : Option (Toml × List Char) := do
  let based (base : Nat) (isDigit : Char → Bool) (s : List Char) : Option (Int × List Char) :=
    (readDigits? isDigit s).map fun (digits, rest) => ((numberOf base digits : Int), rest)
  let (n, rest) ← match s with
    | '0' :: 'x' :: rest => based 16 (fun c => (hexValue? c).isSome) rest
    | '0' :: 'o' :: rest => based 8 (fun c => '0' ≤ c && c ≤ '7') rest
    | '0' :: 'b' :: rest => based 2 (fun c => c == '0' || c == '1') rest
    | s => do
      let (negative, s) := readSign s
      let (digits, rest) ← readDecimal? s
      let n : Int := numberOf 10 digits
      some (if negative then -n else n, rest)
  if -9223372036854775808 ≤ n && n ≤ 9223372036854775807 then some (.integer n, rest) else none

/-- The rest after an exponent. -/
def afterExponent? : List Char → Option (List Char)
  | 'e' :: rest | 'E' :: rest => (readDigits? Char.isDigit (readSign rest).2).map Prod.snd
  | _ => none

/-- The rest after a fraction. -/
def afterFraction? : List Char → Option (List Char)
  | '.' :: rest => (readDigits? Char.isDigit rest).map Prod.snd
  | _ => none

/-- The rest after a word. -/
def afterWord? (word : String) (s : List Char) : Option (List Char) :=
  if word.toList.isPrefixOf s then some (s.drop word.length) else none

/-- A number with a fraction or an exponent, or one that is none or infinite. It is kept as it is
written, since no option takes it. -/
def readFloat? (s : List Char) : Option (Toml × List Char) := do
  let (_, unsigned) := readSign s
  let plain : Option (List Char) := do
    let (_, rest) ← readDecimal? unsigned
    match afterExponent? rest with
    | some rest => some rest
    | none => do
      let rest ← afterFraction? rest
      some ((afterExponent? rest).getD rest)
  let rest ← plain <|> afterWord? "inf" unsigned <|> afterWord? "nan" unsigned
  some (.float (String.ofList (s.take (s.length - rest.length))), rest)

/-! ## Moments -/

/-- A number of exactly this many digits, within limits. -/
def readFixed? (count least most : Nat) (s : List Char) : Option (Nat × List Char) :=
  let digits := s.take count
  let n := numberOf 10 digits
  if digits.length == count && digits.all Char.isDigit && least ≤ n && n ≤ most then
    some (n, s.drop count)
  else none

/-- The rest after one of some characters. -/
def afterOne? (chars : List Char) : List Char → Option (List Char)
  | c :: rest => if chars.contains c then some rest else none
  | [] => none

/-- The number of days of a month. -/
def daysIn (year month : Nat) : Nat :=
  if month == 2 then
    if year % 4 == 0 && (year % 100 != 0 || year % 400 == 0) then 29 else 28
  else if [4, 6, 9, 11].contains month then 30
  else 31

/-- The rest after a date. -/
def afterDate? (s : List Char) : Option (List Char) := do
  let (year, s) ← readFixed? 4 0 9999 s
  let (month, s) ← readFixed? 2 1 12 (← afterOne? ['-'] s)
  let (_, s) ← readFixed? 2 1 (daysIn year month) (← afterOne? ['-'] s)
  some s

/-- The rest after a time of day. -/
def afterTime? (s : List Char) : Option (List Char) := do
  let (_, s) ← readFixed? 2 0 23 s
  let (_, s) ← readFixed? 2 0 59 (← afterOne? [':'] s)
  let (_, s) ← readFixed? 2 0 60 (← afterOne? [':'] s)
  match s with
  | '.' :: rest =>
    if rest.head?.any Char.isDigit then some (rest.dropWhile Char.isDigit) else some s
  | s => some s

/-- The rest after the offset of a time zone. -/
def afterZone? (s : List Char) : Option (List Char) :=
  match s with
  | 'Z' :: rest | 'z' :: rest => some rest
  | s => do
    let (_, s) ← readFixed? 2 0 23 (← afterOne? ['+', '-'] s)
    let (_, s) ← readFixed? 2 0 59 (← afterOne? [':'] s)
    some s

/-- A date, a time of day, or both with or without a time zone. -/
def readMoment? (s : List Char) : Option (Toml × List Char) := do
  let rest ← match afterDate? s with
    | some rest =>
      match (afterOne? ['T', 't', ' '] rest).bind afterTime? with
      | some rest => some ((afterZone? rest).getD rest)
      | none => some rest
    | none => afterTime? s
  some (.moment (String.ofList (s.take (s.length - rest.length))), rest)

/-! ## Values -/

mutual

/-- A value with at most `depth` brackets around its parts; the fuel bounds the number of steps. A
moment begins like a number, so it is tried before. -/
def readValue? : (fuel : Nat) → (depth : Nat) → List Char → Option (Toml × List Char)
  | 0, _, _ | _, _, [] => none
  | fuel + 1, depth, c :: rest =>
    let s := c :: rest
    if c == '"' || c == '\'' then
      (readText? s).map fun (chars, rest) => (.text (String.ofList chars), rest)
    else if c == '[' then
      if depth = 0 then none
      else (readItems? fuel (depth - 1) rest).map fun (items, rest) => (.array items, rest)
    else if c == '\x7b' then
      if depth = 0 then none
      else match skipBlanks rest with
        | '\x7d' :: rest => some (.table [], rest)
        | rest =>
          (readMembers? fuel (depth - 1) [] rest).map fun (m, rest) =>
            (.table (ofMembers m), rest)
    else if c.isDigit || c == '+' || c == '-' then
      readMoment? s <|> readFloat? s <|> readInteger? s
    else
      ((afterWord? "true" s).map fun rest => (.flag true, rest))
        <|> ((afterWord? "false" s).map fun rest => (.flag false, rest))
        <|> ((afterWord? "inf" s).map fun rest => (.float "inf", rest))
        <|> (afterWord? "nan" s).map fun rest => (.float "nan", rest)

/-- The values of an array up to its closing bracket. Line ends and comments may stand between them,
and a comma behind the last. -/
def readItems? : (fuel : Nat) → (depth : Nat) → List Char → Option (List Toml × List Char)
  | 0, _, _ => none
  | fuel + 1, depth, s =>
    match skipGap s with
    | ']' :: rest => some ([], rest)
    | s => do
      let (item, rest) ← readValue? fuel depth s
      match skipGap rest with
      | ',' :: rest => do
        let (items, rest) ← readItems? fuel depth rest
        some (item :: items, rest)
      | ']' :: rest => some ([item], rest)
      | _ => none

/-- The members of a table in braces up to its closing brace. They stand on one line, without a
comma behind the last. -/
def readMembers? : (fuel : Nat) → (depth : Nat) → Members → List Char →
    Option (Members × List Char)
  | 0, _, _, _ => none
  | fuel + 1, depth, found, s => do
    let ((front, key), rest) ← readKey? s
    let (v, rest) ← readValue? fuel depth (skipBlanks (← afterOne? ['='] rest))
    let found ← assign? front key v .header found
    match skipBlanks rest with
    | ',' :: rest => readMembers? fuel depth found rest
    | '\x7d' :: rest => some (found, rest)
    | _ => none

end

/-! ## Documents -/

/-- What one line of a document says, and the rest of the text. A header changes the table that the
lines below it are about, and a key with its value adds to this table. -/
def readLine? (header : List String) (root : Members) (s : List Char) :
    Option (List String × Members × List Char) :=
  match s with
  | '[' :: '[' :: rest => do
    let ((front, key), rest) ← readKey? rest
    let rest ← afterOne? [']'] (← afterOne? [']'] rest)
    some (front ++ [key], ← openElement? front key root, rest)
  | '[' :: rest => do
    let ((front, key), rest) ← readKey? rest
    some (front ++ [key], ← openTable? front key root, ← afterOne? [']'] rest)
  | s => do
    let ((front, key), rest) ← readKey? s
    let (v, rest) ← readValue? (2 * s.length + 2) depthLimit (skipBlanks (← afterOne? ['='] rest))
    some (header, ← define? header front key v root, rest)

/-- Reads the lines of a document below a header, with fuel for each line. -/
def readLines? : (fuel : Nat) → (header : List String) → Members → List Char → Option Members
  | 0, _, _, _ => none
  | fuel + 1, header, root, s =>
    match skipGap s with
    | [] => some root
    | '#' :: rest => if (rest.dropWhile isPrintable).isEmpty then some root else none
    | s => do
      let (header, root, rest) ← readLine? header root s
      readLines? fuel header root (← endOfLine? rest)

/-- The table that a document holds. A byte order mark at the front does not count. -/
def read? (document : String) : Option Toml :=
  let s := match document.toList with
    | '\uFEFF' :: rest => rest
    | s => s
  (readLines? (s.length + 1) [] [] s).map fun root => .table (ofMembers root)

end DepAtlas.Toml
