import DepAtlas.Text.Split

set_option autoImplicit false

/-!
# JSON documents

## Main definitions

* `Json` — the values of the format; an object keeps its members in order, repeated keys
  included.
* `Json.compact` — a document on one line without blanks.
* `Json.pretty` — a document with two blanks of indentation a level.
-/

namespace DepAtlas

/-- A JSON value. Numbers are told apart as they are written. -/
inductive Json where
  | null
  | bool (value : Bool)
  /-- digits only, and small enough for 64 bits -/
  | natural (value : Nat)
  /-- any other number, as it is written -/
  | number (text : String)
  | string (value : String)
  | array (items : List Json)
  | object (members : List (String × Json))
deriving Repr, Inhabited

namespace Json

/-! ## Strings -/

/-- A digit of a hexadecimal number, in lower case. -/
def hexDigit (n : Nat) : Char :=
  if n < 10 then Char.ofNat (48 + n) else Char.ofNat (87 + n)

/-- How a character is written inside a string. Only quotes, backslashes and control characters are
escaped; everything beyond ASCII stands for itself. -/
def escapeChar (c : Char) : List Char :=
  if c == '"' then ['\\', '"']
  else if c == '\\' then ['\\', '\\']
  else if c == '\n' then ['\\', 'n']
  else if c == '\r' then ['\\', 'r']
  else if c == '\t' then ['\\', 't']
  else if c.toNat == 8 then ['\\', 'b']
  else if c.toNat == 12 then ['\\', 'f']
  else if c.toNat < 32 then
    ['\\', 'u', '0', '0', hexDigit (c.toNat / 16), hexDigit (c.toNat % 16)]
  else [c]

/-- A string in quotes. -/
def quote (s : String) : List Char :=
  '"' :: s.toList.flatMap escapeChar ++ ['"']

/-! ## Writing -/

mutual

/-- A value on one line, without blanks. -/
def writeCompact : Json → List Char
  | null => "null".toList
  | bool value => (if value then "true" else "false").toList
  | natural value => (toString value).toList
  | number text => text.toList
  | string value => quote value
  | array items => '[' :: Text.joinWith [','] (compactItems items) ++ [']']
  | object members => '{' :: Text.joinWith [','] (compactMembers members) ++ ['}']

/-- The values of an array, each on its own. -/
def compactItems : List Json → List (List Char)
  | [] => []
  | item :: rest => writeCompact item :: compactItems rest

/-- The members of an object, each on its own. -/
def compactMembers : List (String × Json) → List (List Char)
  | [] => []
  | (key, value) :: rest => (quote key ++ ':' :: writeCompact value) :: compactMembers rest

end

/-- A new line at a level of indentation. -/
def newLine (level : Nat) : List Char :=
  '\n' :: List.replicate (2 * level) ' '

/-- Parts between brackets, one a line; nothing stands between the brackets of no parts. The parts
are indented by one level more than the brackets. -/
def block (opening closing : Char) (level : Nat) (parts : List (List Char)) : List Char :=
  if parts.isEmpty then [opening, closing]
  else
    opening :: newLine (level + 1) ++ Text.joinWith (',' :: newLine (level + 1)) parts
      ++ newLine level ++ [closing]

mutual

/-- A value over several lines, at a level of indentation. -/
def writePretty (level : Nat) : Json → List Char
  | array items => block '[' ']' level (prettyItems (level + 1) items)
  | object members => block '{' '}' level (prettyMembers (level + 1) members)
  | value => writeCompact value

/-- The values of an array, each on its own. -/
def prettyItems (level : Nat) : List Json → List (List Char)
  | [] => []
  | item :: rest => writePretty level item :: prettyItems level rest

/-- The members of an object, each on its own. -/
def prettyMembers (level : Nat) : List (String × Json) → List (List Char)
  | [] => []
  | (key, value) :: rest =>
    (quote key ++ ':' :: ' ' :: writePretty level value) :: prettyMembers level rest

end

/-- A document on one line without blanks. -/
def compact (value : Json) : String :=
  String.ofList value.writeCompact

/-- A document with two blanks of indentation a level. -/
def pretty (value : Json) : String :=
  String.ofList (value.writePretty 0)

end Json

end DepAtlas
