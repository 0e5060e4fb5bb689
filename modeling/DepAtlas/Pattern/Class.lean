import DepAtlas.Unicode.Case
import DepAtlas.Unicode.Script

set_option autoImplicit false

/-!
# Named classes of characters

The classes that a pattern can call by name: the short classes for digits, blanks and words, the
classes of ASCII, and everything that Unicode names by a category, a script or a property.

## Main definitions

* `Pattern.Class.ascii?` — a class of ASCII by its name.
* `Pattern.Class.unicode?` — a Unicode class by one name.
* `Pattern.Class.unicodeValue?` — a Unicode class by a property and its value.
-/

namespace DepAtlas.Pattern.Class

/-! ## Short classes -/

/-- The digits: all decimal digits of Unicode, or those of ASCII. -/
def digits (unicode : Bool) : CharSet :=
  if unicode then Unicode.Category.decimalNumber else .interval '0' '9'

/-- The blanks of ASCII. -/
def asciiBlanks : CharSet := .ofRanges [(9, 13), (32, 32)]

/-- The blanks. -/
def blanks (unicode : Bool) : CharSet :=
  if unicode then Unicode.Property.whiteSpace else asciiBlanks

/-- The characters of words in ASCII. -/
def asciiWord : CharSet := .ofHex "30-39 41-5A 5F 61-7A"

/-- The characters of words. -/
def word (unicode : Bool) : CharSet :=
  if unicode then Unicode.wordCharacters else asciiWord

/-! ## Classes of ASCII -/

/-- The class of ASCII with a name. -/
def ascii? (name : String) : Option CharSet :=
  match name with
  | "alnum" => some (.ofHex "30-39 41-5A 61-7A")
  | "alpha" => some (.ofHex "41-5A 61-7A")
  | "ascii" => some (.ofHex "0-7F")
  | "blank" => some (.ofHex "9 20")
  | "cntrl" => some (.ofHex "0-1F 7F")
  | "digit" => some (.ofHex "30-39")
  | "graph" => some (.ofHex "21-7E")
  | "lower" => some (.ofHex "61-7A")
  | "print" => some (.ofHex "20-7E")
  | "punct" => some (.ofHex "21-2F 3A-40 5B-60 7B-7E")
  | "space" => some asciiBlanks
  | "upper" => some (.ofHex "41-5A")
  | "word" => some asciiWord
  | "xdigit" => some (.ofHex "30-39 41-46 61-66")
  | _ => none

/-! ## Classes of Unicode -/

/-- A name without blanks, hyphens and underscores, in lower case, and without characters beyond
ASCII. A leading `is` does not count, except that of the name `isc`, which would be another name
without it. -/
def normalize (name : List Char) : String :=
  let (hadIs, rest) := match name with
    | i :: s :: rest =>
      if (i == 'i' || i == 'I') && (s == 's' || s == 'S') then (true, rest) else (false, name)
    | _ => (false, name)
  let kept := (rest.filter fun c => c != ' ' && c != '_' && c != '-' && c.toNat < 128).map
    Char.toLower
  if hadIs && kept == ['c'] then "isc" else String.ofList kept

/-- The general categories and their groups, by normalized names. -/
def categories : List (List String × CharSet) :=
  open Unicode Unicode.Category in
  [(["l", "letter"], letters), (["lc", "casedletter"], casedLetters),
   (["lu", "uppercaseletter"], uppercaseLetter), (["ll", "lowercaseletter"], lowercaseLetter),
   (["lt", "titlecaseletter"], titlecaseLetter), (["lm", "modifierletter"], modifierLetter),
   (["lo", "otherletter"], otherLetter),
   (["m", "mark", "combiningmark"], marks), (["mn", "nonspacingmark"], nonspacingMark),
   (["mc", "spacingmark"], spacingMark), (["me", "enclosingmark"], enclosingMark),
   (["n", "number"], numbers), (["nd", "decimalnumber", "digit"], decimalNumber),
   (["nl", "letternumber"], letterNumber), (["no", "othernumber"], otherNumber),
   (["p", "punctuation", "punct"], punctuation),
   (["pc", "connectorpunctuation"], connectorPunctuation),
   (["pd", "dashpunctuation"], dashPunctuation), (["ps", "openpunctuation"], openPunctuation),
   (["pe", "closepunctuation"], closePunctuation),
   (["pi", "initialpunctuation"], initialPunctuation),
   (["pf", "finalpunctuation"], finalPunctuation),
   (["po", "otherpunctuation"], otherPunctuation),
   (["s", "symbol"], symbols), (["sm", "mathsymbol"], mathSymbol),
   (["sc", "currencysymbol"], currencySymbol), (["sk", "modifiersymbol"], modifierSymbol),
   (["so", "othersymbol"], otherSymbol),
   (["z", "separator"], separators), (["zs", "spaceseparator"], spaceSeparator),
   (["zl", "lineseparator"], lineSeparator), (["zp", "paragraphseparator"], paragraphSeparator),
   (["c", "other"], others), (["cc", "control", "cntrl"], control), (["cf", "format"], format),
   (["cs", "surrogate"], .empty), (["co", "privateuse"], privateUse),
   (["cn", "unassigned"], unassigned),
   (["any"], .full), (["assigned"], unassigned.compl), (["ascii"], .ofHex "0-7F")]

/-- A set in a table by one of its names. -/
def named? (table : List (List String × CharSet)) (name : String) : Option CharSet :=
  (table.find? fun row => row.1.contains name).map Prod.snd

/-- A script by one of its names. -/
def script? (name : String) : Option Unicode.Script :=
  Unicode.Script.table.find? fun s => s.name == name || s.abbreviations.contains name

/-- The code points that a script uses: its own and the shared ones. What other scripts share is
no longer common or inherited. -/
def scriptExtensions (s : Unicode.Script) : CharSet :=
  if s.name == "common" || s.name == "inherited" then
    s.own.diff (.unions (Unicode.Script.table.map (·.shared)))
  else s.own.union s.shared

/-- The Unicode class with a name: a property, a category or a script. Three short names of
properties are those of categories as well, and stand for these. -/
def unicode? (name : List Char) : Option CharSet :=
  let norm := normalize name
  let property := if norm == "cf" || norm == "sc" || norm == "lc" then none
    else named? Unicode.Property.table norm
  property.or ((named? categories norm).or ((script? norm).map (·.own)))

/-- The Unicode class of a property with a value. -/
def unicodeValue? (property value : List Char) : Option CharSet :=
  let value := normalize value
  match normalize property with
  | "gc" | "generalcategory" => named? categories value
  | "sc" | "script" => (script? value).map (·.own)
  | "scx" | "scriptextensions" => (script? value).map scriptExtensions
  | _ => none

end DepAtlas.Pattern.Class
