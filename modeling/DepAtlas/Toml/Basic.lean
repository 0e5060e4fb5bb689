set_option autoImplicit false

/-!
# TOML values and documents

A document defines tables piece by piece. How a table came to be decides which later pieces may add
to it.

## Main definitions

* `Toml` — the values.
* `Toml.Item` — what a key stands for while a document is read.
* `Toml.define?`, `Toml.openTable?`, `Toml.openElement?` — the three ways in which a line of a
  document adds to what is there.
-/

namespace DepAtlas

/-- A value. Numbers with a fraction and moments keep their text. -/
inductive Toml where
  | text (s : String)
  | integer (n : Int)
  | float (text : String)
  | flag (b : Bool)
  | moment (text : String)
  | array (items : List Toml)
  | table (members : List (String × Toml))
deriving Repr, Inhabited

namespace Toml

/-- The value of a key of a table. -/
def member? : Toml → (key : String) → Option Toml
  | table members, key => (members.find? fun m => m.1 == key).map Prod.snd
  | _, _ => none

/-- How a table came to be. -/
inductive Origin where
  /-- it has a header of its own -/
  | header
  /-- a header below it needs it -/
  | implied
  /-- a dotted key leads through it -/
  | dotted
deriving DecidableEq, Repr

/-- What a key stands for while a document is read. -/
inductive Item where
  | value (v : Toml)
  | table (origin : Origin) (members : List (String × Item))
  /-- an array of tables, each with a header of its own -/
  | tables (elements : List (List (String × Item)))
deriving Inhabited

/-- The keys of a table with what they stand for. -/
abbrev Members := List (String × Item)

/-- What a key of a table stands for. -/
def itemOf? (members : Members) (key : String) : Option Item :=
  (members.find? fun m => m.1 == key).map Prod.snd

/-- The members with a new meaning of a key. -/
def setItem (key : String) (item : Item) : Members → Members
  | [] => [(key, item)]
  | (other, old) :: rest =>
    if other == key then (key, item) :: rest else (other, old) :: setItem key item rest

/-- Changes the table at the end of a path, and makes the tables on the way where they are missing.
The path leads through the last table of an array. A dotted key may not lead through a table with a
header of its own. -/
def descend? (dotted : Bool) (change : Origin → Members → Option Members) :
    (path : List String) → Origin → Members → Option Members
  | [], origin, members => change origin members
  | key :: rest, _, members =>
    match itemOf? members key with
    | none => do
      let origin := if dotted then Origin.dotted else .implied
      some (setItem key (.table origin (← descend? dotted change rest origin [])) members)
    | some (.value _) => none
    | some (.table origin inner) =>
      if dotted && origin = .header then none
      else do some (setItem key (.table origin (← descend? dotted change rest origin inner)) members)
    | some (.tables elements) => do
      let last ← descend? dotted change rest .header (elements.getLastD [])
      some (setItem key (.tables (elements.dropLast ++ [last])) members)

/-- Gives a value to a key in a table, behind the front of a dotted key. The front leads to a table
that only dotted keys define, and the key must be new. -/
def assign? (front : List String) (key : String) (v : Toml) : Origin → Members → Option Members :=
  descend? true
    (fun origin members =>
      if decide (origin = .dotted) == front.isEmpty then none
      else match itemOf? members key with
        | some _ => none
        | none => some (members ++ [(key, .value v)]))
    front

/-- Gives a value to a key in the table of a header. The key must be new, and so must be the tables
that a dotted key makes on its way, unless another dotted key has made them. -/
def define? (header front : List String) (key : String) (v : Toml) (root : Members) :
    Option Members :=
  descend? false (assign? front key v) header .header root

/-- Begins the table of a header: a new one, or one that so far was only implied. -/
def openTable? (front : List String) (key : String) (root : Members) : Option Members :=
  descend? false
    (fun _ members =>
      match itemOf? members key with
      | none => some (members ++ [(key, .table .header [])])
      | some (.table .implied inner) => some (setItem key (.table .header inner) members)
      | some _ => none)
    front .header root

/-- Begins the next table of an array. -/
def openElement? (front : List String) (key : String) (root : Members) : Option Members :=
  descend? false
    (fun _ members =>
      match itemOf? members key with
      | none => some (members ++ [(key, .tables [[]])])
      | some (.tables elements) => some (setItem key (.tables (elements ++ [[]])) members)
      | some _ => none)
    front .header root

mutual

/-- The value that an item stands for in the end. -/
def ofItem : Item → Toml
  | .value v => v
  | .table _ members => .table (ofMembers members)
  | .tables elements => .array (ofElements elements)

/-- The values of keys. -/
def ofMembers : Members → List (String × Toml)
  | [] => []
  | (key, item) :: rest => (key, ofItem item) :: ofMembers rest

/-- The tables of an array. -/
def ofElements : List Members → List Toml
  | [] => []
  | members :: rest => .table (ofMembers members) :: ofElements rest

end

end Toml

end DepAtlas
