import DepAtlas.Graph.Builder
import DepAtlas.Graph.Reading
import DepAtlas.Json.Reader

set_option autoImplicit false

/-!
# Call traces

A trace is a JSON document that lists observed calls, either as a bare array or as the member
`calls` of an object. A call is an object, or an array of the fields in their order.

## Main definitions

* `Trace.Call` — one observed call.
* `Trace.calls?` — the calls that a document lists.
* `Trace.graph` — the graph of a list of calls.
* `Trace.read?` — the graph of a document.
-/

namespace DepAtlas.Trace

/-- One call, or one use, seen `count` times. A kind is a word that need not name one. -/
structure Call where
  caller : String
  callee : String
  callerKind : Option String := none
  calleeKind : Option String := none
  count : Nat := 1
deriving DecidableEq, Repr, Inhabited

/-! ## Fields -/

/-- A text. -/
def text? : Json → Option String
  | .string s => some s
  | _ => none

/-- A text, or nothing said as `null`. -/
def optionalText? : Json → Option (Option String)
  | .null => some none
  | .string s => some (some s)
  | _ => none

/-- A count. -/
def count? : Json → Option Nat
  | .natural n => some n
  | _ => none

/-- The value of a member, or `absent` if no member has the key. A key that occurs twice is an
error. -/
def member? {α : Type} (members : List (String × Json)) (key : String)
    (read : Json → Option α) (absent : Option α) : Option α :=
  match members.filter fun m => m.1 == key with
  | [] => absent
  | [(_, value)] => read value
  | _ => none

/-- A call written as an object or as an array of its fields. In an array the fields at the end may
be left out, but for the two names; in an object all but these may. -/
def call? : Json → Option Call
  | .object members => do
    let caller ← member? members "caller" text? none
    let callee ← member? members "callee" text? none
    let callerKind ← member? members "caller_kind" optionalText? (some none)
    let calleeKind ← member? members "callee_kind" optionalText? (some none)
    let count ← member? members "count" count? (some 1)
    some ⟨caller, callee, callerKind, calleeKind, count⟩
  | .array [caller, callee] => do
    some ⟨← text? caller, ← text? callee, none, none, 1⟩
  | .array [caller, callee, callerKind] => do
    some ⟨← text? caller, ← text? callee, ← optionalText? callerKind, none, 1⟩
  | .array [caller, callee, callerKind, calleeKind] => do
    some ⟨← text? caller, ← text? callee, ← optionalText? callerKind,
      ← optionalText? calleeKind, 1⟩
  | .array [caller, callee, callerKind, calleeKind, count] => do
    some ⟨← text? caller, ← text? callee, ← optionalText? callerKind,
      ← optionalText? calleeKind, ← count? count⟩
  | _ => none

/-- The calls of an array. -/
def callList? : Json → Option (List Call)
  | .array items => items.mapM call?
  | _ => none

/-- The calls that a document lists. -/
def calls? : Json → Option (List Call)
  -- an object is never a list of calls itself, also without this member
  | .object members => member? members "calls" callList? none
  | document => callList? document

/-! ## Graphs -/

/-- The kind that an optional word names; `unknown` for no word and for one that names none, which
is no error. -/
def kindOf (word : Option String) : Kind :=
  match word with
  | some word => Kind.readOrUnknown word
  | none => .unknown

/-- The dependency that a call shows. -/
def Call.fact (c : Call) : Fact :=
  ⟨⟨c.caller, kindOf c.callerKind⟩, ⟨c.callee, kindOf c.calleeKind⟩⟩

/-- The graph of a list of calls. A call with a blank end is left out, and one with a count of zero
only makes its ends known. -/
def graph (calls : List Call) : Graph :=
  (calls.foldl (fun b c => b.addWeighted c.fact c.count) Builder.empty).graph

/-- The graph of a document that lists calls. -/
def read? (document : String) : Option Graph := do
  let json ← Json.read? document
  let calls ← calls? json
  some (graph calls)

end DepAtlas.Trace
