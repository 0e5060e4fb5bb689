import DepAtlas.Text.Split

set_option autoImplicit false

/-!
# Names in a hierarchy of namespaces

An entity is known by its fully qualified name, whose segments are divided by a separator such
as `::`. The separator is a setting, so every function takes it.

## Main definitions

* `Name.segments` — the segments of a name.
* `Name.truncate` — a name cut down to its first segments.
* `Name.namespace?` — the namespace around a name.
* `Name.root` — what stands before the first separator.
* `Name.isWithin` — whether a name is a namespace or lies below it.
-/

namespace DepAtlas.Name

/-- The separator between segments unless a setting says otherwise. -/
def defaultSeparator : String := "::"

/-- The segments of a name: the pieces between separators, without the empty ones. So separators at
the ends, and repeated ones, do not make segments. -/
def segments (name separator : String) : List String :=
  ((Text.splitOn separator.toList name.toList).filter fun piece => !piece.isEmpty).map
    String.ofList

/-- Segments put back together with a separator between neighbours. -/
def join (segments : List String) (separator : String) : String :=
  String.ofList (Text.joinWith separator.toList (segments.map String.toList))

/-- The name made of the first `depth` segments. A name with fewer of them is written anew as well:
its empty pieces go. -/
def truncate (name separator : String) (depth : Nat) : String :=
  join ((segments name separator).take depth) separator

/-- The enclosing namespace: what stands before the last separator, unless nothing does. Pieces that
are empty count here, so a separator at the end of a name is its last one. -/
def namespace? (name separator : String) : Option String :=
  match Text.lastCut? separator.toList name.toList with
  -- nothing in front of the last separator is no namespace
  | none | some ([], _) => none
  | some (before, _) => some (String.ofList before)

/-- What stands before the first separator; the whole name if there is none. A name that begins with
a separator has the empty root. -/
def root (name separator : String) : String :=
  String.ofList ((Text.splitOn separator.toList name.toList).headD name.toList)

/-- Whether `name` is the namespace or lies somewhere below it. Separators at the end of the
namespace do not count, and everything is within the empty namespace. A name that merely begins with
the same characters is not within. -/
def isWithin (name «namespace» separator : String) : Bool :=
  let sep := separator.toList
  let around := Text.dropSuffixes sep «namespace».toList
  around.isEmpty || name.toList == around ||
    match Text.afterPrefix? around name.toList with
    | some rest => sep.isPrefixOf rest
    | none => false

end DepAtlas.Name
