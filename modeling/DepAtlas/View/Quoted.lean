import DepAtlas.Text.Split

set_option autoImplicit false

/-!
# Names in quotes

## Main definitions

* `Quoted.escape` — a text with a backslash before every quote and every backslash.
* `Quoted.quote` — a text in quotes, as the diagram languages read it.
-/

namespace DepAtlas.Quoted

/-- A text with a backslash before every quote and every backslash. The backslashes of the text come
first, so those that are put before quotes are not doubled. -/
def escape (s : List Char) : List Char :=
  Text.replaceAll ['"'] ['\\', '"'] (Text.replaceAll ['\\'] ['\\', '\\'] s)

/-- A name in quotes. -/
def quote (name : String) : String :=
  String.ofList ('"' :: escape name.toList ++ ['"'])

end DepAtlas.Quoted
