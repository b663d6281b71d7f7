import Runboard.Json.Basic
import Runboard.Text.Quoted

/-!
# `Runboard.Json.Literal`: values inside messages

Messages show a value as a literal: `None`, `True` and `False`, numbers, texts between quotes, lists
between brackets and objects between braces. The display of a text is the text itself; any other
value is displayed as its literal.

## Contents

* `Json.literal`: the literal of a value;
* `Json.display`: the display of a value, with `Json.display_str`.
-/

namespace Runboard.Json

open Runboard.Text

mutual

/-- The literal of a value. -/
def literal : Json → String
  | .null => "None"
  | .bool b => if b then "True" else "False"
  | .int n => toString n
  | .float x => x.text
  | .str s => quote s
  | .arr items => "[" ++ ", ".intercalate (literalItems items) ++ "]"
  | .obj fields => "\x7b" ++ ", ".intercalate (literalFields fields) ++ "\x7d"

/-- The literals of some items. -/
def literalItems : List Json → List String
  | [] => []
  | v :: rest => literal v :: literalItems rest

/-- The literals of some fields. -/
def literalFields : List (String × Json) → List String
  | [] => []
  | (name, v) :: rest => (quote name ++ ": " ++ literal v) :: literalFields rest

end

/-- The display of a value. -/
def display : Json → String
  | .str s => s
  | v => literal v

@[simp] theorem display_str (s : String) : (Json.str s).display = s := rfl

end Runboard.Json
