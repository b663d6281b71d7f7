import Runboard.Json.Basic
import Runboard.Text.Quoted

/-!
# `Runboard.Json.Printer`: writing values

Values are written in printable ASCII alone: a character outside U+0020 to U+007E is written by its
code units, in four lower-case hexadecimal digits each. Two layouts are in use, which differ in the
blank after a comma and after a colon.

## Contents

* `codeUnits`: the code units of a character;
* `escapeChar`, `stringLiteral`: a string between quotes;
* `Layout`, `Json.render`: a value in a layout.
-/

namespace Runboard.Json

open Runboard.Text

/-! ## Strings -/

/-- The code units of a character: one, or two halves for a character above U+FFFF. -/
def codeUnits (c : Char) : List Nat :=
  let n := c.toNat
  if let some unit := half? c then [unit]
  else if n < 0x10000 then [n]
  else [0xd800 + (n - 0x10000) / 0x400, 0xdc00 + (n - 0x10000) % 0x400]

/-- A code unit as an escape. -/
def unitEscape (n : Nat) : List Char := '\\' :: 'u' :: hexDigits 4 n

/-- A character inside a string. -/
def escapeChar (c : Char) : List Char :=
  if c = '"' then ['\\', '"']
  else if c = '\\' then ['\\', '\\']
  else if c = '\n' then ['\\', 'n']
  else if c = '\r' then ['\\', 'r']
  else if c = '\t' then ['\\', 't']
  else if c = '\x0c' then ['\\', 'f']
  else if c = '\x08' then ['\\', 'b']
  else if 0x20 ≤ c.toNat ∧ c.toNat ≤ 0x7e then [c]
  else (codeUnits c).flatMap unitEscape

/-- A string between quotes. -/
def stringLiteral (s : String) : List Char :=
  '"' :: (s.toList.flatMap escapeChar ++ ['"'])

/-! ## Values -/

/-- What stands between items and between a name and its value. -/
structure Layout where
  comma : List Char
  colon : List Char
  deriving DecidableEq, Repr

/-- Without blanks. -/
def Layout.compact : Layout := ⟨[','], [':']⟩

/-- With a blank after each comma and colon. -/
def Layout.spaced : Layout := ⟨[',', ' '], [':', ' ']⟩

/-- A double: infinities and not-a-number have words of their own. -/
def doubleText : Binary64 → List Char
  | .nan => "NaN".toList
  | .infinite negative => if negative then "-Infinity".toList else "Infinity".toList
  | x => x.text.toList

mutual

/-- The text of a value. -/
def renderChars (l : Layout) : Json → List Char
  | .null => "null".toList
  | .bool b => if b then "true".toList else "false".toList
  | .int n => (toString n).toList
  | .float x => doubleText x
  | .str s => stringLiteral s
  | .arr items => '[' :: (renderItems l items ++ [']'])
  | .obj fields => '{' :: (renderFields l fields ++ ['}'])

/-- The items of a list. -/
def renderItems (l : Layout) : List Json → List Char
  | [] => []
  | [v] => renderChars l v
  | v :: rest => renderChars l v ++ l.comma ++ renderItems l rest

/-- The fields of an object. -/
def renderFields (l : Layout) : List (String × Json) → List Char
  | [] => []
  | [(name, v)] => stringLiteral name ++ l.colon ++ renderChars l v
  | (name, v) :: rest =>
    stringLiteral name ++ l.colon ++ renderChars l v ++ l.comma ++ renderFields l rest

end

/-- The text of a value in a layout. -/
def render (l : Layout) (v : Json) : String := String.ofList (renderChars l v)

end Runboard.Json
