import Runboard.Text.Half
import Runboard.Text.Printable

/-!
# `Runboard.Text.Quoted`: text between quotes

A quoted text stands between apostrophes, or between double quotes when it holds an apostrophe and
no double quote. Inside, the backslash and the chosen mark are preceded by a backslash; a line feed,
tab and carriage return have letters of their own; every other character that is not printable is
written by its code point, in two, four or eight hexadecimal digits, and half a character by its unit.

## Contents

* `hexDigits`: a number in base sixteen, filled up with zeros;
* `quoteMark`: the mark a text is quoted with;
* `quote`: the quoted text.
-/

namespace Runboard.Text

/-- The digit of a value below sixteen, in lower case. -/
def hexDigit (n : Nat) : Char :=
  if n < 10 then Char.ofNat (0x30 + n) else Char.ofNat (0x57 + n)

/-- The lowest `width` digits of `n` in base sixteen, the highest first. -/
def hexDigits : (width : Nat) → (n : Nat) → List Char
  | 0, _ => []
  | width + 1, n => hexDigits width (n / 16) ++ [hexDigit (n % 16)]

theorem length_hexDigits (width n : Nat) : (hexDigits width n).length = width := by
  induction width generalizing n with
  | zero => rfl
  | succ w ih => simp [hexDigits, ih]

/-- The mark a text is quoted with. -/
def quoteMark (cs : List Char) : Char :=
  if cs.contains '\'' && !cs.contains '"' then '"' else '\''

/-- A character inside a text quoted with `mark`. -/
def quotedChar (mark c : Char) : List Char :=
  let n := c.toNat
  if c == '\\' || c == mark then ['\\', c]
  else if c == '\n' then ['\\', 'n']
  else if c == '\t' then ['\\', 't']
  else if c == '\r' then ['\\', 'r']
  else if let some unit := half? c then '\\' :: 'u' :: hexDigits 4 unit
  else if isPrintable c then [c]
  else if n < 0x100 then '\\' :: 'x' :: hexDigits 2 n
  else if n < 0x10000 then '\\' :: 'u' :: hexDigits 4 n
  else '\\' :: 'U' :: hexDigits 8 n

/-- A text between quotes. -/
def quote (s : String) : String :=
  let cs := s.toList
  let mark := quoteMark cs
  String.ofList (mark :: (cs.flatMap (quotedChar mark) ++ [mark]))

end Runboard.Text
