import Runboard.Number.Binary64
import Runboard.Number.Numeral

/-!
# `Runboard.Number.Real`: decimal numbers in text

A decimal number has digits of any script on one side of a point at least, and perhaps an exponent.
Single low lines may stand between digits, a sign before the number, and blanks around it. Three words
stand for numbers that have no digits, in either case.

## Contents

* `Numeral.spanDigits`: the digits at the start of a text;
* `Numeral.exponent?`: the exponent behind the digits;
* `Numeral.real?`: the double of a text.
-/

namespace Runboard.Numeral

open Runboard.Text

/-- Splits off the digits at the start of a text, with the low lines between them. -/
def spanDigits : List Char → List Char × List Char
  | [] => ([], [])
  | [c] => if (decimalValue? c).isSome then ([c], []) else ([], [c])
  | c :: d :: rest =>
    if (decimalValue? c).isNone then ([], c :: d :: rest)
    else
      match spanDigits (d :: rest) with
      | ([], rest') =>
        if d = '_' then
          match spanDigits rest with
          | ([], _) => ([c], rest')
          | (ds, rest') => (c :: d :: ds, rest')
        else ([c], rest')
      | (ds, rest') => (c :: ds, rest')

/-- The values of digits with low lines between them. -/
def digitValues (cs : List Char) : List Nat := cs.filterMap decimalValue?

/-- The exponent behind the digits of a number; where there is none, zero. -/
def exponent? : List Char → Option Int
  | [] => some 0
  | e :: rest =>
    let (negative, rest) := splitSign rest
    let (digits, rest) := spanDigits rest
    if (e = 'e' ∨ e = 'E') ∧ !digits.isEmpty ∧ rest.isEmpty then
      some (Binary64.signed negative (ofDigits 10 (digitValues digits)))
    else none

/-- The double of a number that has digits. -/
def ofDigits? (negative : Bool) (cs : List Char) : Option Binary64 :=
  let (whole, rest) := spanDigits cs
  let (fraction, rest) := match rest with | '.' :: rest => spanDigits rest | rest => ([], rest)
  let digits := digitValues (whole ++ fraction)
  if digits.isEmpty then none
  else
    (exponent? rest).map fun e =>
      .ofDecimal negative (ofDigits 10 digits) (e - (digitValues fraction).length)

/-- The double of a text, if it writes a number. -/
def real? (s : String) : Option Binary64 :=
  let (negative, cs) := splitSign (trimChars isBlank s.toList)
  match (String.ofList cs).toLower with
  | "inf" => some (.infinite negative)
  | "infinity" => some (.infinite negative)
  | "nan" => some .nan
  | _ => ofDigits? negative cs

end Runboard.Numeral
