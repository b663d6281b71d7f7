import Runboard.Number.Shortest

/-!
# `Runboard.Number.Places`: doubles to a number of places

A double is written with a fixed number of digits after the point, as a power of ten with a fixed
number of digits, or in whichever of the two suits its size. All three round the exact value once,
a tie going to the even digit. The texts carry a minus sign and no other; with `keepPoint` the point
stays where no digit follows it, and zeros at the end are kept.

## Contents

* `Binary64.fixedPlaces`, `Binary64.powerPlaces`, `Binary64.generalPlaces`.
-/

namespace Runboard.Binary64

/-- The digits of a number, filled up with zeros at the front. -/
def digitsFilled (width n : Nat) : List Char :=
  let ds := (toString n).toList
  List.replicate (width - ds.length) '0' ++ ds

/-- Digits with a point before the last `places` of them. -/
def pointed (places : Nat) (keepPoint : Bool) (n : Nat) : List Char :=
  let ds := digitsFilled (places + 1) n
  let whole := ds.take (ds.length - places)
  let fraction := ds.drop (ds.length - places)
  whole ++ if fraction.isEmpty && !keepPoint then [] else '.' :: fraction

/-- Digits without the zeros at their end, and without a point at their end. -/
def withoutZeros (cs : List Char) : List Char :=
  if cs.contains '.' then
    let r := cs.reverse.dropWhile (· == '0')
    (match r with
      | '.' :: r => r
      | r => r).reverse
  else cs

/-- The digits of a magnitude rounded to `places + 1` digits, with the power of ten of the first. -/
def leadingDigits (mantissa : Nat) (exponent : Int) (places : Nat) : Nat × Int :=
  if mantissa = 0 then (0, 0)
  else
    let (num, den) := ratio mantissa exponent
    let first := firstPlace num den
    let (n, d) := scaleByTen num den (first - places)
    let q := roundQuotient n d
    if q = Nat.pow 10 (places + 1) then (Nat.pow 10 places, first + 1) else (q, first)

/-- A magnitude with a fixed number of places. -/
def fixedDigits (mantissa : Nat) (exponent : Int) (places : Nat) (keepPoint : Bool) : List Char :=
  let (num, den) := ratio mantissa exponent
  pointed places keepPoint (roundQuotient (num * Nat.pow 10 places) den)

/-- A magnitude as a power of ten with a fixed number of places. -/
def powerDigits (mantissa : Nat) (exponent : Int) (places : Nat) (keepPoint : Bool) : List Char :=
  let (q, e) := leadingDigits mantissa exponent places
  pointed places keepPoint q ++ (exponentText e).toList

/-- More digits than any double has before the zeros at its end. -/
def mostDigits : Nat := 1100

/-- A magnitude with a number of digits, positionally unless its exponent is below -4 or not below
that number. Digits past the last one of any double are zeros, which count only where they are
kept. -/
def generalDigits (mantissa : Nat) (exponent : Int) (digits : Nat) (keepPoint : Bool) :
    List Char :=
  let digits := max (if keepPoint then digits else min digits mostDigits) 1
  let (q, e) := leadingDigits mantissa exponent (digits - 1)
  let trim (cs : List Char) : List Char := if keepPoint then cs else withoutZeros cs
  if -4 ≤ e ∧ e < digits then
    trim (fixedDigits mantissa exponent (digits - 1 - e).toNat keepPoint)
  else trim (pointed (digits - 1) keepPoint q) ++ (exponentText e).toList

/-- The text of a double whose magnitude is written by a rule of its own. -/
def withDigits (write : Nat → Int → List Char) : Binary64 → String
  | .nan => "nan"
  | .infinite negative => if negative then "-inf" else "inf"
  | .finite negative m e => String.ofList ((if negative then ['-'] else []) ++ write m e)

/-- The text with a fixed number of places. -/
def fixedPlaces (x : Binary64) (places : Nat) (keepPoint : Bool) : String :=
  x.withDigits fun m e => fixedDigits m e places keepPoint

/-- The text as a power of ten with a fixed number of places. -/
def powerPlaces (x : Binary64) (places : Nat) (keepPoint : Bool) : String :=
  x.withDigits fun m e => powerDigits m e places keepPoint

/-- The text with a number of digits in the notation that suits its size. -/
def generalPlaces (x : Binary64) (digits : Nat) (keepPoint : Bool) : String :=
  x.withDigits fun m e => generalDigits m e digits keepPoint

end Runboard.Binary64
