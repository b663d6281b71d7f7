import Runboard.Number.Binary64

/-!
# `Runboard.Number.Shortest`: the text of a double

A finite double is written with the fewest decimal digits that read back as the same double; of
several such decimals the nearest is taken. For a number of digits it is enough to try the two
neighbours of the value on that decimal grid. Exponents from -4 to 15 are written positionally,
always with a digit after the point; the others as a power of ten with at least two digits.

## Contents

* `Decimal`: digits and a power of ten;
* `Binary64.neighbour?`, `Binary64.shortest`: the choice of the digits;
* `Binary64.text`: the text;
* `Binary64.digitsValue`, `Binary64.signedDigits`, `Binary64.ofParts`: numbers of runs of digits.
-/

namespace Runboard

/-- The number `digits * 10 ^ exponent`. -/
structure Decimal where
  digits : Nat
  exponent : Int
  deriving DecidableEq, Repr

/-- A decimal without the zeros at its end. -/
def Decimal.trimmed (fuel : Nat) (d : Decimal) : Decimal :=
  match fuel with
  | 0 => d
  | fuel + 1 =>
    if d.digits % 10 = 0 then Decimal.trimmed fuel ⟨d.digits / 10, d.exponent + 1⟩ else d

namespace Binary64

/-! ## The digits -/

/-- A quotient with a power of ten taken out of it. -/
def scaleByTen (num den : Nat) (e : Int) : Nat × Nat :=
  if 0 ≤ e then (num, den * Nat.pow 10 e.toNat) else (num * Nat.pow 10 (-e).toNat, den)

/-- The place of the first decimal digit: the greatest power of ten that is no larger. -/
def firstPlace (num den : Nat) : Int :=
  let guess := (((num.log2 : Int) - den.log2) * 30103).fdiv 100000
  let reaches (t : Int) : Bool := let (n, d) := scaleByTen num den t; d ≤ n
  if reaches (guess + 1) then guess + 1
  else if reaches guess then guess
  else guess - 1

/-- The neighbour of `num / den` on the grid of the multiples of `10 ^ place` that reads back as
`x`, the nearer one where both do. -/
def neighbour? (x : Binary64) (negative : Bool) (num den : Nat) (place : Int) : Option Decimal :=
  let (n, d) := scaleByTen num den place
  let low := n / d
  let readsBack (k : Nat) : Bool := ofDecimal negative k place == x
  match readsBack low, readsBack (low + 1) with
  | true, true => some ⟨roundQuotient n d, place⟩
  | true, false => some ⟨low, place⟩
  | false, true => some ⟨low + 1, place⟩
  | false, false => none

/-- The shortest decimal that reads back as a finite number other than zero. -/
def shortest (negative : Bool) (mantissa : Nat) (exponent : Int) : Decimal :=
  let (num, den) := ratio mantissa exponent
  let first := firstPlace num den
  let x := Binary64.finite negative mantissa exponent
  let found := (List.range 17).findSome? fun (k : Nat) => neighbour? x negative num den (first - k)
  match found with
  | some d => d.trimmed 20
  | none => ⟨num / den, 0⟩

/-! ## The text -/

/-- A decimal exponent, with its sign and at least two digits. -/
def exponentText (e : Int) : String :=
  let digits := toString e.natAbs
  "e" ++ (if e < 0 then "-" else "+") ++ (if digits.length < 2 then "0" else "") ++ digits

/-- The text of a decimal whose digits do not end in zero. -/
def decimalText (d : Decimal) : String :=
  let digits := (toString d.digits).toList
  let e : Int := d.exponent + digits.length - 1
  if -4 ≤ e ∧ e < 16 then
    if 0 ≤ e then
      let whole := digits.take (e.toNat + 1)
      let zeros := List.replicate (e.toNat + 1 - digits.length) '0'
      let rest := digits.drop (e.toNat + 1)
      String.ofList (whole ++ zeros ++ '.' :: (if rest.isEmpty then ['0'] else rest))
    else
      String.ofList ('0' :: '.' :: (List.replicate ((-e).toNat - 1) '0' ++ digits))
  else
    let rest := digits.drop 1
    String.ofList (digits.take 1 ++ if rest.isEmpty then [] else '.' :: rest) ++ exponentText e

/-- The text of a double. -/
def text : Binary64 → String
  | .nan => "nan"
  | .infinite negative => if negative then "-inf" else "inf"
  | .finite negative m e =>
    (if negative then "-" else "") ++ if m = 0 then "0.0" else decimalText (shortest negative m e)

/-! ## Reading -/

/-- The value of a run of ASCII digits. -/
def digitsValue (cs : List Char) : Nat :=
  cs.foldl (fun n c => n * 10 + (c.toNat - 48)) 0

/-- The double of a numeral split in its parts; `exponent` is a run of digits with a sign. -/
def ofParts (negative : Bool) (whole fraction : List Char) (exponent : Int) : Binary64 :=
  ofDecimal negative (digitsValue (whole ++ fraction)) (exponent - fraction.length)

/-- An integer from a run of digits with an optional sign. -/
def signedDigits : List Char → Int
  | '-' :: cs => -(digitsValue cs : Int)
  | '+' :: cs => digitsValue cs
  | cs => digitsValue cs

end Binary64

end Runboard
