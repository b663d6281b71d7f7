/-!
# `Runboard.Number.Binary64`: double-precision numbers, exactly

A double is a sign, a mantissa and a power of two, or an infinity, or not a number. Everything is
exact integer arithmetic: a quotient of naturals is rounded to the nearest double, a tie going to
the even mantissa, and a decimal numeral is such a quotient.

## Contents

* `Binary64`: the values;
* `roundQuotient`: rounding of a quotient to the nearest natural;
* `Binary64.ofRatio`, `Binary64.ofDecimal`, `Binary64.ofInteger`: the nearest double;
* `Binary64.add`, `Binary64.sub`: sums and differences;
* `Binary64.truncate?`, `Binary64.integer?`, `Binary64.isZero`: looking at a value.
-/

namespace Runboard

/-- A double-precision number. A finite one has the magnitude `mantissa * 2 ^ exponent`. -/
inductive Binary64 where
  | nan
  | infinite (negative : Bool)
  | finite (negative : Bool) (mantissa : Nat) (exponent : Int)
  deriving DecidableEq, Repr, Inhabited

/-! ## Rounding -/

/-- The natural nearest to `num / den`, an exact half going to the even neighbour. -/
def roundQuotient (num den : Nat) : Nat :=
  let q := num / den
  let r := num % den
  if den < 2 * r ∨ (2 * r = den ∧ q % 2 = 1) then q + 1 else q

/-- A quotient with a power of two taken out of it, as numerator and denominator. -/
def scaleByTwo (num den : Nat) (e : Int) : Nat × Nat :=
  if 0 ≤ e then (num, den * Nat.pow 2 e.toNat) else (num * Nat.pow 2 (-e).toNat, den)

namespace Binary64

/-- Zero with a sign. -/
def zero (negative : Bool) : Binary64 := .finite negative 0 (-1074)

/-- The exponent a quotient is rounded at: it leaves 53 bits before the point, or fewer where the
smallest exponent is reached. -/
def exponentFor (num den : Nat) : Int :=
  let e : Int := (num.log2 : Int) - den.log2 - 53
  let (n, d) := scaleByTwo num den e
  max (if 0x20000000000000 ≤ n / d then e + 1 else e) (-1074)

/-- The double nearest to `num / den`. -/
def ofRatio (negative : Bool) (num den : Nat) : Binary64 :=
  if num = 0 then zero negative
  else
    let e := exponentFor num den
    let (n, d) := scaleByTwo num den e
    let m := roundQuotient n d
    let (m, e) := if m = 0x20000000000000 then (0x10000000000000, e + 1) else (m, e)
    if 971 < e then .infinite negative else .finite negative m e

/-- The double nearest to `digits * 10 ^ exponent`. Magnitudes far outside the range of doubles are
settled by size alone. -/
def ofDecimal (negative : Bool) (digits : Nat) (exponent : Int) : Binary64 :=
  if digits = 0 then zero negative
  else if 400 < exponent then .infinite negative
  else if exponent + digits.log2 + 1 < -400 then zero negative
  else if 0 ≤ exponent then ofRatio negative (digits * Nat.pow 10 exponent.toNat) 1
  else ofRatio negative digits (Nat.pow 10 (-exponent).toNat)

/-- The double nearest to an integer. -/
def ofInteger (n : Int) : Binary64 := ofRatio (decide (n < 0)) n.natAbs 1

/-! ## Sums -/

/-- A number with the other sign. -/
def neg : Binary64 → Binary64
  | .nan => .nan
  | .infinite negative => .infinite !negative
  | .finite negative m e => .finite (!negative) m e

/-- A natural with a sign. -/
def signed (negative : Bool) (n : Nat) : Int :=
  if negative then -(n : Int) else n

/-- The double nearest to the sum of two doubles. A sum of zero is negative only if both numbers
are. -/
def add : Binary64 → Binary64 → Binary64
  | .nan, _ => .nan
  | _, .nan => .nan
  | .infinite n, .infinite k => if n = k then .infinite n else .nan
  | .infinite n, _ => .infinite n
  | _, .infinite k => .infinite k
  | .finite n m e, .finite k l f =>
    let low := min e f
    let sum := signed n (m * Nat.pow 2 (e - low).toNat) + signed k (l * Nat.pow 2 (f - low).toNat)
    if sum = 0 then zero (n && k)
    else
      let (num, den) := scaleByTwo sum.natAbs 1 (-low)
      ofRatio (decide (sum < 0)) num den

/-- The double nearest to the difference of two doubles. -/
def sub (x y : Binary64) : Binary64 := add x (neg y)

/-! ## Looking at a value -/

/-- Zero of either sign. -/
def isZero : Binary64 → Bool
  | .finite _ m _ => m == 0
  | _ => false

/-- A magnitude as numerator and denominator. -/
def ratio (mantissa : Nat) (exponent : Int) : Nat × Nat :=
  if 0 ≤ exponent then (mantissa * Nat.pow 2 exponent.toNat, 1)
  else (mantissa, Nat.pow 2 (-exponent).toNat)

/-- The integer part of a finite number. -/
def truncate? : Binary64 → Option Int
  | .finite negative m e => let (n, d) := ratio m e; some (signed negative (n / d))
  | _ => none

/-- The integer that a finite number equals, if it equals one. -/
def integer? : Binary64 → Option Int
  | .finite negative m e =>
    let (n, d) := ratio m e
    if n % d = 0 then some (signed negative (n / d)) else none
  | _ => none

end Binary64

end Runboard
