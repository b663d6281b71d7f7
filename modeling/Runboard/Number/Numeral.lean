import Runboard.Text.Blank
import Runboard.Text.Digits
import Runboard.Text.Quoted

/-!
# `Runboard.Number.Numeral`: integers in text

Integers are read in two ways. The *lenient* reading takes decimal digits of any script, single low
lines between digits, a sign, and blanks around the numeral; it gives up on more than 4300 digits.
The same rules in base sixteen add an optional mark `0x`. The *plain* reading takes ASCII digits
only. A text that is no such numeral is stripped of what may surround one, zeros and low lines in
front and a fraction of zeros among it, and read once more.

## Contents

* `separatedDigits?`: digits with single low lines between them;
* `Numeral.Fault`, `Numeral.lenient`, `Numeral.hexadecimal?`: the lenient reading in base ten and
  sixteen;
* `Numeral.bare`, `Numeral.stripped?`, `Numeral.plain`: the plain reading;
* `separatedDigits?_lt`: every digit read is a value of the digit table.
-/

namespace Runboard

open Runboard.Text

/-- The digits of a numeral in which single low lines may stand between digits. -/
def separatedDigits? (value? : Char → Option Nat) : List Char → Option (List Nat)
  | [] => none
  | [c] => (value? c).map ([·])
  | c :: d :: rest =>
    match value? c with
    | none => none
    | some v =>
      if d = '_' then (separatedDigits? value? rest).map (v :: ·)
      else (separatedDigits? value? (d :: rest)).map (v :: ·)

/-- The number with the given digits, the highest first. -/
def ofDigits (base : Nat) (ds : List Nat) : Nat :=
  ds.foldl (fun n d => n * base + d) 0

/-- Splits a sign off. -/
def splitSign : List Char → Bool × List Char
  | '-' :: cs => (true, cs)
  | '+' :: cs => (false, cs)
  | cs => (false, cs)

namespace Numeral

/-- The most digits a numeral may have. -/
def maxDigits : Nat := 4300

/-- Why a text is no integer. -/
inductive Fault where
  | malformed (text : String)
  | tooLong (digits : Nat)
  deriving DecidableEq, Repr

/-- How a fault is reported. A long text is cut. -/
def Fault.message : Fault → String
  | .malformed text =>
    "invalid literal for int() with base 10: " ++ String.ofList ((quote text).toList.take 200)
  | .tooLong digits =>
    "Exceeds the limit (" ++ toString maxDigits ++ " digits) for integer string conversion: " ++
      "value has " ++ toString digits ++
      " digits; use sys.set_int_max_str_digits() to increase the limit"

/-- An integer with blanks around it, decimal digits of any script and low lines. -/
def lenient (s : String) : Except Fault Int :=
  let (negative, cs) := splitSign (trimChars isBlank s.toList)
  match separatedDigits? decimalValue? cs with
  | none => .error (.malformed s)
  | some ds =>
    if maxDigits < ds.length then .error (.tooLong ds.length)
    else .ok (if negative then -(ofDigits 10 ds : Int) else ofDigits 10 ds)

/-- Splits the mark of base sixteen off: a digit zero, an `x` and at most one low line. -/
def dropHexMark : List Char → List Char
  | z :: x :: rest =>
    if decimalValue? z = some 0 ∧ (x = 'x' ∨ x = 'X') then
      match rest with
      | '_' :: rest => rest
      | rest => rest
    else z :: x :: rest
  | cs => cs

/-- A natural in base sixteen, with blanks around it and an optional plus sign. -/
def hexadecimal? (cs : List Char) : Option Nat :=
  match trimChars isBlank cs with
  | '+' :: rest => (separatedDigits? hexValue? (dropHexMark rest)).map (ofDigits 16)
  | rest => (separatedDigits? hexValue? (dropHexMark rest)).map (ofDigits 16)

/-- The value of an ASCII digit. -/
def asciiDigit? (c : Char) : Option Nat :=
  if '0' ≤ c ∧ c ≤ '9' then some (c.toNat - 48) else none

/-- What the plain reading says of a text. -/
inductive Plain where
  | value (n : Int)
  | tooLong
  | malformed
  deriving DecidableEq, Repr

/-- Splits a minus sign off. -/
def splitMinus : List Char → Bool × List Char
  | '-' :: rest => (true, rest)
  | rest => (false, rest)

/-- An integer in ASCII digits alone, without needless zeros, after a minus sign if it has one. -/
def bare (cs : List Char) : Plain :=
  let (negative, unsigned) := splitMinus cs
  let digits := unsigned.takeWhile Char.isDigit
  let n : Int := ofDigits 10 (digits.filterMap asciiDigit?)
  if digits.isEmpty || (digits.head? == some '0' && digits != ['0']) then .malformed
  else if maxDigits < digits.length then .tooLong
  else if unsigned != digits then .malformed
  else .value (if negative then -n else n)

/-- What follows a zero at the beginning of a numeral, when further zeros and low lines are left out:
the numeral from its first other digit or its sign, or from the character before a point. If there is
nothing else, the last character is left. -/
def afterZeros : (previous : Char) → List Char → Option (List Char)
  | previous, [] => some [previous]
  | previous, c :: rest =>
    if c = '0' ∨ c = '_' then afterZeros c rest
    else if c.isDigit ∨ c = '-' then some (c :: rest)
    else if c = '.' then some (previous :: c :: rest)
    else none

/-- A numeral without zeros and low lines in front. It begins with a digit or a minus sign. -/
def withoutZeros? : List Char → Option (List Char)
  | [] => none
  | c :: rest =>
    if c = '0' then afterZeros c rest
    else if c.isDigit ∨ c = '-' then some (c :: rest)
    else none

/-- A numeral without a point and zeros at its end. -/
def withoutFraction (cs : List Char) : List Char :=
  let zeros := cs.reverse.takeWhile (· == '0')
  match zeros, cs.reverse.dropWhile (· == '0') with
  | _ :: _, '.' :: rest => rest.reverse
  | _, _ => cs

/-- Whether two low lines stand side by side. -/
def hasDoubleLine : List Char → Bool
  | '_' :: '_' :: _ => true
  | _ :: rest => hasDoubleLine rest
  | [] => false

/-- A numeral without its low lines, if they are single and inside. -/
def withoutLines (cs : List Char) : List Char :=
  if cs.head? == some '_' || cs.getLast? == some '_' || hasDoubleLine cs then cs
  else cs.filter (· != '_')

/-- Splits the sign of a numeral off, if no second sign follows it: whether it is a minus, and the
rest. -/
def oneSign? : List Char → Option (Bool × List Char)
  | '+' :: '-' :: _ => none
  | '-' :: '-' :: _ => none
  | '-' :: '+' :: _ => none
  | '+' :: rest => some (false, rest)
  | cs => some (splitMinus cs)

/-- A numeral with all that the plain reading allows taken away: blanks around it, a plus sign, zeros
and low lines in front of the digits, a fraction of zeros, and single low lines inside. -/
def stripped? (cs : List Char) : Option (List Char) :=
  (oneSign? (trimChars isBlank cs)).bind fun (negative, unsigned) =>
    (withoutZeros? unsigned).map fun cs =>
      (if negative then ['-'] else []) ++ withoutLines (withoutFraction cs)

/-- An integer in ASCII digits, as it is or after stripping. Only a text that is a numeral as it is
can be too long. -/
def plain (s : String) : Plain :=
  match bare s.toList with
  | .malformed =>
    match (stripped? s.toList).map bare with
    | some (.value n) => .value n
    | _ => .malformed
  | found => found

end Numeral

/-! ## Small facts -/

theorem separatedDigits?_lt {value? : Char → Option Nat} {b : Nat}
    (hb : ∀ c v, value? c = some v → v < b) {cs : List Char} {ds : List Nat}
    (h : separatedDigits? value? cs = some ds) : ∀ d ∈ ds, d < b := by
  fun_induction separatedDigits? value? cs generalizing ds with
  | case1 => simp at h
  | case2 c =>
    obtain ⟨v, hv, rfl⟩ := Option.map_eq_some_iff.1 h
    simpa using hb c v hv
  | case3 => simp at h
  | case4 c rest v hv ih =>
    obtain ⟨ds, hds, rfl⟩ := Option.map_eq_some_iff.1 h
    simpa using ⟨hb c v hv, ih hds⟩
  | case5 c d rest v hv hd ih =>
    obtain ⟨ds, hds, rfl⟩ := Option.map_eq_some_iff.1 h
    simpa using ⟨hb c v hv, ih hds⟩

end Runboard
