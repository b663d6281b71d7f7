import Runboard.Number.Numeral
import Runboard.Stats.Amount
import Runboard.Text.Utf8

/-!
# `Runboard.Store.Bind`: values bound to columns

Values are bound as parameters of an `INSERT`. A column of `TEXT` affinity, such as a `VARCHAR`, stores a
number by its digits and a truth value as zero or one. A column of `INTEGER` or `NUMERIC` affinity stores
a text that writes a number as that number, as `SQLite` does: an `INTEGER` if it fits 64 bits, else a
`REAL`. A list or an object is no parameter, an integer of more than 64 bits overflows, and a text with a
lone surrogate has no UTF-8 bytes.

## Contents

* `BindFault`, `BindFault.message`: why a value cannot be bound;
* `Bind.text`: values in columns of `TEXT` affinity;
* `Bind.written`, `Bind.count`: texts and other values in columns of `INTEGER` affinity;
* `Bind.isNumeralChar`, `Bind.written_of_letter`: texts that stay texts there.
-/

namespace Runboard

open Runboard.Text

/-- Why a value cannot be bound. -/
inductive BindFault where
  /-- An integer does not fit 64 bits. -/
  | tooLarge
  /-- A list or an object stands for a single value. -/
  | unbound
  | unencodable (fault : EncodeFault)
  deriving DecidableEq, Repr

namespace BindFault

/-- Whether a fault is one of the database layer. -/
def isDatabaseError : BindFault → Bool
  | .unbound => true
  | _ => false

/-- How a fault is reported that is not one of the database layer; reports of that layer are not
told. -/
def message : BindFault → String
  | .tooLarge => "Python int too large to convert to SQLite INTEGER"
  | .unencodable fault => fault.message
  | .unbound => ""

end BindFault

/-- Whether an integer fits 64 bits. -/
def fitsWord (n : Int) : Bool := -0x8000000000000000 ≤ n && n < 0x8000000000000000

theorem fitsWord_of_nonneg {n : Int} (low : 0 ≤ n) (high : n < 0x8000000000000000) :
    fitsWord n = true := by
  have negative : -0x8000000000000000 ≤ n := by omega
  rw [fitsWord, decide_eq_true negative, decide_eq_true high, Bool.and_self]

namespace Bind

/-! ## Texts -/

/-- A text that has bytes. -/
def ofText (s : String) : Except BindFault String :=
  match encodeFault? s.toList with
  | some fault => .error (.unencodable fault)
  | none => .ok s

/-- A value in a column of `TEXT` affinity. -/
def text : Json → Except BindFault (Option String)
  | .null => .ok none
  | .bool b => .ok (some (if b then "1" else "0"))
  | .int n => if fitsWord n then .ok (some (toString n)) else .error .tooLarge
  | .float x => .ok (some x.text)
  | .str s => (ofText s).map some
  | .arr _ => .error .unbound
  | .obj _ => .error .unbound

/-! ## Counters -/

/-- The ASCII white space. -/
def isAsciiBlank (c : Char) : Bool := c == ' ' || (0x09 ≤ c.toNat && c.toNat ≤ 0x0d)

/-- The digits at the start of a text and what follows. -/
def digits (cs : List Char) : List Char × List Char :=
  (cs.takeWhile Char.isDigit, cs.dropWhile Char.isDigit)

/-- Digits with zeros in the place of those that follow once the number before them has reached the
largest significand that `SQLite` keeps. -/
def keepLeading (value : Nat) : List Char → List Char
  | [] => []
  | c :: rest =>
    if (0x10000000000000000 - 10) / 10 ≤ value then '0' :: keepLeading value rest
    else c :: keepLeading (value * 10 + Binary64.digitsValue [c]) rest

/-- The double of a numeral with digits on one side of a point at least, and perhaps an exponent. Only
the leading digits of a long numeral count. -/
def decimal? (negative : Bool) (cs : List Char) : Option Binary64 :=
  let (whole, rest) := digits cs
  let (fraction, rest) := match rest with | '.' :: rest => digits rest | rest => ([], rest)
  let exponent? : Option (List Char) :=
    match rest with
    | [] => some []
    | e :: rest =>
      let (_, unsigned) := splitSign rest
      if (e = 'e' ∨ e = 'E') ∧ !unsigned.isEmpty ∧ unsigned.all Char.isDigit then some rest else none
  if whole.isEmpty && fraction.isEmpty then none
  else
    let kept := keepLeading 0 (whole ++ fraction)
    exponent?.map fun e =>
      Binary64.ofParts negative (kept.take whole.length) (kept.drop whole.length)
        (Binary64.signedDigits e)

/-- A double as an amount: an integer if it is one inside the range of 64 bits. -/
def ofDouble (x : Binary64) : Amount :=
  match x.integer? with
  | some n => if -0x8000000000000000 < n ∧ n < 0x8000000000000000 then .whole n else .real x
  | none => .real x

/-- What a column of `INTEGER` or `NUMERIC` affinity stores for a text: an integer, or a decimal number,
with blanks around it; any other text stays a text. -/
def written (s : String) : Amount :=
  let (negative, cs) := splitSign (trimChars isAsciiBlank s.toList)
  let n := Binary64.signed negative (Binary64.digitsValue cs)
  if !cs.isEmpty && cs.all Char.isDigit && fitsWord n then .whole n
  else
    match decimal? negative cs with
    | some x => ofDouble x
    | none => .text s

/-- A value in a column of `INTEGER` affinity, zero by default. -/
def count : Json → Except BindFault Amount
  | .null => .ok (.whole 0)
  | .bool b => .ok (.whole (if b then 1 else 0))
  | .int n => if fitsWord n then .ok (.whole n) else .error .tooLarge
  | .float x => .ok (ofDouble x)
  | .str s => (ofText s).map written
  | .arr _ => .error .unbound
  | .obj _ => .error .unbound

/-! ## Texts that write no number -/

/-- A character that may stand in a text that writes a number. -/
def isNumeralChar (c : Char) : Bool :=
  c.isDigit || isAsciiBlank c || ['+', '-', '.', 'e', 'E'].contains c

section Letters
variable {c : Char} {cs : List Char}

theorem isDigit_of_letter (letter : isNumeralChar c = false) : c.isDigit = false := by
  simp only [isNumeralChar, Bool.or_eq_false_iff] at letter
  exact letter.1.1

theorem not_mark_of_letter (letter : isNumeralChar c = false) :
    c ≠ '+' ∧ c ≠ '-' ∧ c ≠ '.' ∧ c ≠ 'e' ∧ c ≠ 'E' := by
  simp only [isNumeralChar, Bool.or_eq_false_iff, List.contains_eq_mem, List.mem_cons,
    List.not_mem_nil, or_false, decide_eq_false_iff_not, not_or] at letter
  exact letter.2

/-- A letter outlasts the removal of a sign. -/
theorem mem_splitSign (holds : c ∈ cs) (letter : isNumeralChar c = false) :
    c ∈ (splitSign cs).2 := by
  obtain ⟨plus, minus, -⟩ := not_mark_of_letter letter
  unfold splitSign
  split
  · exact (List.mem_cons.1 holds).resolve_left minus
  · exact (List.mem_cons.1 holds).resolve_left plus
  · exact holds

/-- A letter outlasts the removal of blanks. -/
theorem mem_trimChars (holds : c ∈ cs) (letter : isNumeralChar c = false) :
    c ∈ trimChars isAsciiBlank cs := by
  have inked : isAsciiBlank c = false := by
    simp only [isNumeralChar, Bool.or_eq_false_iff] at letter
    exact letter.1.2
  obtain ⟨lead, trail, blank, blank', padded⟩ := eq_trimChars_padded isAsciiBlank cs
  rw [padded, List.mem_append, List.mem_append] at holds
  rcases holds with before | inside | behind
  · rw [blank c before] at inked
    cases inked
  · exact inside
  · rw [blank' c behind] at inked
    cases inked

/-- A letter does not stand among the digits at the start. -/
theorem mem_digits (holds : c ∈ cs) (letter : isNumeralChar c = false) : c ∈ (digits cs).2 := by
  rw [← List.takeWhile_append_dropWhile (p := Char.isDigit) (l := cs), List.mem_append] at holds
  refine holds.resolve_left fun digit => ?_
  have isDigit := List.all_eq_true.1 List.all_takeWhile c digit
  rw [isDigit_of_letter letter] at isDigit
  cases isDigit

/-- Digits, a point and an exponent are all that a decimal numeral is made of. -/
theorem decimal?_of_letter (negative : Bool) (holds : c ∈ cs) (letter : isNumeralChar c = false) :
    decimal? negative cs = none := by
  obtain ⟨-, -, point, small, capital⟩ := not_mark_of_letter letter
  have behind := mem_digits holds letter
  unfold decimal?
  generalize digits cs = split at behind
  obtain ⟨whole, rest⟩ := split
  dsimp only at behind ⊢
  -- The letter stands behind the fraction, too, if there is one.
  have later : c ∈ (match rest with | '.' :: rest => digits rest | rest => ([], rest)).2 := by
    split
    · exact mem_digits ((List.mem_cons.1 behind).resolve_left point) letter
    · exact behind
  generalize (match rest with | '.' :: rest => digits rest | rest => ([], rest)) = split at later
  obtain ⟨fraction, rest⟩ := split
  dsimp only at later ⊢
  cases rest with
  | nil => cases later
  | cons e rest =>
    have other : ¬ ((e = 'e' ∨ e = 'E') ∧ (!(splitSign rest).2.isEmpty) = true ∧
        (splitSign rest).2.all Char.isDigit = true) := by
      rintro ⟨mark, -, digits⟩
      have inside : c ∈ rest := by
        refine (List.mem_cons.1 later).resolve_left ?_
        rintro rfl
        exact mark.elim small capital
      have isDigit := List.all_eq_true.1 digits c (mem_splitSign inside letter)
      rw [isDigit_of_letter letter] at isDigit
      cases isDigit
    dsimp only
    rw [if_neg other, Option.map_none, ite_self]

end Letters

/-- A text with a letter that no numeral has stays a text. -/
theorem written_of_letter {s : String} {c : Char} (holds : c ∈ s.toList)
    (letter : isNumeralChar c = false) : written s = .text s := by
  have inside := mem_splitSign (mem_trimChars holds letter) letter
  unfold written
  generalize splitSign (trimChars isAsciiBlank s.toList) = split at inside
  obtain ⟨negative, cs⟩ := split
  dsimp only at inside ⊢
  have other : cs.all Char.isDigit = false := by
    rw [List.all_eq_false]
    exact ⟨c, inside, by rw [isDigit_of_letter letter]; exact Bool.false_ne_true⟩
  rw [other, Bool.and_false, Bool.false_and, if_neg Bool.false_ne_true,
    decimal?_of_letter negative inside letter]

end Bind

end Runboard
