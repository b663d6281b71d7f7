import Runboard.Text.Quoted

/-!
# `Runboard.Time.Day`: calendar days

A day is its number, counted from 1 January 1970, so that the order of days is the order of
numbers. The calendar date is computed: the year is shifted to begin in March, which puts the leap
day at its end, and four hundred years have a fixed number of days.

## Contents

* `Day`, with its order;
* `Civil`, `Day.civil`, `Civil.day`: a day as year, month and day of the month, and back;
* `Day.text`: the form `2024-02-29`;
* `Day.weekday`, `Day.dayOfYear`: places in the week and in the year;
* `DayFault`, `Day.read`: days from their text, by month or by week.
-/

namespace Runboard

/-- A day, counted from 1 January 1970. -/
structure Day where
  number : Int
  deriving DecidableEq, Repr, Inhabited

namespace Day

instance : LE Day := ⟨fun a b => a.number ≤ b.number⟩

instance : LT Day := ⟨fun a b => a.number < b.number⟩

instance (a b : Day) : Decidable (a ≤ b) := inferInstanceAs (Decidable (a.number ≤ b.number))

instance (a b : Day) : Decidable (a < b) := inferInstanceAs (Decidable (a.number < b.number))

theorem le_def {a b : Day} : a ≤ b ↔ a.number ≤ b.number := Iff.rfl

theorem lt_def {a b : Day} : a < b ↔ a.number < b.number := Iff.rfl

theorem le_refl (a : Day) : a ≤ a := Int.le_refl a.number

theorem le_trans {a b c : Day} (hab : a ≤ b) (hbc : b ≤ c) : a ≤ c := Int.le_trans hab hbc

theorem le_total (a b : Day) : a ≤ b ∨ b ≤ a := Int.le_total a.number b.number

instance : Std.IsLinearPreorder Day where
  le_refl := le_refl
  le_trans _ _ _ := le_trans
  le_total := le_total

theorem le_antisymm {a b : Day} (hab : a ≤ b) (hba : b ≤ a) : a = b :=
  congrArg Day.mk (Int.le_antisymm hab hba)

theorem not_lt {a b : Day} : ¬ a < b ↔ b ≤ a := Int.not_lt

theorem lt_of_le_of_ne {a b : Day} (hab : a ≤ b) (ne : a ≠ b) : a < b :=
  Int.lt_iff_le_and_ne.2 ⟨hab, fun same => ne (congrArg Day.mk same)⟩

end Day

/-! ## The calendar -/

/-- A date of the calendar. -/
structure Civil where
  year : Int
  month : Nat
  day : Nat
  deriving DecidableEq, Repr

/-- The date of a day. -/
def Day.civil (d : Day) : Civil :=
  let shifted := d.number + 719468
  let era := shifted / 146097
  let dayOfEra := (shifted % 146097).toNat
  let yearOfEra :=
    (dayOfEra - dayOfEra / 1460 + dayOfEra / 36524 - dayOfEra / 146096) / 365
  let dayOfYear := dayOfEra - (365 * yearOfEra + yearOfEra / 4 - yearOfEra / 100)
  let monthFromMarch := (5 * dayOfYear + 2) / 153
  let month := if monthFromMarch < 10 then monthFromMarch + 3 else monthFromMarch - 9
  { year := (yearOfEra : Int) + era * 400 + (if month ≤ 2 then 1 else 0)
    month := month
    day := dayOfYear - (153 * monthFromMarch + 2) / 5 + 1 }

/-- The day of a date. -/
def Civil.toDay (c : Civil) : Day :=
  let year := if c.month ≤ 2 then c.year - 1 else c.year
  let era := year / 400
  let yearOfEra := year % 400
  let monthFromMarch : Int := if 2 < c.month then c.month - 3 else c.month + 9
  let dayOfYear := (153 * monthFromMarch + 2) / 5 + c.day - 1
  let dayOfEra := yearOfEra * 365 + yearOfEra / 4 - yearOfEra / 100 + dayOfYear
  ⟨era * 146097 + dayOfEra - 719468⟩

/-! ## Text -/

/-- A number filled up with zeros to a width. -/
def padded (width : Nat) (n : Int) : String :=
  let digits := toString n.natAbs
  let sign := if n < 0 then "-" else ""
  sign ++ String.ofList (List.replicate (width - sign.length - digits.length) '0') ++ digits

/-- The text of a date. -/
def Civil.text (c : Civil) : String :=
  padded 4 c.year ++ "-" ++ padded 2 c.month ++ "-" ++ padded 2 c.day

/-- The text of a day. -/
def Day.text (d : Day) : String := d.civil.text

/-! ## Places in the week and in the year -/

/-- The place in the week, from Sunday as zero. -/
def Day.weekday (d : Day) : Nat := ((d.number + 4) % 7).toNat

/-- The place in the year, from one. -/
def Day.dayOfYear (d : Day) : Nat :=
  (d.number - (Civil.toDay ⟨d.civil.year, 1, 1⟩).number).toNat + 1

/-! ## Reading -/

/-- Why a text names no day. -/
inductive DayFault where
  | form (text : String)
  | year (y : Int)
  | month
  | day
  deriving DecidableEq, Repr

/-- How a fault is reported. -/
def DayFault.message : DayFault → String
  | .form text => "Invalid isoformat string: " ++ Text.quote text
  | .year y => "year " ++ toString y ++ " is out of range"
  | .month => "month must be in 1..12"
  | .day => "day is out of range for month"

/-- Whether a year has a leap day. -/
def isLeapYear (y : Int) : Bool := y % 4 == 0 && (y % 100 != 0 || y % 400 == 0)

/-- The number of days of a month. -/
def daysInMonth (y : Int) (month : Nat) : Nat :=
  if month = 2 then (if isLeapYear y then 29 else 28)
  else if month = 4 ∨ month = 6 ∨ month = 9 ∨ month = 11 then 30
  else 31

/-- The day of a date that the calendar has. -/
def Civil.day? (c : Civil) : Except DayFault Day :=
  if c.year < 1 ∨ 9999 < c.year then .error (.year c.year)
  else if c.month < 1 ∨ 12 < c.month then .error .month
  else if c.day < 1 ∨ daysInMonth c.year c.month < c.day then .error .day
  else .ok c.toDay

/-- The number of some ASCII digits at the start of a text, with what follows. -/
def leadingDigits? : (count : Nat) → (value : Nat) → List Char → Option (Nat × List Char)
  | 0, value, cs => some (value, cs)
  | _ + 1, _, [] => none
  | count + 1, value, c :: cs =>
    if c.isDigit then leadingDigits? count (value * 10 + (c.toNat - 48)) cs else none

/-- What follows a hyphen, where one must stand. -/
def afterHyphen? (wanted : Bool) (cs : List Char) : Option (List Char) :=
  if !wanted then some cs
  else match cs with
    | '-' :: rest => some rest
    | _ => none

/-- The Monday of the first week of a year: the week that holds its first Thursday. -/
def firstMonday (y : Int) : Day :=
  let first := Civil.toDay ⟨y, 1, 1⟩
  let fromMonday := (first.weekday + 6) % 7
  ⟨first.number - fromMonday + (if 3 < fromMonday then 7 else 0)⟩

/-- The number of weeks of a year: one more than 52 if it begins on a Thursday, or has a leap day and
begins on a Wednesday. -/
def weeksOf (y : Int) : Nat :=
  let weekday := (Civil.toDay ⟨y, 1, 1⟩).weekday
  if weekday = 4 ∨ (weekday = 3 ∧ isLeapYear y) then 53 else 52

/-- The date of a day of a week. The weeks before the first year lie in no month. -/
def weekDate? (y week day : Nat) : Option Civil :=
  if 1 ≤ week ∧ week ≤ weeksOf y ∧ 1 ≤ day ∧ day ≤ 7 then
    if y = 0 then some ⟨1, 0, 0⟩
    else some (Day.civil ⟨(firstMonday y).number + ((week - 1) * 7 + (day - 1) : Nat)⟩)
  else none

/-- The date that a text of the forms `2024-02-29` and `2024-W09-4` begins with. Both stand also without
hyphens, and the second without its day, which then is Monday. -/
def leadingDate? (cs : List Char) : Option Civil := do
  let (y, rest) ← leadingDigits? 4 0 cs
  let hyphens := rest.head? = some '-'
  let rest := if hyphens then rest.drop 1 else rest
  match rest with
  | 'W' :: rest =>
    let (week, rest) ← leadingDigits? 2 0 rest
    if rest.isEmpty then weekDate? y week 1
    else
      let (day, _) ← leadingDigits? 1 0 (← afterHyphen? hyphens rest)
      weekDate? y week day
  | rest =>
    let (month, rest) ← leadingDigits? 2 0 rest
    let (day, _) ← leadingDigits? 2 0 (← afterHyphen? hyphens rest)
    return ⟨y, month, day⟩

/-- The day that a text names. The text has seven, eight or ten bytes, and what follows the date is not
looked at. -/
def Day.read (s : String) : Except DayFault Day :=
  if s.utf8ByteSize ≠ 7 ∧ s.utf8ByteSize ≠ 8 ∧ s.utf8ByteSize ≠ 10 then .error (.form s)
  else
    match leadingDate? s.toList with
    | some date => date.day?
    | none => .error (.form s)

end Runboard
