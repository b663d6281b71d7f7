import Runboard.Time.Day

/-!
# `Runboard.Time.Instant`: moments

A moment is a number of microseconds since the start of 1970, in universal time.

## Contents

* `Instant`, `Instant.seconds`, `Instant.micros`: a moment and its whole seconds, rounded down;
* `TimeOfDay`, `Instant.day`, `Instant.timeOfDay`: the calendar day and the clock;
* `Instant.iso`: the form `2024-02-29T12:30:00.000001+00:00`;
* `Instant.inCalendar`: whether a moment lies in the years 1 to 9999;
* `ShiftFault`, `checkSpan`, `Instant.shift`: moving inside the calendar.
-/

namespace Runboard

/-- A moment, in microseconds since the start of 1970. -/
structure Instant where
  microseconds : Int
  deriving DecidableEq, Repr, Inhabited

/-- The time on a day's clock. -/
structure TimeOfDay where
  hour : Nat
  minute : Nat
  second : Nat
  deriving DecidableEq, Repr

namespace Instant

/-- The moment that begins a second. -/
def ofSeconds (s : Int) : Instant := ⟨s * 1000000⟩

/-- The whole seconds, rounded down. -/
def seconds (t : Instant) : Int := t.microseconds / 1000000

/-- The microseconds since the last whole second. -/
def micros (t : Instant) : Nat := (t.microseconds % 1000000).toNat

/-- The moment some microseconds later. -/
def add (t : Instant) (delta : Int) : Instant := ⟨t.microseconds + delta⟩

/-- The calendar day. -/
def day (t : Instant) : Day := ⟨t.seconds / 86400⟩

/-- The time on the clock. -/
def timeOfDay (t : Instant) : TimeOfDay :=
  let s := (t.seconds % 86400).toNat
  ⟨s / 3600, s / 60 % 60, s % 60⟩

/-- The date and time with the offset of universal time; microseconds stand only where they are not
zero. -/
def iso (t : Instant) : String :=
  let c := t.timeOfDay
  t.day.text ++ "T" ++ padded 2 c.hour ++ ":" ++ padded 2 c.minute ++ ":" ++ padded 2 c.second ++
    (if t.micros = 0 then "" else "." ++ padded 6 t.micros) ++ "+00:00"

/-- Whether the moment lies in the years 1 to 9999. -/
def inCalendar (t : Instant) : Bool :=
  let first := (Civil.toDay ⟨1, 1, 1⟩).number
  let last := (Civil.toDay ⟨9999, 12, 31⟩).number
  first ≤ t.day.number && t.day.number ≤ last

end Instant

/-! ## Moving inside the calendar -/

/-- Why a moment cannot be moved by a span. -/
inductive ShiftFault where
  /-- The days of the span do not fit 32 bits. -/
  | tooWide
  /-- The span has more days than spans can have. -/
  | tooLong (days : Int)
  | outsideCalendar
  deriving DecidableEq, Repr

/-- How a fault is reported. -/
def ShiftFault.message : ShiftFault → String
  | .tooWide => "Python int too large to convert to C int"
  | .tooLong days => "days=" ++ toString days ++ "; must have magnitude <= 999999999"
  | .outsideCalendar => "date value out of range"

/-- Checks that a span of microseconds is no longer than spans can be. -/
def checkSpan (delta : Int) : Except ShiftFault Unit :=
  let days := delta / 86400000000
  if days < -0x80000000 ∨ 0x80000000 ≤ days then .error .tooWide
  else if 999999999 < days.natAbs then .error (.tooLong days)
  else .ok ()

namespace Instant

/-- The moment some microseconds later, if the calendar reaches it. -/
def shift (t : Instant) (delta : Int) : Except ShiftFault Instant :=
  match checkSpan delta with
  | .error f => .error f
  | .ok () => if (t.add delta).inCalendar then .ok (t.add delta) else .error .outsideCalendar

/-! ## Small facts -/

/-- A moment moves to a moment of the calendar. -/
theorem inCalendar_of_shift {t u : Instant} {delta : Int} (h : t.shift delta = .ok u) :
    u.inCalendar = true ∧ u = t.add delta := by
  unfold shift at h
  split at h
  · simp at h
  · split at h
    · rename_i inside
      simp only [Except.ok.injEq] at h
      exact ⟨h ▸ inside, h.symm⟩
    · simp at h

@[simp] theorem seconds_ofSeconds (s : Int) : (ofSeconds s).seconds = s := by
  simp only [seconds, ofSeconds]; omega

end Instant

end Runboard
