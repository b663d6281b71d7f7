import Runboard.Log.Event

/-!
# `Runboard.Stats.History`: the order of a history

A history in which every entry has a day is put in the order of the days; entries of one day keep
their order. A history with an undated entry is left as it is. A change of order is recorded, since
the windows depend on it.

## Contents

* `History.sortDay`, `History.allDated`, `History.byDay`: what is sorted and by what;
* `orderHistory`: the ordered entries and the event, if one is due.
-/

namespace Runboard

namespace History

variable {α : Type}

/-- The day an entry is sorted by. -/
def sortDay (e : DayEntry α) : Day := e.day.getD ⟨0⟩

/-- Whether an entry may stand before another. -/
def notAfter (a b : DayEntry α) : Bool := decide (sortDay a ≤ sortDay b)

/-- Whether every entry has a day. -/
def allDated (entries : List (DayEntry α)) : Bool := entries.all (·.day.isSome)

/-- The entries in the order of their days, entries of one day in their old order. -/
def byDay (entries : List (DayEntry α)) : List (DayEntry α) := entries.mergeSort notAfter

end History

/-- The entries of an organization's history, the oldest first, with the event of a change. -/
def orderHistory {α : Type} [DecidableEq α] (orgId : String) (entries : List (DayEntry α)) :
    List (DayEntry α) × List Event :=
  if History.allDated entries then
    let ordered := History.byDay entries
    (ordered, if ordered = entries then [] else [.reordered orgId entries.length])
  else (entries, [])

end Runboard
