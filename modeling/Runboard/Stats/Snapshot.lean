import Runboard.Time.Day
import Runboard.Text.Quoted

/-!
# `Runboard.Stats.Snapshot`: what is known of an organization's runs

The counters of a period say how many workflow and app runs there were, how many of the workflow
runs finished and how many of the app runs failed. A snapshot has the counters of today, those of
the month, and one entry for each completed day, the oldest first. Counters are integers where
nothing else is said; a store may hold other amounts in their place.

## Contents

* `Counters`, `DayEntry`, `Snapshot`, each with `mapM` over its amounts;
* `UnknownField`, `DayEntry.unknownField?`, `Snapshot.unknownField?`: names that are none of theirs;
* `Snapshot.refusal`: a snapshot cannot be assigned to;
* `Snapshot.rollover`: the snapshot after the end of a day.
-/

namespace Runboard

/-- The counters of a period. -/
structure Counters (α : Type := Int) where
  workflowRuns : α
  workflowFinished : α
  appRuns : α
  appFailed : α
  deriving DecidableEq, Repr, Inhabited

/-- The counters of a completed day; the day itself may be unknown. -/
structure DayEntry (α : Type := Int) where
  counters : Counters α
  day : Option Day := none
  deriving DecidableEq, Repr, Inhabited

/-- What is known of an organization. The place of an entry in `history`, the oldest first, says
how recent it is. -/
structure Snapshot (α : Type := Int) where
  orgId : String
  today : Counters α
  month : Counters α
  totalApiUsage : α
  dailyApiUsage : α
  history : List (DayEntry α)
  deriving DecidableEq, Repr, Inhabited

/-! ## Amounts -/

variable {α β : Type}

/-- The counters after an amount of each is found, if all are. -/
def Counters.mapM (f : α → Option β) (c : Counters α) : Option (Counters β) := do
  return ⟨← f c.workflowRuns, ← f c.workflowFinished, ← f c.appRuns, ← f c.appFailed⟩

/-- The entry after an amount of each counter is found, if all are. -/
def DayEntry.mapM (f : α → Option β) (e : DayEntry α) : Option (DayEntry β) :=
  (e.counters.mapM f).map (⟨·, e.day⟩)

/-- The snapshot after an amount of each counter is found, if all are. -/
def Snapshot.mapM (f : α → Option β) (s : Snapshot α) : Option (Snapshot β) := do
  return {
    orgId := s.orgId
    today := ← s.today.mapM f
    month := ← s.month.mapM f
    totalApiUsage := ← f s.totalApiUsage
    dailyApiUsage := ← f s.dailyApiUsage
    history := ← s.history.mapM (DayEntry.mapM f) }

/-! ## Names -/

/-- A name that is none of those of its owner. -/
structure UnknownField where
  owner : String
  name : String
  deriving DecidableEq, Repr

/-- How an unknown name is reported. -/
def UnknownField.message (u : UnknownField) : String :=
  u.owner ++ ".__init__() got an unexpected keyword argument '" ++ u.name ++ "'"

/-- The names of four counters. -/
def counterNames (lead : String) : List String :=
  [ lead ++ "workflow_executions", lead ++ "workflow_executions_finished",
    lead ++ "app_executions", lead ++ "app_executions_failed" ]

/-- The first of some names that is none of an owner's. -/
def firstUnknown? (owner : String) (known names : List String) : Option UnknownField :=
  (names.find? fun name => !known.contains name).map (⟨owner, ·⟩)

/-- The first name that is none of an entry's. -/
def DayEntry.unknownField? (names : List String) : Option UnknownField :=
  firstUnknown? "DailyStatistic" (counterNames "" ++ ["day"]) names

/-- The first name that is none of a snapshot's. -/
def Snapshot.unknownField? (names : List String) : Option UnknownField :=
  firstUnknown? "OrgExecutionStats"
    (["org_id"] ++ counterNames "daily_" ++ counterNames "monthly_" ++
      ["total_api_usage", "daily_api_usage", "history"]) names

namespace Snapshot

/-- Why an assignment to a field of a snapshot is refused. -/
def refusal (field : String) : String :=
  "cannot assign to field " ++ Text.quote field

/-- The snapshot after the end of a day: today's counters become the last entry, and a new day
begins with counters of its own. -/
def rollover (s : Snapshot) (day : Option Day) (today : Counters) : Snapshot :=
  { s with today := today, history := s.history ++ [⟨s.today, day⟩] }

/-! ## Small facts -/

@[simp] theorem rollover_month (s : Snapshot) (day : Option Day) (today : Counters) :
    (s.rollover day today).month = s.month := rfl

@[simp] theorem rollover_history (s : Snapshot) (day : Option Day) (today : Counters) :
    (s.rollover day today).history = s.history ++ [⟨s.today, day⟩] := rfl

end Snapshot

end Runboard
