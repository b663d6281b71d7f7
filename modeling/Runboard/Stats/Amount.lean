import Runboard.Settings.Value
import Runboard.Stats.Chart

/-!
# `Runboard.Stats.Amount`: counters that need not be integers

A column of counters takes whatever looks like no integer as it is: a fraction stays a fraction, and
a text a text. Fractions can be added and subtracted, texts cannot. A figure that is shown has to be
an integer, or has to be read as one; a text may be a plain numeral.

Where every amount of a snapshot is an integer, nothing of this is needed: `Snapshot.whole?` gives
the snapshot of those integers.

## Contents

* `Amount`, `Amount.add?`, `Amount.sub?`, `Amount.shown?`: amounts;
* `Amount.whole?`, `Snapshot.whole?`: integers among them, with `Snapshot.whole?_ofWhole`;
* `chartOfAmounts`, `reportOfAmounts`: charts and reports of amounts;
* `ChartFigures`, `Chart.shown?`, `Report.shown?`: their figures as integers;
* `chartFigures`, `reportFigures`: the figures of any snapshot, with
  `chartFigures_ofWhole` and `reportFigures_ofWhole`.
-/

namespace Runboard

/-- What stands where a counter should. -/
inductive Amount where
  | whole (n : Int)
  | real (x : Binary64)
  | text (s : String)
  deriving DecidableEq, Repr, Inhabited

namespace Amount

/-- An amount as a value. -/
def json : Amount → Json
  | .whole n => .int n
  | .real x => .float x
  | .text s => .str s

/-- The integer that an amount is. -/
def whole? : Amount → Option Int
  | .whole n => some n
  | _ => none

/-- The integer that an amount is shown as, if it can be read as one. -/
def shown? (a : Amount) : Option Int :=
  match readInteger a.json with
  | .ok n => some n
  | .faults _ => none

/-- A combination of two amounts that are numbers; with a fraction it is one of doubles. -/
def combine? (integers : Int → Int → Int) (doubles : Binary64 → Binary64 → Binary64) :
    Amount → Amount → Option Amount
  | .whole n, .whole k => some (.whole (integers n k))
  | .whole n, .real y => some (.real (doubles (.ofInteger n) y))
  | .real x, .whole k => some (.real (doubles x (.ofInteger k)))
  | .real x, .real y => some (.real (doubles x y))
  | _, _ => none

/-- The sum of two amounts. -/
def add? : Amount → Amount → Option Amount := combine? (· + ·) .add

/-- The difference of two amounts. -/
def sub? : Amount → Amount → Option Amount := combine? (· - ·) .sub

end Amount

/-! ## Integers -/

/-- The snapshot of integers that a snapshot of amounts is. -/
def Snapshot.whole? (s : Snapshot Amount) : Option Snapshot := s.mapM Amount.whole?

/-- The counters of integers as amounts. -/
def Counters.ofWhole (c : Counters) : Counters Amount :=
  ⟨.whole c.workflowRuns, .whole c.workflowFinished, .whole c.appRuns, .whole c.appFailed⟩

/-- An entry of integers as one of amounts. -/
def DayEntry.ofWhole (e : DayEntry) : DayEntry Amount := ⟨e.counters.ofWhole, e.day⟩

/-- A snapshot of integers as one of amounts. -/
def Snapshot.ofWhole (s : Snapshot) : Snapshot Amount :=
  { orgId := s.orgId
    today := s.today.ofWhole
    month := s.month.ofWhole
    totalApiUsage := .whole s.totalApiUsage
    dailyApiUsage := .whole s.dailyApiUsage
    history := s.history.map DayEntry.ofWhole }

/-! ## Charts and reports -/

/-- Why there are no figures. -/
inductive FigureFault where
  | window (error : WindowError)
  /-- A text stands where a number is needed. -/
  | noNumber
  /-- A figure cannot be shown as an integer. -/
  | notShown
  deriving DecidableEq, Repr

/-- A value that needs numbers. -/
def ofNumbers {α : Type} : Option α → Except FigureFault α
  | some a => .ok a
  | none => .error .noNumber

/-- The entries of a history within a window. -/
def entriesWithin {α : Type} (history : List α) (window : Json) : Except FigureFault (List α) :=
  (recentEntries history window).mapError .window

/-- The successes and failures among some runs. -/
def Metric.splitAmounts : Metric → Counters Amount → Option (Window Amount)
  | .workflow, c => do
    return ⟨c.workflowFinished, ← c.workflowRuns.sub? c.workflowFinished⟩
  | .app, c => do
    let success ← c.appRuns.sub? c.appFailed
    return ⟨success, ← c.appRuns.sub? success⟩

/-- The runs of two periods together. -/
def Window.addAmounts (v w : Window Amount) : Option (Window Amount) := do
  return ⟨← v.success.add? w.success, ← v.failure.add? w.failure⟩

/-- The chart of a metric with a week of the given length. -/
def chartOfAmounts (s : Snapshot Amount) (m : Metric) (week : Json) :
    Except FigureFault (Chart Amount) := do
  let day ← ofNumbers (m.splitAmounts s.today)
  let entries ← entriesWithin s.history week
  let week ← ofNumbers (entries.foldlM (fun w entry => do
    w.addAmounts (← m.splitAmounts entry.counters)) day)
  let month ← ofNumbers (m.splitAmounts s.month)
  return ⟨day, week, month⟩

/-- The report of a snapshot. -/
def reportOfAmounts (s : Snapshot Amount) (window : Json) :
    Except FigureFault (Report Amount) := do
  let failed ← ofNumbers (s.month.workflowRuns.sub? s.month.workflowFinished)
  let entries ← entriesWithin s.history window
  return {
    runs := s.month.workflowRuns
    finished := s.month.workflowFinished
    failed := failed
    daily := s.today.workflowRuns :: entries.map (·.counters.workflowRuns) }

/-! ## Figures as integers -/

/-- Three figures of a window as integers: all runs, successes and failures. They agree only where
nothing was rounded. -/
structure WindowFigures where
  total : Int
  success : Int
  failure : Int
  deriving DecidableEq, Repr

/-- The figures of the three windows of a chart. -/
structure ChartFigures where
  day : WindowFigures
  week : WindowFigures
  month : WindowFigures
  deriving DecidableEq, Repr

/-- The figures of a window of integers. -/
def Window.figures (w : Window) : WindowFigures := ⟨w.total, w.success, w.failure⟩

/-- The figures of a chart of integers. -/
def Chart.figures (c : Chart) : ChartFigures := ⟨c.day.figures, c.week.figures, c.month.figures⟩

/-- The figures of a window as they are shown. -/
def Window.shown? (w : Window Amount) : Option WindowFigures := do
  return ⟨← (← w.success.add? w.failure).shown?, ← w.success.shown?, ← w.failure.shown?⟩

/-- The figures of a chart as they are shown. -/
def Chart.shown? (c : Chart Amount) : Option ChartFigures := do
  return ⟨← c.day.shown?, ← c.week.shown?, ← c.month.shown?⟩

/-- A report as it is shown. -/
def Report.shown? (r : Report Amount) : Option Report := do
  return ⟨← r.runs.shown?, ← r.finished.shown?, ← r.failed.shown?, ← r.daily.mapM Amount.shown?⟩

/-- The figures of the chart of a snapshot, if the chart has figures that can be shown. -/
def chartFigures (s : Snapshot Amount) (m : Metric) (week : Json) :
    Except FigureFault (Option ChartFigures) :=
  match s.whole? with
  | some s => ((chart s m week).mapError .window).map fun c => some c.figures
  | none => (chartOfAmounts s m week).map Chart.shown?

/-- The report of a snapshot as it is shown. -/
def reportFigures (s : Snapshot Amount) (window : Json) : Except FigureFault (Option Report) :=
  match s.whole? with
  | some s => ((report s window).mapError .window).map some
  | none => (reportOfAmounts s window).map Report.shown?

/-! ## Small facts -/

@[simp] theorem Amount.whole?_whole (n : Int) : (Amount.whole n).whole? = some n := rfl

@[simp] theorem Amount.shown?_whole (n : Int) : (Amount.whole n).shown? = some n := rfl

@[simp] theorem Counters.mapM_ofWhole (c : Counters) :
    c.ofWhole.mapM Amount.whole? = some c := rfl

@[simp] theorem DayEntry.mapM_ofWhole (e : DayEntry) :
    e.ofWhole.mapM Amount.whole? = some e := rfl

theorem mapM_history_ofWhole (entries : List DayEntry) :
    (entries.map DayEntry.ofWhole).mapM (DayEntry.mapM Amount.whole?) = some entries := by
  induction entries with
  | nil => rfl
  | cons e rest ih => rw [List.map_cons, List.mapM_cons, ih]; rfl

/-- Integers that are held as amounts are found again. -/
@[simp] theorem Snapshot.whole?_ofWhole (s : Snapshot) : s.ofWhole.whole? = some s := by
  unfold Snapshot.whole? Snapshot.mapM
  rw [Snapshot.ofWhole, mapM_history_ofWhole]
  rfl

/-- The figures of integers that are held as amounts are those of their chart. -/
theorem chartFigures_ofWhole (s : Snapshot) (m : Metric) (week : Json) :
    chartFigures s.ofWhole m week =
      ((chart s m week).mapError .window).map fun c => some c.figures := by
  simp [chartFigures]

/-- The report of integers that are held as amounts is their report. -/
theorem reportFigures_ofWhole (s : Snapshot) (window : Json) :
    reportFigures s.ofWhole window = ((report s window).mapError .window).map some := by
  simp [reportFigures]

end Runboard
