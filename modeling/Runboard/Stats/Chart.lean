import Runboard.Json.Literal
import Runboard.Stats.Snapshot
import Runboard.Stats.Walk

/-!
# `Runboard.Stats.Chart`: charts and reports

A chart shows, for one metric, the successes and failures of today, of a week and of the month. The
week adds to today the entries of the history within its window; the month has counters of its own
and never looks at the history. A report has the workflow totals of the month and the daily series.

## Contents

* `Metric`, `Metric.parse`, `Metric.split`: workflows count what finished, apps what failed;
* `Window`, `Chart`, `chart`: successes and failures;
* `dailySeries`, `Report`, `report`: runs day by day, the most recent first.
-/

namespace Runboard

/-! ## Metrics -/

/-- What a chart counts. -/
inductive Metric where
  | workflow
  | app
  deriving DecidableEq, Repr, Inhabited

/-- The name of a metric. -/
def Metric.name : Metric → String
  | .workflow => "workflow"
  | .app => "app"

/-- The metric of a name. -/
def Metric.ofName? (name : String) : Option Metric :=
  if name = "workflow" then some .workflow
  else if name = "app" then some .app
  else none

/-- The metric that a value names. -/
def Metric.ofJson? : Json → Option Metric
  | .str name => Metric.ofName? name
  | _ => none

@[simp] theorem Metric.ofName?_name (m : Metric) : Metric.ofName? m.name = some m := by
  cases m <;> rfl

/-! ## Windows -/

/-- The successes and failures of a period. -/
structure Window (α : Type := Int) where
  success : α
  failure : α
  deriving DecidableEq, Repr, Inhabited

namespace Window

/-- All runs of the period. -/
def total (w : Window) : Int := w.success + w.failure

/-- The runs of two periods together. -/
def add (v w : Window) : Window := ⟨v.success + w.success, v.failure + w.failure⟩

instance : Add Window := ⟨add⟩

@[simp] theorem success_add (v w : Window) : (v + w).success = v.success + w.success := rfl

@[simp] theorem failure_add (v w : Window) : (v + w).failure = v.failure + w.failure := rfl

end Window

/-- The successes and failures among some runs. Workflows count finished runs, so the others
failed; apps count failed runs, so the others succeeded. -/
def Metric.split : Metric → Counters → Window
  | .workflow, c => ⟨c.workflowFinished, c.workflowRuns - c.workflowFinished⟩
  | .app, c => ⟨c.appRuns - c.appFailed, c.appRuns - (c.appRuns - c.appFailed)⟩

/-- The runs that a metric counts. -/
def Metric.runs : Metric → Counters → Int
  | .workflow, c => c.workflowRuns
  | .app, c => c.appRuns

@[simp] theorem Metric.total_split (m : Metric) (c : Counters) : (m.split c).total = m.runs c := by
  cases m <;> simp only [Metric.split, Metric.runs, Window.total] <;> omega

/-! ## Charts -/

/-- The windows of a chart. -/
structure Chart (α : Type := Int) where
  day : Window α
  week : Window α
  month : Window α
  deriving DecidableEq, Repr, Inhabited

/-- The chart of a metric with a week of the given length. -/
def chart (s : Snapshot) (m : Metric) (week : Json) : Except WindowError Chart :=
  let day := m.split s.today
  match recentEntries s.history week with
  | .error e => .error e
  | .ok entries =>
    .ok {
      day := day
      week := entries.foldl (fun w entry => w + m.split entry.counters) day
      month := m.split s.month }

/-- Why no chart can be made. -/
inductive ChartError where
  | unknownMetric (given : Json)
  | window (error : WindowError)

/-- How a refused chart is reported. -/
def ChartError.message : ChartError → String
  | .unknownMetric given => given.literal ++ " is not a valid Metric"
  | .window e => e.message

/-- The chart of the metric that a value names. The metric is looked at first. -/
def chartOf (s : Snapshot) (metric week : Json) : Except ChartError Chart :=
  match Metric.ofJson? metric with
  | none => .error (.unknownMetric metric)
  | some m =>
    match chart s m week with
    | .error e => .error (.window e)
    | .ok c => .ok c

/-! ## Reports -/

/-- The workflow runs of the days within a window, today first. -/
def dailySeries (s : Snapshot) (window : Json) : Except WindowError (List Int) :=
  match checkWindow window with
  | .error e => .error e
  | .ok _ =>
    match recentEntries s.history window with
    | .error e => .error e
    | .ok entries => .ok (s.today.workflowRuns :: entries.map (·.counters.workflowRuns))

/-- The workflow runs of the month and of the days within a window. -/
structure Report (α : Type := Int) where
  runs : α
  finished : α
  failed : α
  daily : List α
  deriving DecidableEq, Repr

/-- The report of a snapshot. -/
def report (s : Snapshot) (window : Json) : Except WindowError Report :=
  match dailySeries s window with
  | .error e => .error e
  | .ok daily =>
    .ok {
      runs := s.month.workflowRuns
      finished := s.month.workflowFinished
      failed := s.month.workflowRuns - s.month.workflowFinished
      daily := daily }

end Runboard
