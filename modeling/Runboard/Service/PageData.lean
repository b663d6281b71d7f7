import Runboard.Json.Basic
import Runboard.Service.Access
import Runboard.Service.Endpoint

/-!
# `Runboard.Service.PageData`: what the protected pages show

Each page reads the tables for one organization. Whether a workflow was ever executed is known from
at most one execution. Apps are counted up to the limit of the settings, and weeks and months are as
long as the settings say.

## Contents

* `PageData`, `PageData.json`: what a page shows;
* `unexecutedCount`: workflows without an execution;
* `Page.read`: what a page shows for an organization.
-/

namespace Runboard

/-! ## Data -/

/-- What a page shows. -/
inductive PageData where
  | workflows (all unexecuted : Nat)
  | apps (count : Nat)
  | apiUsage (total daily : Int)
  | executions (report : Report)
  | chart (figures : ChartFigures)
  deriving DecidableEq, Repr

/-- The figures of a window as a value. -/
def WindowFigures.json (w : WindowFigures) : Json :=
  .obj [("total", .int w.total), ("success", .int w.success), ("failure", .int w.failure)]

/-- The figures of a chart as a value. -/
def ChartFigures.json (c : ChartFigures) : Json :=
  .obj [("day", c.day.json), ("week", c.week.json), ("month", c.month.json)]

/-- A report as a value. -/
def Report.json (r : Report) : Json :=
  .obj [ ("workflow_executions", .int r.runs),
    ("workflow_executions_finished", .int r.finished),
    ("workflow_executions_failed", .int r.failed),
    ("daily_workflow_executions", .arr (r.daily.map .int)) ]

/-- What a page shows, as a value. -/
def PageData.json : PageData → Json
  | .workflows all unexecuted =>
    .obj [("workflows", .int all), ("unexecuted_workflows", .int unexecuted)]
  | .apps count => .obj [("apps", .int count)]
  | .apiUsage total daily =>
    .obj [("total_api_usage", .int total), ("daily_api_usage", .int daily)]
  | .executions r => r.json
  | .chart c => c.json

/-- The body of an answer that tells some data. -/
def dataEnvelope (data : Json) : Json := .obj [("success", .bool true), ("data", data)]

/-! ## Reading -/

/-- The number of workflows without an execution. -/
def unexecutedCount (v : TableView) : List WorkflowRow → Except StoreFault Nat
  | [] => .ok 0
  | w :: rest =>
    match Store.executionCount v w.id (some 1) with
    | .error fault => .error fault
    | .ok n =>
      match unexecutedCount v rest with
      | .error fault => .error fault
      | .ok m => .ok (if n = 0 then m + 1 else m)

namespace Page

/-- The workflows of an organization, and how many were never executed. -/
def readWorkflows (v : TableView) (org : Json) : Except StoreFault PageData :=
  match Store.workflows v org with
  | .error fault => .error fault
  | .ok ws =>
    match unexecutedCount v ws with
    | .error fault => .error fault
    | .ok n => .ok (.workflows ws.length n)

/-- The apps of an organization, counted up to a limit. -/
def readApps (v : TableView) (org : Json) (limit : Int) : Except StoreFault PageData :=
  match Store.apps v org (some limit) none with
  | .error fault => .error fault
  | .ok rows => .ok (.apps rows.length)

/-- The snapshot of an organization. -/
def readSnapshot (v : TableView) (org : Json) : Traced Stop (Snapshot Amount) :=
  .ofValue (match Store.statistics v org with
    | .error fault => .error (.ofStore fault)
    | .ok found => .ok found)

/-- Figures, if nothing stands against them. -/
def figured {α : Type} : Except FigureFault α → Traced Stop α
  | .error fault => .fail (.escaped (.figures fault))
  | .ok a => pure a

/-- Figures that can be shown. -/
def shown {α : Type} : Option α → Traced Stop α
  | none => .fail (.escaped (.figures .notShown))
  | some a => pure a

/-- What a page shows for an organization. -/
def read (s : Settings) (v : TableView) (org : Json) : Page → Traced Stop PageData
  | .workflows => .ofExcept ((readWorkflows v org).mapError Stop.ofStore)
  | .apps => .ofExcept ((readApps v org s.maxAppCount).mapError Stop.ofStore)
  | .apiUsage => do
    let snapshot ← readSnapshot v org
    return .apiUsage (← shown snapshot.totalApiUsage.shown?) (← shown snapshot.dailyApiUsage.shown?)
  | .executions => do
    let snapshot ← readSnapshot v org
    let figures ← figured (reportFigures snapshot (.int s.monthLength))
    return .executions (← shown figures)
  | .chart metric =>
    match Metric.ofName? metric with
    | none => .fail (.unknownMetric metric)
    | some m => do
      let snapshot ← readSnapshot v org
      let figures ← figured (chartFigures snapshot m (.int s.weekLength))
      Traced.tell [.chartBuilt m org]
      return .chart (← shown figures)

end Page

end Runboard
