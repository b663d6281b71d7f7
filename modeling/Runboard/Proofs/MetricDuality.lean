import Runboard.Proofs.WindowLaws

/-!
# `Runboard.Proofs.MetricDuality`: the two metrics

Workflows count the runs that finished, apps count the runs that failed. So what is a success to the
one is a failure to the other: the chart of the apps is the chart that the workflows would have with
the counters of the apps, with successes and failures exchanged in every window.

A metric looks at two counters of each period and at nothing else. Snapshots that have these two in
common have the same chart of the metric, whatever the other metric counted, and whatever else there
is; and the history shows in the week alone.

Both follow from how a chart is made of the splits of its periods: it takes a map of splits through,
as long as the map respects sums.

## Contents

* `chartOfSplits`, `Snapshot.splits`, `chart_eq_chartOfSplits`, `chartOfSplits_map`: charts made of
  splits;
* `Metric.counted`, `Metric.splitOf`: the two counters of a metric, and their split;
* `Window.swap`, `Snapshot.asWorkflows`, `chart_asWorkflows`: the exchange of the metrics;
* `Snapshot.AgreeOn`, `chart_congr`: snapshots with the same counters of a metric;
* `metrics_dual_apart`: how the metrics go together, and how they stay apart.
-/

namespace Runboard

/-! ## Charts made of splits -/

/-- What a window takes of mapped entries is what it takes of the entries, mapped. -/
theorem recentEntries_map {α β : Type} (f : α → β) (history : List α) (window : Json) :
    recentEntries (history.map f) window = (recentEntries history window).map (List.map f) := by
  cases checked : checkWindow window with
  | error e =>
    rw [recentEntries_of_refused _ checked, recentEntries_of_refused _ checked]
    rfl
  | ok n =>
    obtain ⟨rfl, positive⟩ := checkWindow_eq_ok checked
    rw [recentEntries_eq _ positive, recentEntries_eq _ positive, ← List.map_reverse,
      ← List.map_take]
    rfl

/-- The chart of a day, a month, and the completed days before today. -/
def chartOfSplits (day month : Window) (days : List Window) (week : Json) :
    Except WindowError Chart :=
  (recentEntries days week).map fun recent => ⟨day, recent.foldl (· + ·) day, month⟩

/-- The splits of the completed days, in the order of the history. -/
def Snapshot.splits (s : Snapshot) (m : Metric) : List Window :=
  s.history.map fun e => m.split e.counters

/-- A chart is made of the splits of its periods. -/
theorem chart_eq_chartOfSplits (s : Snapshot) (m : Metric) (week : Json) :
    chart s m week =
      chartOfSplits (m.split s.today) (m.split s.month) (s.splits m) week := by
  rw [chart, chartOfSplits, Snapshot.splits, recentEntries_map]
  cases recentEntries s.history week with
  | error e => rfl
  | ok entries =>
    show Except.ok (Chart.mk _ _ _) = Except.ok (Chart.mk _ _ _)
    rw [List.foldl_map]

/-- A chart with each window mapped. -/
def Chart.map (f : Window → Window) (c : Chart) : Chart := ⟨f c.day, f c.week, f c.month⟩

section Additive
variable {f : Window → Window} (additive : ∀ v w, f (v + w) = f v + f w)
include additive

/-- The days of a week, added up one by one, come to the same whether they are mapped before or
after. -/
theorem foldl_add_map (days : List Window) (w : Window) :
    (days.map f).foldl (· + ·) (f w) = f (days.foldl (· + ·) w) := by
  induction days generalizing w with
  | nil => rfl
  | cons day days ih =>
    rw [List.map_cons, List.foldl_cons, List.foldl_cons, ← additive]
    exact ih (w + day)

theorem chartOfSplits_map (day month : Window) (days : List Window) (week : Json) :
    chartOfSplits (f day) (f month) (days.map f) week =
      (chartOfSplits day month days week).map (Chart.map f) := by
  rw [chartOfSplits, chartOfSplits, recentEntries_map]
  cases recentEntries days week with
  | error e => rfl
  | ok recent =>
    show Except.ok (Chart.mk _ _ _) = Except.ok (Chart.mk _ _ _)
    rw [foldl_add_map additive]

end Additive

/-! ## The counters of a metric -/

namespace Metric

/-- The two counters of a metric: all runs, and those among them that it counts. -/
def counted : Metric → Counters → Int × Int
  | .workflow, c => (c.workflowRuns, c.workflowFinished)
  | .app, c => (c.appRuns, c.appFailed)

/-- The successes and failures that the two counters of a metric come to. -/
def splitOf : Metric → Int × Int → Window
  | .workflow, (runs, finished) => ⟨finished, runs - finished⟩
  | .app, (runs, failed) => ⟨runs - failed, runs - (runs - failed)⟩

theorem split_eq_splitOf (m : Metric) (c : Counters) : m.split c = m.splitOf (m.counted c) := by
  cases m <;> rfl

end Metric

/-! ## The exchange of the metrics -/

/-- A window with successes and failures exchanged. -/
def Window.swap (w : Window) : Window := ⟨w.failure, w.success⟩

theorem Window.swap_add (v w : Window) : (v + w).swap = v.swap + w.swap := rfl

/-- The counters of the apps in the place of those of the workflows, what failed where it is counted
what finished. -/
def Counters.asWorkflows (c : Counters) : Counters :=
  { c with workflowRuns := c.appRuns, workflowFinished := c.appFailed }

/-- A snapshot with the counters of the apps in the place of those of the workflows, everywhere. -/
def Snapshot.asWorkflows (s : Snapshot) : Snapshot :=
  { s with
    today := s.today.asWorkflows
    month := s.month.asWorkflows
    history := s.history.map fun e => { e with counters := e.counters.asWorkflows } }

/-- What fails to the apps finishes to the workflows. -/
theorem Metric.split_asWorkflows (c : Counters) :
    Metric.workflow.split c.asWorkflows = (Metric.app.split c).swap := by
  simp only [Metric.split, Counters.asWorkflows, Window.swap, Window.mk.injEq, and_true]
  omega

theorem chart_asWorkflows (s : Snapshot) (week : Json) :
    chart s.asWorkflows .workflow week = (chart s .app week).map (Chart.map Window.swap) := by
  have days : s.asWorkflows.splits .workflow = (s.splits .app).map Window.swap := by
    rw [Snapshot.splits, Snapshot.splits, Snapshot.asWorkflows, List.map_map, List.map_map]
    exact List.map_congr_left fun e _ => Metric.split_asWorkflows e.counters
  have today : Metric.workflow.split s.asWorkflows.today = (Metric.app.split s.today).swap :=
    Metric.split_asWorkflows s.today
  have month : Metric.workflow.split s.asWorkflows.month = (Metric.app.split s.month).swap :=
    Metric.split_asWorkflows s.month
  rw [chart_eq_chartOfSplits, chart_eq_chartOfSplits, days, today, month,
    chartOfSplits_map Window.swap_add]

/-! ## What a metric looks at -/

/-- Snapshots have the two counters of a metric in common: today, in the month, and entry by entry
in the history. -/
structure Snapshot.AgreeOn (m : Metric) (s s' : Snapshot) : Prop where
  today : m.counted s.today = m.counted s'.today
  month : m.counted s.month = m.counted s'.month
  history : (s.history.map fun e => m.counted e.counters) =
    s'.history.map fun e => m.counted e.counters

theorem chart_congr {m : Metric} {s s' : Snapshot} (agree : s.AgreeOn m s') (week : Json) :
    chart s m week = chart s' m week := by
  have splits : ∀ s : Snapshot,
      s.splits m = (s.history.map fun e => m.counted e.counters).map m.splitOf := by
    intro s
    rw [Snapshot.splits, List.map_map]
    exact List.map_congr_left fun e _ => m.split_eq_splitOf e.counters
  have days : s.splits m = s'.splits m := by rw [splits, splits, agree.history]
  have today : m.split s.today = m.split s'.today := by
    rw [m.split_eq_splitOf, m.split_eq_splitOf, agree.today]
  have month : m.split s.month = m.split s'.month := by
    rw [m.split_eq_splitOf, m.split_eq_splitOf, agree.month]
  rw [chart_eq_chartOfSplits, chart_eq_chartOfSplits, days, today, month]

/-- Day and month do not depend on the history. -/
theorem chart_withHistory (s : Snapshot) (m : Metric) (history : List DayEntry) {n : Int}
    (positive : 0 < n) : ∃ c c', chart s m (.int n) = .ok c ∧
      chart { s with history := history } m (.int n) = .ok c' ∧ c'.day = c.day ∧
      c'.month = c.month :=
  ⟨_, _, chart_eq s m positive, chart_eq _ m positive, rfl, rfl⟩

/-- How the metrics go together, and how they stay apart, for windows of any length. The chart of
the apps is that of the workflows over the counters of the apps, with successes and failures
exchanged in day, week and month. Snapshots with the two counters of a metric in common have the
same chart of it. And another history changes neither day nor month. -/
theorem metrics_dual_apart {n : Int} (positive : 0 < n) :
    (∀ s : Snapshot, ∃ c c', chart s .app (.int n) = .ok c ∧
      chart s.asWorkflows .workflow (.int n) = .ok c' ∧
      c.day = c'.day.swap ∧ c.week = c'.week.swap ∧ c.month = c'.month.swap) ∧
    (∀ (m : Metric) (s s' : Snapshot), s.AgreeOn m s' →
      ∃ c, chart s m (.int n) = .ok c ∧ chart s' m (.int n) = .ok c) ∧
    ∀ (m : Metric) (s : Snapshot) (history : List DayEntry), ∃ c c',
      chart s m (.int n) = .ok c ∧ chart { s with history := history } m (.int n) = .ok c' ∧
      c'.day = c.day ∧ c'.month = c.month := by
  refine ⟨fun s => ?dual, fun m s s' agree => ?apart, fun m s history => ?history⟩
  case dual =>
    obtain ⟨c, made⟩ : ∃ c, chart s .app (.int n) = .ok c := ⟨_, chart_eq s .app positive⟩
    refine ⟨c, c.map Window.swap, made, ?_, rfl, rfl, rfl⟩
    rw [chart_asWorkflows, made]
    rfl
  case apart =>
    have made := chart_eq s m positive
    exact ⟨_, made, (chart_congr agree (.int n)).symm.trans made⟩
  case history => exact chart_withHistory s m history positive

/-- The chart of the apps over a week of three days: what the workflows make of the same counters,
and what it stays when everything but the counters of the apps is another. -/
theorem metrics_dual_apart_twoDays :
    (∃ c c', chart twoDays .app (.int 3) = .ok c ∧
      chart twoDays.asWorkflows .workflow (.int 3) = .ok c' ∧ c.week = c'.week.swap ∧
      c.week = ⟨6, 3⟩) ∧
    ∃ c, chart twoDays .app (.int 3) = .ok c ∧
      chart
        { orgId := "other"
          today := ⟨0, -1, 4, 1⟩
          month := ⟨3, 9, 40, 10⟩
          totalApiUsage := 8
          dailyApiUsage := 2
          history := [⟨⟨0, 0, 3, 2⟩, some ⟨19782⟩⟩, ⟨⟨7, 7, 2, 0⟩, some ⟨10592⟩⟩] }
        .app (.int 3) = .ok c := by
  obtain ⟨dual, apart, -⟩ := metrics_dual_apart (n := 3) (by decide)
  constructor
  · obtain ⟨c, c', made, made', -, week, -⟩ := dual twoDays
    obtain rfl := Except.ok.inj ((chart_eq twoDays .app (by decide)).symm.trans made)
    exact ⟨_, c', made, made', week, by decide⟩
  · exact apart .app twoDays _ ⟨by decide, by decide, by decide⟩

end Runboard
