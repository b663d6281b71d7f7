import Runboard.Proofs.RecentDays

/-!
# `Runboard.Proofs.WindowLaws`: how windows and cards go together

A day that ends joins the history. What was today is then the latest completed day, so a window that
is one day longer takes it, and beyond it the days that the shorter window took before. Nothing of
the month changes.

The chart of the workflows and the report of the executions are made apart, one from successes and
failures, the other from runs. They tell the same numbers, whatever the counters are, and they refuse
the same windows.

## Contents

* `recent_rollover`: the entries of a window after the end of a day;
* `chart_rollover`, `dailySeries_rollover`, `rollover_windows`: charts and series after the end of a day;
* `Metric.total_tally`, `sum_tally`, `total_week`: successes and failures over several days are their runs;
* `report_eq`, `report_of_refused`, `chartOf_of_refused`: what the report and the chart come to;
* `cards_agree`: the report and the chart of the workflows tell the same.
-/

namespace Runboard

/-! ## The end of a day -/

section Rollover
variable (s : Snapshot) (day : Option Day) (today : Counters) {n : Int}

/-- After the end of a day a window that is one day longer begins with that day, and goes on with the
entries of the window before. -/
theorem recent_rollover (positive : 0 < n) :
    (s.rollover day today).history.reverse.take (n + 1 - 1).toNat =
      ⟨s.today, day⟩ :: s.history.reverse.take (n - 1).toNat := by
  have longer : (n + 1 - 1).toNat = (n - 1).toNat + 1 := by omega
  rw [Snapshot.rollover_history, List.reverse_append, longer]
  rfl

theorem dailySeries_rollover (positive : 0 < n) :
    dailySeries (s.rollover day today) (.int (n + 1)) =
      (dailySeries s (.int n)).map (today.workflowRuns :: ·) := by
  rw [dailySeries_eq _ (by omega), recent_rollover s day today positive, dailySeries_eq s positive]
  rfl

/-- The week after the end of a day is the new day and the week before. -/
theorem chart_rollover (m : Metric) (positive : 0 < n) :
    chart (s.rollover day today) m (.int (n + 1)) =
      (chart s m (.int n)).map fun before =>
        ⟨m.tally today, m.tally today + before.week, before.month⟩ := by
  rw [chart_eq _ m (by omega), recent_rollover s day today positive, chart_eq s m positive]
  rfl

/-- The end of a day, for windows of any length: the series of the longer window is the new day
before the series of the shorter one; and for both metrics the longer week is the new day and the
shorter week together, success by success and failure by failure, while the month stays. -/
theorem rollover_windows (positive : 0 < n) :
    (∃ series, dailySeries s (.int n) = .ok series ∧
      dailySeries (s.rollover day today) (.int (n + 1)) = .ok (today.workflowRuns :: series)) ∧
    ∀ m : Metric, ∃ before after, chart s m (.int n) = .ok before ∧
      chart (s.rollover day today) m (.int (n + 1)) = .ok after ∧
      after.day = m.split today ∧
      after.week.success = after.day.success + before.week.success ∧
      after.week.failure = after.day.failure + before.week.failure ∧
      after.month = before.month := by
  constructor
  · have series := dailySeries_eq s positive
    refine ⟨_, series, ?_⟩
    rw [dailySeries_rollover s day today positive, series]
    rfl
  · intro m
    obtain ⟨before, made⟩ : ∃ c, chart s m (.int n) = .ok c := ⟨_, chart_eq s m positive⟩
    refine ⟨before, ⟨m.tally today, m.tally today + before.week, before.month⟩, made, ?_,
      (m.split_eq_tally today).symm, rfl, rfl, rfl⟩
    rw [chart_rollover s day today m positive, made]
    rfl

end Rollover

/-- A snapshot with two completed days. -/
def twoDays : Snapshot where
  orgId := ""
  today := ⟨10, 7, 4, 1⟩
  month := ⟨100, 70, 40, 10⟩
  totalApiUsage := 0
  dailyApiUsage := 0
  history := [⟨⟨5, 4, 3, 2⟩, none⟩, ⟨⟨6, 1, 2, 0⟩, none⟩]

/-- A week of three days, of which two are completed, after the end of another. -/
theorem rollover_windows_twoDays : ∃ before after,
    chart twoDays .app (.int 3) = .ok before ∧
      chart (twoDays.rollover none ⟨1, 1, 9, 2⟩) .app (.int 4) = .ok after ∧
      after.week.success = 7 + before.week.success := by
  obtain ⟨-, charts⟩ := rollover_windows twoDays none ⟨1, 1, 9, 2⟩ (n := 3) (by decide)
  obtain ⟨before, after, hbefore, hafter, day, success, -⟩ := charts .app
  rw [day] at success
  exact ⟨before, after, hbefore, hafter, success⟩

/-! ## Two cards -/

/-- Successes and failures together are the runs. -/
theorem Metric.total_tally (m : Metric) (c : Counters) : (m.tally c).total = m.runs c := by
  rw [← Metric.split_eq_tally, Metric.total_split]

/-- Over several days, too, successes and failures together are the runs. -/
theorem sum_tally (m : Metric) (entries : List DayEntry) :
    (entries.map fun e => (m.tally e.counters).success).sum +
      (entries.map fun e => (m.tally e.counters).failure).sum =
        (entries.map fun e => m.runs e.counters).sum := by
  induction entries with
  | nil => rfl
  | cons e entries ih =>
    have day := m.total_tally e.counters
    rw [Window.total] at day
    simp only [List.map_cons, List.sum_cons]
    omega

/-- A week of a chart has the runs of today and those of the days in its window. -/
theorem total_week (s : Snapshot) (m : Metric) {n : Int} (positive : 0 < n) :
    ∃ c, chart s m (.int n) = .ok c ∧
      c.week.total = m.runs s.today +
        ((s.history.reverse.take (n - 1).toNat).map fun e => m.runs e.counters).sum := by
  refine ⟨_, chart_eq s m positive, ?_⟩
  have day := m.total_tally s.today
  have days := sum_tally m (s.history.reverse.take (n - 1).toNat)
  rw [Window.total] at day ⊢
  dsimp only
  omega

section Refused
variable {window : Json} {e : WindowError}

theorem report_of_refused (s : Snapshot) (refused : checkWindow window = .error e) :
    report s window = .error e := by
  rw [report, dailySeries, refused]

theorem chartOf_of_refused (s : Snapshot) (m : Metric) (refused : checkWindow window = .error e) :
    chartOf s (.str m.name) window = .error (.window e) := by
  have unmade : chart s m window = .error e := by
    rw [chart, recentEntries_of_refused s.history refused]
  rw [chartOf, Metric.ofJson?, Metric.ofName?_name]
  simp only [unmade]

end Refused

theorem report_eq (s : Snapshot) {window : Json} {series : List Int}
    (found : dailySeries s window = .ok series) :
    report s window = .ok ⟨s.month.workflowRuns, s.month.workflowFinished,
      s.month.workflowRuns - s.month.workflowFinished, series⟩ := by
  rw [report, found]

theorem chartOf_eq (s : Snapshot) (m : Metric) {window : Json} {c : Chart}
    (made : chart s m window = .ok c) : chartOf s (.str m.name) window = .ok c := by
  rw [chartOf, Metric.ofJson?, Metric.ofName?_name]
  simp only [made]

/-- The report and the chart of the workflows tell the same: the days of the series add up to the
week of the chart, the first is its day, and the three figures of the month are those of its month.
Whatever is given for the length of the window, the report is refused if and only if the chart of
either metric is, and with the same message. -/
theorem cards_agree (s : Snapshot) :
    (∀ n : Int, 0 < n → ∃ series c r, dailySeries s (.int n) = .ok series ∧
      chart s .workflow (.int n) = .ok c ∧ report s (.int n) = .ok r ∧
      series.sum = c.week.total ∧ series.head? = some c.day.total ∧
      r.runs = c.month.total ∧ r.finished = c.month.success ∧ r.failed = c.month.failure ∧
      r.daily = series) ∧
    ∀ (window : Json) (m : Metric),
      (∃ r c, report s window = .ok r ∧ chartOf s (.str m.name) window = .ok c) ∨
      ∃ e : WindowError, report s window = .error e ∧
        chartOf s (.str m.name) window = .error (.window e) ∧
        (ChartError.window e).message = e.message := by
  constructor
  · intro n positive
    have series := dailySeries_eq s positive
    have made := chart_eq s .workflow positive
    obtain ⟨c, made', week⟩ := total_week s .workflow positive
    obtain rfl := Except.ok.inj (made.symm.trans made')
    refine ⟨_, _, _, series, made, report_eq s series, ?_, ?_, ?_, rfl, rfl, rfl⟩
    · rw [week, List.sum_cons]
      rfl
    · exact congrArg some (Metric.total_tally .workflow s.today).symm
    · exact (Metric.total_tally .workflow s.month).symm
  · intro window m
    cases checked : checkWindow window with
    | error e =>
      exact .inr ⟨e, report_of_refused s checked, chartOf_of_refused s m checked, rfl⟩
    | ok n =>
      obtain ⟨rfl, positive⟩ := checkWindow_eq_ok checked
      exact .inl ⟨_, _, report_eq s (dailySeries_eq s positive), chartOf_eq s m (chart_eq s m positive)⟩

/-- The cards of a snapshot whose counters contradict each other. -/
theorem cards_agree_twoDays : ∃ series c,
    dailySeries { twoDays with today := ⟨-3, 8, 0, 0⟩ } (.int 2) = .ok series ∧
      chart { twoDays with today := ⟨-3, 8, 0, 0⟩ } .workflow (.int 2) = .ok c ∧
      series.sum = c.week.total := by
  obtain ⟨cards, -⟩ := cards_agree { twoDays with today := ⟨-3, 8, 0, 0⟩ }
  obtain ⟨series, c, -, hseries, hc, -, sum, -⟩ := cards 2 (by decide)
  exact ⟨series, c, hseries, hc, sum⟩

end Runboard
