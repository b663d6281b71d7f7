import Runboard.Proofs.ChartAnswer

/-!
# `Runboard.Proofs.ReportAnswer`: what the report of the executions tells

A caller who may read an organization that has counters is told the workflow runs of the month, how
many of them finished and how many did not, and a series of days: today first, then the completed
days from the latest on, as far as the month of the settings reaches. The series has no place for a
day that is not in the tables.

Only the counters that the report shows have to be integers. What stands in the others does not
matter, although a store of integers throughout is read in another way. The identifiers that are loaded
on the way have to be stored as texts, as for a chart.

## Contents

* `Amount.whole?_eq_some`, `Snapshot.eq_ofWhole`: integers found among amounts are those amounts;
* `reportFigures_eq`: both ways to read a report agree;
* `Report.ofWhole`, `reportFigures_of_runs`, `result_report`: the report of the tables;
* `Service.answer_executions`: the answer to a visit to the report.
-/

namespace Runboard

/-! ## Integers among amounts -/

theorem Amount.whole?_eq_some {a : Amount} {n : Int} : a.whole? = some n ↔ a = .whole n := by
  cases a <;> simp [Amount.whole?]

theorem Counters.eq_ofWhole {c : Counters Amount} {c' : Counters}
    (h : c.mapM Amount.whole? = some c') : c = c'.ofWhole := by
  simp only [Counters.mapM, Option.bind_eq_bind, Option.bind_eq_some_iff, Option.pure_def,
    Option.some.injEq, Amount.whole?_eq_some] at h
  obtain ⟨runs, hruns, finished, hfinished, apps, happs, failed, hfailed, rfl⟩ := h
  rw [Counters.ofWhole, ← hruns, ← hfinished, ← happs, ← hfailed]

theorem DayEntry.eq_ofWhole {e : DayEntry Amount} {e' : DayEntry}
    (h : e.mapM Amount.whole? = some e') : e = e'.ofWhole := by
  obtain ⟨counters, found, rfl⟩ := Option.map_eq_some_iff.1 h
  rw [DayEntry.ofWhole, ← Counters.eq_ofWhole found]

theorem eq_map_ofWhole {entries : List (DayEntry Amount)} {entries' : List DayEntry}
    (h : entries.mapM (DayEntry.mapM Amount.whole?) = some entries') :
    entries = entries'.map DayEntry.ofWhole := by
  induction entries generalizing entries' with
  | nil =>
    cases h
    rfl
  | cons e rest ih =>
    simp only [List.mapM_cons, Option.bind_eq_bind, Option.bind_eq_some_iff, Option.pure_def,
      Option.some.injEq] at h
    obtain ⟨e', found, rest', foundRest, rfl⟩ := h
    rw [List.map_cons, ← DayEntry.eq_ofWhole found, ← ih foundRest]

/-- The integers that are found in a snapshot are what stands in it. -/
theorem Snapshot.eq_ofWhole {s : Snapshot Amount} {s' : Snapshot} (h : s.whole? = some s') :
    s = s'.ofWhole := by
  simp only [Snapshot.whole?, Snapshot.mapM, Option.bind_eq_bind, Option.bind_eq_some_iff,
    Option.pure_def, Option.some.injEq, Amount.whole?_eq_some] at h
  obtain ⟨today, htoday, month, hmonth, total, htotal, daily, hdaily, history, hhistory, rfl⟩ := h
  rw [Snapshot.ofWhole, ← Counters.eq_ofWhole htoday, ← Counters.eq_ofWhole hmonth, ← htotal,
    ← hdaily, ← eq_map_ofWhole hhistory]

/-! ## Reports -/

/-- A report of integers as one of amounts. -/
def Report.ofWhole (r : Report) : Report Amount where
  runs := .whole r.runs
  finished := .whole r.finished
  failed := .whole r.failed
  daily := r.daily.map .whole

theorem mapM_shown?_whole (ns : List Int) : (ns.map Amount.whole).mapM Amount.shown? = some ns := by
  induction ns with
  | nil => rfl
  | cons n rest ih =>
    rw [List.map_cons, List.mapM_cons, ih]
    rfl

/-- Integers are shown as they are. -/
theorem Report.shown?_ofWhole (r : Report) : r.ofWhole.shown? = some r := by
  rw [Report.shown?, Report.ofWhole]
  simp only [mapM_shown?_whole]
  rfl

section Reports
variable {s : Snapshot Amount} {n today total finished : Int} {days : List Int}

/-- The report of a snapshot in which the counters of workflow runs are integers. -/
theorem reportOfAmounts_eq (positive : 0 < n) (runsToday : s.today.workflowRuns = .whole today)
    (runsMonth : s.month.workflowRuns = .whole total)
    (finishedMonth : s.month.workflowFinished = .whole finished)
    (runsDays : (s.history.reverse.take (n - 1).toNat).map (·.counters.workflowRuns) =
      days.map .whole) :
    reportOfAmounts s (.int n) = .ok
      (Report.ofWhole ⟨total, finished, total - finished, today :: days⟩) := by
  rw [reportOfAmounts, entriesWithin, recentEntries_eq s.history positive, runsMonth, finishedMonth,
    runsToday]
  show Except.ok (Report.mk _ _ _ (_ :: List.map _ _)) = _
  rw [runsDays]
  rfl

/-- A snapshot of integers has the same report if its amounts are read as such. -/
theorem reportFigures_eq (s : Snapshot Amount) (positive : 0 < n) :
    reportFigures s (.int n) = (reportOfAmounts s (.int n)).map Report.shown? := by
  cases found : s.whole? with
  | none => simp only [reportFigures, found]
  | some s' =>
    obtain rfl := Snapshot.eq_ofWhole found
    have days : (s'.ofWhole.history.reverse.take (n - 1).toNat).map (·.counters.workflowRuns) =
        ((s'.history.reverse.take (n - 1).toNat).map (·.counters.workflowRuns)).map .whole := by
      rw [Snapshot.ofWhole, ← List.map_reverse, ← List.map_take, List.map_map, List.map_map]
      rfl
    rw [reportFigures_ofWhole, report, dailySeries_eq s' positive,
      reportOfAmounts_eq positive rfl rfl rfl days]
    exact congrArg Except.ok (Report.shown?_ofWhole _).symm

/-- The figures of the report of such a snapshot. -/
theorem reportFigures_of_runs (positive : 0 < n) (runsToday : s.today.workflowRuns = .whole today)
    (runsMonth : s.month.workflowRuns = .whole total)
    (finishedMonth : s.month.workflowFinished = .whole finished)
    (runsDays : (s.history.reverse.take (n - 1).toNat).map (·.counters.workflowRuns) =
      days.map .whole) :
    reportFigures s (.int n) = .ok (some ⟨total, finished, total - finished, today :: days⟩) := by
  rw [reportFigures_eq s positive,
    reportOfAmounts_eq positive runsToday runsMonth finishedMonth runsDays]
  exact congrArg Except.ok (Report.shown?_ofWhole _)

end Reports

/-- A report tells integers, and those have bytes. -/
theorem holdsHalf_report (r : Report) :
    (dataEnvelope (PageData.executions r).json).holdsHalf = false := by
  have days : Json.anyHoldsHalf (r.daily.map .int) = false := by
    induction r.daily with
    | nil => rfl
    | cons n rest ih => exact ih
  simp only [dataEnvelope, PageData.json, Report.json, Json.holdsHalf, Json.anyFieldHoldsHalf, days]
  decide

section Tables
variable {t : Tables} {u : Uuid}

/-- The report of tables in which the counters of workflow runs are integers. -/
theorem result_report {v : TableView} (seen : v = ⟨.ok t, true⟩) {org : Json}
    (parsed : Uuid.ofJson? org = some u) {row : StatisticsRow} (found : t.statistics? u = some row)
    (texts : AreTexts (t.snapshotIds org)) {settings : Settings}
    (positive : 0 < settings.monthLength) {today total finished : Int}
    {runs : DayRow → Int} (runsToday : row.today.workflowRuns = .whole today)
    (runsMonth : row.month.workflowRuns = .whole total)
    (finishedMonth : row.month.workflowFinished = .whole finished)
    (runsDays : ∀ r ∈ t.daysOf u, r.counters.workflowRuns = .whole (runs r)) :
    (Page.executions.read settings v org).result = .ok (.executions
      ⟨total, finished, total - finished, today ::
        (latest (·.day) (settings.monthLength - 1).toNat (t.daysOf u)).map runs⟩) := by
  have named : Page.snapshotNamed v t org = .ok (t.snapshotOf u row).1 := by
    rw [Page.snapshotNamed, parsed, Option.bind_some, Page.snapshotFor?, found, Option.map_some,
      seen]
    rfl
  -- The history is in the order of the days, so its end holds the latest ones.
  have days : ((History.byDay (t.history u)).reverse.take (settings.monthLength - 1).toNat).map
      (·.counters.workflowRuns) =
        ((latest (·.day) (settings.monthLength - 1).toNat (t.daysOf u)).map runs).map .whole := by
    rw [byDay_history, ← List.map_reverse, ← List.map_take, List.map_map, List.map_map]
    refine List.map_congr_left fun r hr => ?_
    exact runsDays r ((inDayOrder_perm _ _).mem_iff.1 (List.mem_reverse.1 (List.mem_of_mem_take hr)))
  have figures : reportFigures (t.snapshotOf u row).1 (.int settings.monthLength) =
      .ok (some ⟨total, finished, total - finished, today ::
        (latest (·.day) (settings.monthLength - 1).toNat (t.daysOf u)).map runs⟩) := by
    rw [Tables.snapshotOf_eq]
    exact reportFigures_of_runs positive runsToday runsMonth finishedMonth days
  rw [Page.read, Traced.result_bind, Page.result_readSnapshot (congrArg TableView.tables seen) texts,
    named]
  simp only
  rw [Traced.result_bind, figures]
  rfl

end Tables

/-! ## Answers -/

namespace Service
variable {s : Service} {r : Request}

/-- A visit to the report of the executions by a caller whom the tables admit is told the runs of the
month, those that finished and the others, and the series of the days: today, then the completed days in
strictly descending order, one fewer than the month of the settings is long at most, with no place
for a day that is missing. So it is if nothing stands in the way of the check of access and the row of
counters and all days are loaded; otherwise there is no prepared answer. The order in which the rows were
added does not show, whatever stands in them. -/
theorem answer_executions (visits : r.Visits .executions) {k : KeptSettings} {cache : SettingsCache}
    (kept : s.cache.get = (.ok k, cache)) {c : Caller} (isFrom : r.IsFrom s.room k.settings s.now c)
    {t : Tables} (seen : s.database.view = ⟨.ok t, true⟩) (keyed : t.Keyed) (admitted : t.Admits c)
    {u : Uuid} (parsed : Uuid.ofJson? c.orgId = some u) {row : StatisticsRow}
    (found : t.statistics? u = some row) (month : 0 < k.settings.monthLength) :
    (¬ t.Chokes c → AreTexts (t.snapshotIds c.orgId) →
      ∀ today total finished (runs : DayRow → Int), row.today.workflowRuns = .whole today →
      row.month.workflowRuns = .whole total → row.month.workflowFinished = .whole finished →
      (∀ r ∈ t.daysOf u, r.counters.workflowRuns = .whole (runs r)) →
      ∃ (days : List DayRow) (daily : List Int),
      days.Perm (t.daysOf u) ∧ (days.Pairwise fun a b => b.day < a.day) ∧
      daily = today :: (days.map runs).take (k.settings.monthLength - 1).toNat ∧
      daily.length = 1 + min (t.daysOf u).length (k.settings.monthLength - 1).toNat ∧
      (s.answer r).1.response.status = 200 ∧
      (s.answer r).1.response.body = .json (.obj [("success", .bool true), ("data", .obj [
        ("workflow_executions", .int total),
        ("workflow_executions_finished", .int finished),
        ("workflow_executions_failed", .int (total - finished)),
        ("daily_workflow_executions", .arr (daily.map .int))])])) ∧
    (t.Chokes c ∨ ¬ AreTexts (t.snapshotIds c.orgId) →
      (s.answer r).1.response = .internalError) ∧
    ∀ d t', d.view = ⟨.ok t', true⟩ → t.SameRows t' →
      ((s.withDatabase d).answer r).1.response = (s.answer r).1.response := by
  have tables := congrArg TableView.tables seen
  have known := identify_of_isFrom kept isFrom
  refine ⟨?loads, ?number, ?order⟩
  case loads =>
    intro clear texts today total finished runs runsToday runsMonth finishedMonth runsDays
    obtain ⟨user, named⟩ := isFrom.userId
    have authorized := (authorized_iff tables named).2 ⟨admitted, clear⟩
    have days : ((inDayOrder (·.day) (t.daysOf u)).reverse.map runs).take
        (k.settings.monthLength - 1).toNat =
          (latest (·.day) (k.settings.monthLength - 1).toNat (t.daysOf u)).map runs :=
      List.map_take.symm
    refine ⟨(inDayOrder (·.day) (t.daysOf u)).reverse, _,
      (List.reverse_perm _).trans (inDayOrder_perm _ _),
      reverse_inDayOrder_strict (keyed.nodup_daysOf u), rfl, ?_, ?_⟩
    · rw [days, List.length_cons, List.length_map, length_latest]
      omega
    · rw [answer_of_known visits known tables, pageResult, authorized, days]
      simp only [result_report seen parsed found texts month runsToday runsMonth finishedMonth
        runsDays]
      exact replyTo_data (holdsHalf_report _)
  case number =>
    intro number
    exact unanswered_of_number visits kept isFrom tables admitted number
  case order =>
    intro d t' seen' same
    exact response_of_sameRows visits kept isFrom seen seen' keyed same parsed
      (keyed.areTexts_snapshotIds same _)

/-- A service with these tables and months of a number of days. -/
def monthService (t : Tables) (length : Int) : Service :=
  { plainService t with
    cache :=
      { plainCache with kept := some { settings := { plainSettings with monthLength := length } } } }

/-- In months of three days a member is told today and the two latest of the three days of the
organization, whose rows were added in another order. -/
theorem answer_executions_countedAcme :
    ((monthService countedAcme 3).answer
        (plainVisit "/api/v1/dashboard/workflow-executions" "u-1" acmeId false)).1.response.status =
      200 ∧
    ((monthService countedAcme 3).answer
        (plainVisit "/api/v1/dashboard/workflow-executions" "u-1" acmeId false)).1.response.body =
      .json (.obj [("success", .bool true), ("data", .obj [
        ("workflow_executions", .int 100), ("workflow_executions_finished", .int 70),
        ("workflow_executions_failed", .int 30),
        ("daily_workflow_executions", .arr [.int 10, .int 8, .int 5])])]) := by
  have isFrom := isFrom_acmeVisit "/api/v1/dashboard/workflow-executions" "u-1" false (by decide)
    (by decide)
  have visits : (plainVisit "/api/v1/dashboard/workflow-executions" "u-1" acmeId false).Visits
      .executions := visits_withBearer rfl rfl trivial
  have found : countedAcme.statistics? ⟨0xa⟩ = some _ :=
    (Tables.statistics?_eq acmeId_keptAsText).trans rfl
  have runsDays : ∀ r ∈ countedAcme.daysOf ⟨0xa⟩, r.counters.workflowRuns =
      .whole (wholeOf r).workflowRuns := by decide +kernel
  obtain ⟨admitted, clear⟩ := admits_acmeMember (t := countedAcme) rfl rfl
  obtain ⟨loads, -⟩ := answer_executions (s := monthService countedAcme 3) visits
    (k := { settings := { plainSettings with monthLength := 3 } }) rfl isFrom
    (view_plainService countedAcme) keyed_countedAcme admitted acmeId_parsed found (by decide)
  obtain ⟨days, daily, same, descending, series, -, status, body⟩ :=
    loads clear (Page.areTexts_snapshotIds keepsTexts_countedAcme _) 10 100 70
      (fun r => (wholeOf r).workflowRuns) rfl rfl rfl runsDays
  -- The only descending order of the three days is the one that is expected.
  have ordered : days = [⟨none, ⟨0xa⟩, ⟨19002⟩, Counters.ofWhole ⟨8, 8, 1, 1⟩⟩,
      ⟨none, ⟨0xa⟩, ⟨19001⟩, Counters.ofWhole ⟨5, 4, 3, 2⟩⟩,
      ⟨none, ⟨0xa⟩, ⟨19000⟩, Counters.ofWhole ⟨6, 1, 2, 0⟩⟩] := by
    rw [Tables.daysOf_eq acmeId_keptAsText] at same
    refine List.Perm.eq_of_pairwise ?_ descending (by decide) (same.trans (by decide))
    intro a b _ _ after before
    rw [Day.lt_def] at after before
    omega
  rw [ordered] at series
  rw [series] at body
  exact ⟨status, body⟩

/-- A member of an organization whose identifier is stored as a number sees no report, although the
organization has counters. -/
theorem not_answer_executions_exponentAcme :
    (plainVisit "/api/v1/dashboard/workflow-executions" "u-1" exponentId false).IsFrom plainRoom
        plainSettings (plainService exponentAcme).now (Token.namedCaller "u-1" "" exponentId false) ∧
      exponentAcme.Keyed ∧ exponentAcme.Admits (Token.namedCaller "u-1" "" exponentId false) ∧
      (∃ row ∈ exponentAcme.statistics, row.orgId = ⟨0x1e5⟩ ∧
        row.Counts ⟨10, 7, 4, 1⟩ ⟨100, 70, 40, 10⟩) ∧
      ((plainService exponentAcme).answer
        (plainVisit "/api/v1/dashboard/workflow-executions" "u-1" exponentId false)).1.response =
          .internalError := by
  have visits : (plainVisit "/api/v1/dashboard/workflow-executions" "u-1" exponentId false).Visits
      .executions := visits_withBearer rfl rfl trivial
  refine ⟨isFrom_exponentVisit _ "u-1" (by decide) (by decide), keyed_exponentAcme,
    admits_exponentAcme, counts_exponentAcme, ?_⟩
  exact answer_of_exponentVisit ⟨_, List.mem_singleton.2 rfl, rfl⟩ (by decide) (by decide) visits

end Service

end Runboard
