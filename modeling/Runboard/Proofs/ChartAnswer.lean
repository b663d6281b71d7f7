import Runboard.Proofs.TenantIsolation

/-!
# `Runboard.Proofs.ChartAnswer`: what a chart tells

A caller who may read an organization that has counters is told, for a metric, the successes and
failures of the day, of the week and of the month. Day and month are those of the counters. The week
is the day with the completed days of the week added: one fewer than the week is long, as far as the
organization has so many, and those with the latest dates.

Counters are integers here, as the columns say. Where texts or fractions stand in their place there
may be no sums. All this is so if the identifiers that are loaded on the way are stored as texts; if one
of them is stored as a number, or the user has no bytes, nothing is told.

## Contents

* `StatisticsRow.Counts`, `Tables.Counts`: counters that are integers;
* `snapshotFor?_of_counts`, `result_chart`: the snapshot and the chart of such tables;
* `Service.replyTo_data`, `Service.answer_of_data`: data are told;
* `Service.unanswered_of_number`, `Service.response_of_sameRows`: callers of whom a row cannot be loaded,
  and rows in another order;
* `Window.json`, `Service.answer_chart`: the answer to a visit to a chart.
-/

namespace Runboard

/-! ## Counters that are integers -/

/-- The counters of an organization are the given integers. -/
structure StatisticsRow.Counts (row : StatisticsRow) (today month : Counters) : Prop where
  today : row.today = today.ofWhole
  month : row.month = month.ofWhole
  total : ∃ n, row.totalApiUsage = .whole n
  daily : ∃ n, row.dailyApiUsage = .whole n

/-- A window as it is told. -/
def Window.json (w : Window) : Json :=
  .obj [ ("total", .int (w.success + w.failure)), ("success", .int w.success),
    ("failure", .int w.failure)]

/-- The runs of some completed days after those of another period. -/
def Window.plus (w : Window) (m : Metric) (counts : DayRow → Counters) (days : List DayRow) :
    Window where
  success := w.success + (days.map fun r => (m.tally (counts r)).success).sum
  failure := w.failure + (days.map fun r => (m.tally (counts r)).failure).sum

section Chart
variable {t : Tables} {u : Uuid} {row : StatisticsRow} {today month : Counters}
  {counts : DayRow → Counters}

/-- The snapshot of integers that an organization has. -/
theorem snapshotFor?_of_counts (found : t.statistics? u = some row)
    (whole : row.Counts today month) (wholeDays : ∀ r ∈ t.daysOf u, r.counters = (counts r).ofWhole) :
    ∃ s : Snapshot, Page.snapshotFor? t u = some s.ofWhole ∧ s.today = today ∧ s.month = month ∧
      s.history = (inDayOrder (·.day) (t.daysOf u)).map fun r => ⟨counts r, some r.day⟩ := by
  obtain ⟨total, htotal⟩ := whole.total
  obtain ⟨daily, hdaily⟩ := whole.daily
  have history : History.byDay (t.history u) =
      ((inDayOrder (·.day) (t.daysOf u)).map fun r => (⟨counts r, some r.day⟩ : DayEntry)).map
        DayEntry.ofWhole := by
    rw [byDay_history, List.map_map]
    refine List.map_congr_left fun r hr => ?_
    have counters := wholeDays r ((inDayOrder_perm _ _).mem_iff.1 hr)
    rw [DayRow.entry, counters]
    rfl
  refine ⟨⟨u.text, today, month, total, daily, _⟩, ?_, rfl, rfl, rfl⟩
  rw [Page.snapshotFor?, found, Option.map_some, Tables.snapshotOf_eq, whole.today, whole.month,
    htotal, hdaily, history]
  rfl

/-- The chart of tables with integers, over the latest days. -/
theorem result_chart {v : TableView} (seen : v = ⟨.ok t, true⟩) {org : Json}
    (parsed : Uuid.ofJson? org = some u) (found : t.statistics? u = some row)
    (texts : AreTexts (t.snapshotIds org)) (whole : row.Counts today month)
    (wholeDays : ∀ r ∈ t.daysOf u, r.counters = (counts r).ofWhole) {settings : Settings}
    (week : 0 < settings.weekLength) (m : Metric) :
    ((Page.chart m.name).read settings v org).result = .ok (.chart {
      day := (m.tally today).figures
      week := ((m.tally today).plus m counts
        (latest (·.day) (settings.weekLength - 1).toNat (t.daysOf u))).figures
      month := (m.tally month).figures }) := by
  obtain ⟨s, snapshot, rfl, rfl, history⟩ := snapshotFor?_of_counts found whole wholeDays
  have named : Page.snapshotNamed v t org = .ok s.ofWhole := by
    rw [Page.snapshotNamed, parsed, Option.bind_some, snapshot, seen]
    rfl
  -- The history is in the order of the days, so its end holds the latest ones.
  have recent : s.history.reverse.take (settings.weekLength - 1).toNat =
      (latest (·.day) (settings.weekLength - 1).toNat (t.daysOf u)).map
        fun r => ⟨counts r, some r.day⟩ := by
    rw [history, ← List.map_reverse, ← List.map_take]
    rfl
  have figures : chartFigures s.ofWhole m (.int settings.weekLength) = .ok (some {
      day := (m.tally s.today).figures
      week := ((m.tally s.today).plus m counts
        (latest (·.day) (settings.weekLength - 1).toNat (t.daysOf u))).figures
      month := (m.tally s.month).figures }) := by
    rw [chartFigures_ofWhole, chart_eq s m week, recent, List.map_map, List.map_map]
    rfl
  rw [Page.read, Metric.ofName?_name]
  simp only
  rw [Traced.result_bind, Page.result_readSnapshot (congrArg TableView.tables seen) texts,
    named]
  simp only
  rw [Traced.result_bind, figures]
  rfl

end Chart

/-! ## Answers -/

namespace Service
variable {s : Service} {r : Request}

/-- A page that is read is told with status 200. -/
theorem replyTo_data {data : PageData} (whole : (dataEnvelope data.json).holdsHalf = false) :
    (s.replyTo r (pageOutcome (.ok data))).response.status = 200 ∧
      (s.replyTo r (pageOutcome (.ok data))).response.body = .json (dataEnvelope data.json) := by
  have sendable : (Response.json 200 (dataEnvelope data.json)).canBeSent = true := by
    show (!(dataEnvelope data.json).holdsHalf) = true
    rw [whole]
    rfl
  exact replyTo_of_sent sendable

/-- What a page shows to its caller is told. -/
theorem answer_of_data {page : Page} (visits : r.Visits page) {k : KeptSettings}
    {cache : SettingsCache} (kept : s.cache.get = (.ok k, cache)) {c : Caller}
    (isFrom : r.IsFrom s.room k.settings s.now c) {t : Tables} (seen : s.database.view.tables = .ok t)
    {data : PageData} (read : pageResult k.settings s.database.view c page = .ok data)
    (whole : (dataEnvelope data.json).holdsHalf = false) :
    (s.answer r).1.response.status = 200 ∧
      (s.answer r).1.response.body = .json (dataEnvelope data.json) := by
  rw [answer_of_known visits (identify_of_isFrom kept isFrom) seen, read]
  exact replyTo_data whole

/-- A caller whom the tables admit gets no prepared answer if something stands in the way of the check of
access, or if a row that the page fetches cannot be loaded. -/
theorem unanswered_of_number {page : Page} (visits : r.Visits page) {k : KeptSettings}
    {cache : SettingsCache} (kept : s.cache.get = (.ok k, cache)) {c : Caller}
    (isFrom : r.IsFrom s.room k.settings s.now c) {t : Tables} (seen : s.database.view.tables = .ok t)
    (admitted : t.Admits c)
    (number : t.Chokes c ∨ ¬ AreTexts (page.loadedIds k.settings t c.orgId)) :
    (s.answer r).1.response = .internalError := by
  have known := identify_of_isFrom kept isFrom
  obtain ⟨user, named⟩ := isFrom.userId
  by_cases chokes : t.Chokes c
  · exact (answer_of_chokes visits known seen named chokes).1
  · have authorized := (authorized_iff seen named).2 ⟨admitted, chokes⟩
    exact (answer_of_number visits known seen authorized (number.resolve_left chokes)).1

/-- Another order of the rows does not show in the answer to a caller, if it does not decide about whether
the rows that the page fetches can be loaded. -/
theorem response_of_sameRows {page : Page} (visits : r.Visits page) {k : KeptSettings}
    {cache : SettingsCache} (kept : s.cache.get = (.ok k, cache)) {c : Caller}
    (isFrom : r.IsFrom s.room k.settings s.now c) {t t' : Tables}
    (seen : s.database.view = ⟨.ok t, true⟩)
    {d : Database} (seen' : d.view = ⟨.ok t', true⟩) (keyed : t.Keyed) (same : t.SameRows t') {u : Uuid}
    (parsed : Uuid.ofJson? c.orgId = some u)
    (texts : AreTexts (page.loadedIds k.settings t c.orgId) ↔
      AreTexts (page.loadedIds k.settings t' c.orgId)) :
    ((s.withDatabase d).answer r).1.response = (s.answer r).1.response := by
  have known := identify_of_isFrom kept isFrom
  have tables := congrArg TableView.tables seen
  have tables' := congrArg TableView.tables seen'
  obtain ⟨user, named⟩ := isFrom.userId
  by_cases text : u.KeptAsText
  · have agree := keyed.agreeFor same text user
    have reads : s.database.view.readsDays = d.view.readsDays := by rw [seen, seen']
    have access : checkAccess s.database.view c = checkAccess d.view c := by
      refine checkAccess_congr tables tables' named ?_ ?_
      · intro u' parsed'
        exact Option.some.inj (parsed.symm.trans parsed') ▸ text
      · intro u' parsed'
        exact Option.some.inj (parsed.symm.trans parsed') ▸ agree.toAgreeOnAccess
    rw [answer_of_known visits known tables,
      answer_of_known (s := s.withDatabase d) visits known tables']
    show (s.replyTo r (pageOutcome (pageResult k.settings d.view c page))).response = _
    by_cases loaded : AreTexts (page.loadedIds k.settings t c.orgId)
    · rw [pageResult_congr tables tables' reads parsed text named keyed agree loaded (texts.1 loaded)]
    · -- Which row cannot be loaded depends on the order, but not that there is one.
      obtain ⟨fault, stopped⟩ := Page.result_of_number tables loaded
      obtain ⟨fault', stopped'⟩ := Page.result_of_number tables' (mt texts.2 loaded)
      rw [pageResult, pageResult, access]
      cases (checkAccess d.view c).result with
      | error stop => rfl
      | ok _ =>
        simp only [stopped, stopped']
        rfl
  · have answered := answer_of_numberedOrg visits known tables parsed text
    have answered' := answer_of_numberedOrg (s := s.withDatabase d) visits known tables' parsed text
    by_cases found : t.HasNumberedOrg c.orgId
    · rw [(answered.1 found).1, (answered'.1 ((Tables.hasNumberedOrg_congr same _).1 found)).1]
    · rw [answered.2 found, answered'.2 fun h => found ((Tables.hasNumberedOrg_congr same _).2 h)]
      rfl

/-- A visit to a chart by a caller whom the tables admit is told the windows of the metric: the day, the
week of the latest completed days after it, and the month. So it is if nothing stands in the way of the
check of access and the row of counters and all days are loaded; otherwise there is no prepared answer.
The order in which the rows were added does not show, whatever stands in them. -/
theorem answer_chart {m : Metric} (visits : r.Visits (.chart m.name)) {k : KeptSettings}
    {cache : SettingsCache} (kept : s.cache.get = (.ok k, cache)) {c : Caller}
    (isFrom : r.IsFrom s.room k.settings s.now c) {t : Tables} (seen : s.database.view = ⟨.ok t, true⟩)
    (keyed : t.Keyed) (admitted : t.Admits c) {u : Uuid}
    (parsed : Uuid.ofJson? c.orgId = some u) {row : StatisticsRow}
    (found : t.statistics? u = some row) (week : 0 < k.settings.weekLength) :
    (¬ t.Chokes c → AreTexts (t.snapshotIds c.orgId) →
      ∀ today month counts, row.Counts today month →
      (∀ r ∈ t.daysOf u, r.counters = (counts r : Counters).ofWhole) → ∃ newest older,
      (newest ++ older).Perm (t.daysOf u) ∧
      newest.length = min (k.settings.weekLength - 1).toNat (t.daysOf u).length ∧
      (∀ a ∈ newest, ∀ b ∈ older, b.day < a.day) ∧
      (s.answer r).1.response.status = 200 ∧
      (s.answer r).1.response.body = .json (.obj [("success", .bool true), ("data", .obj [
        ("day", (m.tally today).json),
        ("week", ((m.tally today).plus m counts newest).json),
        ("month", (m.tally month).json)])])) ∧
    (t.Chokes c ∨ ¬ AreTexts (t.snapshotIds c.orgId) →
      (s.answer r).1.response = .internalError) ∧
    ∀ d t', d.view = ⟨.ok t', true⟩ → t.SameRows t' →
      ((s.withDatabase d).answer r).1.response = (s.answer r).1.response := by
  have tables := congrArg TableView.tables seen
  have known := identify_of_isFrom kept isFrom
  have loaded : ∀ t : Tables,
      Page.loadedIds k.settings t c.orgId (.chart m.name) = t.snapshotIds c.orgId := by
    intro t
    simp only [Page.loadedIds, Metric.ofName?_name]
  refine ⟨?loads, ?number, ?order⟩
  case loads =>
    intro clear texts today month counts whole wholeDays
    obtain ⟨user, named⟩ := isFrom.userId
    have authorized := (authorized_iff tables named).2 ⟨admitted, clear⟩
    refine ⟨latest (·.day) (k.settings.weekLength - 1).toNat (t.daysOf u),
      earlier (·.day) (k.settings.weekLength - 1).toNat (t.daysOf u),
      latest_append_earlier _ _ _, length_latest _ _ _,
      earlier_lt_latest (keyed.nodup_daysOf u) _, ?_⟩
    rw [answer_of_known visits known tables, pageResult, authorized]
    simp only [result_chart seen parsed found texts whole wholeDays week m]
    exact replyTo_data rfl
  case number =>
    intro number
    rw [← loaded] at number
    exact unanswered_of_number visits kept isFrom tables admitted number
  case order =>
    intro d t' seen' same
    refine response_of_sameRows visits kept isFrom seen seen' keyed same parsed ?_
    rw [loaded, loaded]
    exact keyed.areTexts_snapshotIds same _

/-- Tables with the counters and the days of an organization, and a day of another. -/
def countedAcme : Tables :=
  { acme with
    statistics :=
      [⟨none, ⟨0xa⟩, Counters.ofWhole ⟨10, 7, 4, 1⟩, Counters.ofWhole ⟨100, 70, 40, 10⟩,
        .whole 5, .whole 2⟩]
    days :=
      [ ⟨none, ⟨0xa⟩, ⟨19002⟩, Counters.ofWhole ⟨8, 8, 1, 1⟩⟩,
        ⟨none, ⟨0xb⟩, ⟨19003⟩, Counters.ofWhole ⟨90, 9, 9, 9⟩⟩,
        ⟨none, ⟨0xa⟩, ⟨19000⟩, Counters.ofWhole ⟨6, 1, 2, 0⟩⟩,
        ⟨none, ⟨0xa⟩, ⟨19001⟩, Counters.ofWhole ⟨5, 4, 3, 2⟩⟩] }

/-- The integers of a day. -/
def wholeOf (r : DayRow) : Counters := (r.counters.mapM Amount.whole?).getD default

theorem keyed_countedAcme : countedAcme.Keyed := by
  constructor <;> decide +kernel

theorem keepsTexts_countedAcme : countedAcme.KeepsTexts := by
  constructor <;> decide +kernel

/-- A member sees the chart of the workflows, and sees it again if the days were added the other way
around. -/
theorem answer_chart_countedAcme :
    ((plainService countedAcme).answer
        (plainVisit "/api/v1/dashboard/charts/workflow" "u-1" acmeId false)).1.response.status = 200 ∧
      (((plainService countedAcme).withDatabase
          (memoryOf { countedAcme with days := countedAcme.days.reverse })).answer
        (plainVisit "/api/v1/dashboard/charts/workflow" "u-1" acmeId false)).1.response =
      ((plainService countedAcme).answer
        (plainVisit "/api/v1/dashboard/charts/workflow" "u-1" acmeId false)).1.response := by
  have isFrom := isFrom_acmeVisit "/api/v1/dashboard/charts/workflow" "u-1" false (by decide)
    (by decide)
  have visits : (plainVisit "/api/v1/dashboard/charts/workflow" "u-1" acmeId false).Visits
      (.chart Metric.workflow.name) :=
      visits_withBearer rfl rfl ⟨by decide, by decide⟩
  have whole : (⟨none, ⟨0xa⟩, Counters.ofWhole ⟨10, 7, 4, 1⟩, Counters.ofWhole ⟨100, 70, 40, 10⟩,
      .whole 5, .whole 2⟩ : StatisticsRow).Counts ⟨10, 7, 4, 1⟩ ⟨100, 70, 40, 10⟩ :=
    ⟨rfl, rfl, ⟨_, rfl⟩, ⟨_, rfl⟩⟩
  have wholeDays : ∀ r ∈ countedAcme.daysOf ⟨0xa⟩, r.counters = (wholeOf r).ofWhole := by
    decide +kernel
  have found : countedAcme.statistics? ⟨0xa⟩ = some _ :=
    (Tables.statistics?_eq acmeId_keptAsText).trans rfl
  obtain ⟨admitted, clear⟩ := admits_acmeMember (t := countedAcme) rfl rfl
  obtain ⟨loads, -, reordered⟩ := answer_chart (s := plainService countedAcme) visits
    (k := { settings := plainSettings }) rfl isFrom (view_plainService countedAcme) keyed_countedAcme
    admitted acmeId_parsed found (by decide)
  obtain ⟨newest, older, -, -, -, status, -⟩ :=
    loads clear (Page.areTexts_snapshotIds keepsTexts_countedAcme _) _ _ wholeOf whole wholeDays
  refine ⟨status, reordered _ _ (view_memoryOf _) ?_⟩
  exact ⟨.refl _, .refl _, .refl _, (List.reverse_perm _).symm, .refl _, .refl _, .refl _⟩

/-- Tables with an organization whose identifier is stored as a number, a member of it, and its
counters. -/
def exponentAcme : Tables where
  orgs := [⟨some ⟨0x1e5⟩, "Acme"⟩]
  members := [⟨none, ⟨0x1e5⟩, "u-1"⟩]
  statistics :=
    [⟨none, ⟨0x1e5⟩, Counters.ofWhole ⟨10, 7, 4, 1⟩, Counters.ofWhole ⟨100, 70, 40, 10⟩,
      .whole 5, .whole 2⟩]
  days := []
  workflows := []
  executions := []
  apps := []

theorem admits_exponentAcme : exponentAcme.Admits (Token.namedCaller "u-1" "" exponentId false) :=
  ⟨⟨_, exponentId_parsed, _, List.mem_singleton.2 rfl, rfl⟩,
    .inl ⟨_, exponentId_parsed, _, List.mem_singleton.2 rfl, rfl, rfl⟩⟩

theorem keyed_exponentAcme : exponentAcme.Keyed := by
  constructor <;> decide +kernel

theorem counts_exponentAcme : ∃ row ∈ exponentAcme.statistics, row.orgId = ⟨0x1e5⟩ ∧
    row.Counts ⟨10, 7, 4, 1⟩ ⟨100, 70, 40, 10⟩ :=
  ⟨_, List.mem_singleton.2 rfl, rfl, rfl, rfl, ⟨_, rfl⟩, ⟨_, rfl⟩⟩

/-- A member of that organization, which has counters, sees no chart. -/
theorem not_answer_chart_exponentAcme :
    (plainVisit "/api/v1/dashboard/charts/workflow" "u-1" exponentId false).IsFrom plainRoom
        plainSettings (plainService exponentAcme).now (Token.namedCaller "u-1" "" exponentId false) ∧
      exponentAcme.Keyed ∧ exponentAcme.Admits (Token.namedCaller "u-1" "" exponentId false) ∧
      (∃ row ∈ exponentAcme.statistics, row.orgId = ⟨0x1e5⟩ ∧
        row.Counts ⟨10, 7, 4, 1⟩ ⟨100, 70, 40, 10⟩) ∧
      ((plainService exponentAcme).answer
        (plainVisit "/api/v1/dashboard/charts/workflow" "u-1" exponentId false)).1.response =
          .internalError := by
  have visits : (plainVisit "/api/v1/dashboard/charts/workflow" "u-1" exponentId false).Visits
      (.chart Metric.workflow.name) :=
      visits_withBearer rfl rfl ⟨by decide, by decide⟩
  refine ⟨isFrom_exponentVisit _ "u-1" (by decide) (by decide), keyed_exponentAcme,
    admits_exponentAcme, counts_exponentAcme, ?_⟩
  exact answer_of_exponentVisit ⟨_, List.mem_singleton.2 rfl, rfl⟩ (by decide) (by decide) visits

end Service

end Runboard
