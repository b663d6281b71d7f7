import Runboard.Proofs.PageAnswer

/-!
# `Runboard.Proofs.PageReading`: what the pages read

A page asks the tables one or two questions. Where the tables can be seen, the questions about
workflows are always answered, apps are counted up to a limit that fits a word, and the snapshot of
an organization is there if the organization has counters. All of this is so as long as the identifiers
of the rows that are fetched are stored as texts; where one is stored as a number, the page is not told.
No page ends by refusing the caller: that is done before it is read.

## Contents

* `Tables.workflowsNamed`, `Tables.snapshotIds`, `Page.loadedIds`: the rows that a page fetches, and
  their identifiers;
* `Tables.KeepsTexts`, `Page.areTexts_loadedIds`: tables of which every row is loaded;
* `Page.unexecutedCount_eq`, `Page.readWorkflows_eq`, `Page.readApps_eq`,
  `Page.result_readSnapshot`: the questions;
* `Page.result_of_number`: pages of which a row cannot be loaded;
* `Stop.IsRefusal`, `Page.not_isRefusal_read`: no page refuses the caller.
-/

namespace Runboard

/-! ## Rows that are fetched -/

namespace Tables

/-- The workflows of the organization that a value names. -/
def workflowsNamed (t : Tables) (org : Json) : List WorkflowRow :=
  match Uuid.ofJson? org with
  | none => []
  | some u => t.workflowsOf u

/-- The identifiers of the rows of which a snapshot is made: the row of counters, and the days. -/
def snapshotIds (t : Tables) (org : Json) : List (Option Uuid) :=
  match Uuid.ofJson? org with
  | none => []
  | some u =>
    match t.statistics? u with
    | none => []
    | some row => row.ids ++ (t.daysOf u).flatMap DayRow.ids

/-- The snapshot of an organization has its days in order. -/
theorem snapshotOf_eq (t : Tables) (org : Uuid) (row : StatisticsRow) :
    (t.snapshotOf org row).1 =
      { orgId := org.text
        today := row.today
        month := row.month
        totalApiUsage := row.totalApiUsage
        dailyApiUsage := row.dailyApiUsage
        history := History.byDay (t.history org) } := by
  -- Every day of the tables is known, so a history is always put in order.
  have dated : History.allDated (t.history org) = true := by
    simp only [History.allDated, history, List.all_map, List.all_eq_true]
    exact fun _ _ => rfl
  simp only [snapshotOf, orderHistory, dated, ↓reduceIte]

end Tables

/-- Tables whose rows are loaded, whichever of them are fetched: every identifier that is given in them is
stored as a text. -/
structure Tables.KeepsTexts (t : Tables) : Prop where
  orgs : ∀ r ∈ t.orgs, AreTexts [r.id]
  members : ∀ r ∈ t.members, AreTexts [r.id]
  statistics : ∀ r ∈ t.statistics, AreTexts r.ids
  days : ∀ r ∈ t.days, AreTexts r.ids
  workflows : ∀ r ∈ t.workflows, AreTexts r.ids
  apps : ∀ r ∈ t.apps, AreTexts r.ids

namespace Page

/-- The identifiers of the rows that a page of an organization fetches. A chart of no metric fetches
none. -/
def loadedIds (settings : Settings) (t : Tables) (org : Json) : Page → List (Option Uuid)
  | .workflows => (t.workflowsNamed org).flatMap WorkflowRow.ids
  | .apps =>
    (pageOf (t.visibleApps (Uuid.ofJson? org)) (some settings.maxAppCount) 0).flatMap AppRow.ids
  | .chart metric =>
    match Metric.ofName? metric with
    | none => []
    | some _ => t.snapshotIds org
  | _ => t.snapshotIds org

/-- The page is known: it is a chart of a metric, or no chart. -/
def IsKnown : Page → Prop
  | .chart metric => Metric.ofName? metric ≠ none
  | _ => True

/-- The page shows figures of the counters of an organization. -/
def ShowsFigures : Page → Prop
  | .workflows => False
  | .apps => False
  | _ => True

/-- A page of figures fetches the rows of a snapshot. -/
theorem loadedIds_of_figures {page : Page} (shows : page.ShowsFigures) (known : page.IsKnown)
    (settings : Settings) (t : Tables) (org : Json) :
    page.loadedIds settings t org = t.snapshotIds org := by
  cases page with
  | workflows => exact shows.elim
  | apps => exact shows.elim
  | apiUsage => rfl
  | executions => rfl
  | chart metric =>
    obtain ⟨m, named⟩ := Option.ne_none_iff_exists'.1 known
    rw [loadedIds, named]

theorem areTexts_snapshotIds {t : Tables} (texts : t.KeepsTexts) (org : Json) :
    AreTexts (t.snapshotIds org) := by
  unfold Tables.snapshotIds
  cases Uuid.ofJson? org with
  | none => exact areTexts_nil
  | some u =>
    dsimp only
    cases found : t.statistics? u with
    | none => exact areTexts_nil
    | some row =>
      refine areTexts_append.2 ⟨texts.statistics row (List.mem_of_find?_eq_some found), ?_⟩
      exact areTexts_flatMap.2 fun r hr => texts.days r (List.mem_filter.1 hr).1

theorem areTexts_loadedIds {t : Tables} (texts : t.KeepsTexts) (settings : Settings) (org : Json)
    (page : Page) : AreTexts (page.loadedIds settings t org) := by
  cases page with
  | workflows =>
    refine areTexts_flatMap.2 fun r hr => texts.workflows r ?_
    unfold Tables.workflowsNamed at hr
    cases parsed : Uuid.ofJson? org with
    | none =>
      simp only [parsed] at hr
      cases hr
    | some u =>
      simp only [parsed] at hr
      exact (List.mem_filter.1 ((sortByName_perm _ _).mem_iff.1 hr)).1
  | apps =>
    refine areTexts_flatMap.2 fun r hr => texts.apps r ?_
    exact (List.mem_filter.1 ((sortByName_perm _ _).mem_iff.1 (pageOf_subset _ _ _ hr))).1
  | apiUsage => exact areTexts_snapshotIds texts org
  | executions => exact areTexts_snapshotIds texts org
  | chart metric =>
    cases named : Metric.ofName? metric with
    | none =>
      simp only [loadedIds, named]
      exact areTexts_nil
    | some m =>
      simp only [loadedIds, named]
      exact areTexts_snapshotIds texts org

section Questions
variable {v : TableView} {t : Tables} {org : Json}

theorem ask_eq {α : Type} (seen : v.tables = .ok t) (answer : Tables → Except StoreFault α) :
    Store.ask v answer = answer t := by
  rw [Store.ask, seen]

/-- One execution is enough to know that a workflow was executed. -/
theorem executionCount_eq (seen : v.tables = .ok t) (workflow : Option Uuid) :
    Store.executionCount v workflow (some 1) = .ok (min 1 (t.executionsOf workflow).length) := by
  have fits : Option.all fitsWord (some 1) = true := by decide
  rw [Store.executionCount, ask_eq seen, if_pos fits, Tables.executionCount, pageOf]
  simp

/-- The workflows without an execution are counted. -/
theorem unexecutedCount_eq (seen : v.tables = .ok t) (ws : List WorkflowRow) :
    unexecutedCount v ws = .ok (ws.countP fun w => (t.executionsOf w.id).isEmpty) := by
  induction ws with
  | nil => rfl
  | cons w rest ih =>
    -- The count of a workflow is zero exactly if it has no execution.
    rw [unexecutedCount, executionCount_eq seen, ih, List.countP_cons]
    cases t.executionsOf w.id with
    | nil => rfl
    | cons e es => simp

theorem workflows_eq (seen : v.tables = .ok t) (org : Json) :
    Store.workflows v org = (load ((t.workflowsNamed org).flatMap WorkflowRow.ids)).map
      fun _ => t.workflowsNamed org := by
  unfold Store.workflows Tables.workflowsNamed
  cases Uuid.ofJson? org with
  | none => rfl
  | some u => exact ask_eq seen _

theorem readWorkflows_eq (seen : v.tables = .ok t)
    (texts : AreTexts ((t.workflowsNamed org).flatMap WorkflowRow.ids)) :
    readWorkflows v org = .ok (.workflows (t.workflowsNamed org).length
      ((t.workflowsNamed org).countP fun w => (t.executionsOf w.id).isEmpty)) := by
  have found : Store.workflows v org = .ok (t.workflowsNamed org) := by
    rw [workflows_eq seen, load_of_areTexts texts]
    rfl
  rw [readWorkflows, found]
  simp only [unexecutedCount_eq seen]

/-- The apps that are counted, under a limit that the database takes. -/
theorem apps_eq (seen : v.tables = .ok t) (org : Json) {limit : Int} (fits : fitsWord limit = true) :
    Store.apps v org (some limit) none =
      (load ((pageOf (t.visibleApps (Uuid.ofJson? org)) (some limit) 0).flatMap AppRow.ids)).map
        fun _ => pageOf (t.visibleApps (Uuid.ofJson? org)) (some limit) 0 := by
  have both : (Option.all fitsWord (some limit) && Option.all fitsWord none) = true := by
    simpa using fits
  rw [Store.apps, ask_eq seen, if_pos both]
  rfl

theorem readApps_of_large (seen : v.tables = .ok t) (org : Json) {limit : Int}
    (large : fitsWord limit = false) : readApps v org limit = .error (.bind .tooLarge) := by
  have either : (Option.all fitsWord (some limit) && Option.all fitsWord none) = false := by
    simpa using large
  rw [readApps, Store.apps, ask_eq seen, if_neg (Bool.eq_false_iff.1 either)]

theorem readApps_eq (seen : v.tables = .ok t) {limit : Int} (fits : fitsWord limit = true)
    (texts : AreTexts
      ((pageOf (t.visibleApps (Uuid.ofJson? org)) (some limit) 0).flatMap AppRow.ids)) :
    readApps v org limit =
      .ok (.apps (pageOf (t.visibleApps (Uuid.ofJson? org)) (some limit) 0).length) := by
  rw [readApps, apps_eq seen org fits, load_of_areTexts texts]
  rfl

/-- The snapshot of an organization, with its days in order. -/
def snapshotFor? (t : Tables) (org : Uuid) : Option (Snapshot Amount) :=
  (t.statistics? org).map fun row => (t.snapshotOf org row).1

/-- The snapshot that a page reads of rows that are loaded, or why there is none. -/
def snapshotNamed (v : TableView) (t : Tables) (org : Json) : Except Stop (Snapshot Amount) :=
  match (Uuid.ofJson? org).bind (snapshotFor? t) with
  | none => .error (.failure (.statisticsNotFound org))
  | some s => if v.readsDays || s.history.isEmpty then .ok s else .error (.escaped .dayKind)

/-- The history of a snapshot is as long as the organization has days. -/
theorem isEmpty_history (t : Tables) (u : Uuid) (row : StatisticsRow) :
    (t.snapshotOf u row).1.history.isEmpty = (t.daysOf u).isEmpty := by
  have lengths : (History.byDay (t.history u)).length = (t.daysOf u).length := by
    rw [History.byDay, List.length_mergeSort, Tables.history, List.length_map]
  rw [Tables.snapshotOf_eq, Bool.eq_iff_iff, List.isEmpty_iff_length_eq_zero,
    List.isEmpty_iff_length_eq_zero, lengths]

theorem result_readSnapshot (seen : v.tables = .ok t) (texts : AreTexts (t.snapshotIds org)) :
    (readSnapshot v org).result = snapshotNamed v t org := by
  unfold readSnapshot snapshotNamed Store.statistics
  unfold Tables.snapshotIds at texts
  cases parsed : Uuid.ofJson? org with
  | none => rfl
  | some u =>
    simp only [parsed] at texts
    simp only [ask_eq seen, Option.bind_some, snapshotFor?]
    cases found : t.statistics? u with
    | none => rfl
    | some row =>
      simp only [found] at texts
      obtain ⟨counters, days⟩ := areTexts_append.1 texts
      simp only [loadFault?_eq_none.2 counters, load_of_areTexts days, Option.map_some,
        isEmpty_history]
      cases v.readsDays || (t.daysOf u).isEmpty with
      | true => rfl
      | false => rfl

/-- A row that cannot be loaded ends the question after a snapshot. -/
theorem readSnapshot_of_number (seen : v.tables = .ok t) (number : ¬ AreTexts (t.snapshotIds org)) :
    ∃ fault, (readSnapshot v org).result = .error (.escaped fault) := by
  unfold readSnapshot Store.statistics
  unfold Tables.snapshotIds at number
  cases parsed : Uuid.ofJson? org with
  | none =>
    simp only [parsed] at number
    exact absurd areTexts_nil number
  | some u =>
    simp only [parsed] at number
    simp only [ask_eq seen]
    cases found : t.statistics? u with
    | none =>
      simp only [found] at number
      exact absurd areTexts_nil number
    | some row =>
      simp only [found] at number
      -- The row of counters is loaded before the days, whose form is read before their identifiers.
      by_cases counters : AreTexts row.ids
      · have days : ¬ AreTexts ((t.daysOf u).flatMap DayRow.ids) :=
          fun days => number (areTexts_append.2 ⟨counters, days⟩)
        obtain ⟨fault, -, stopped⟩ := load_of_not_areTexts days
        simp only [loadFault?_eq_none.2 counters, stopped]
        cases v.readsDays || (t.daysOf u).isEmpty with
        | true => exact ⟨_, rfl⟩
        | false => exact ⟨_, rfl⟩
      · obtain ⟨fault, first, -⟩ := load_of_not_areTexts counters
        simp only [first]
        exact ⟨_, rfl⟩

end Questions

/-! ## Pages -/

section Pages
variable {v : TableView} {t : Tables} {settings : Settings} {org : Json} {page : Page}

/-- Without a snapshot a page of figures ends as the question after it does. -/
theorem result_of_error (shows : page.ShowsFigures) (known : page.IsKnown) {stop : Stop}
    (stopped : (readSnapshot v org).result = .error stop) :
    (page.read settings v org).result = .error stop := by
  cases page with
  | workflows => exact shows.elim
  | apps => exact shows.elim
  | apiUsage => rw [read, Traced.result_bind, stopped]
  | executions => rw [read, Traced.result_bind, stopped]
  | chart metric =>
    obtain ⟨m, named⟩ := Option.ne_none_iff_exists'.1 known
    rw [read, named]
    simp only [Traced.result_bind, stopped]

/-- A page of which a row cannot be loaded ends in a fault that nothing answers. -/
theorem result_of_number (seen : v.tables = .ok t)
    (number : ¬ AreTexts (page.loadedIds settings t org)) :
    ∃ fault, (page.read settings v org).result = .error (.escaped fault) := by
  -- A page of figures fetches the rows of a snapshot.
  have figures : ∀ page : Page, page.ShowsFigures → page.IsKnown → ¬ AreTexts (t.snapshotIds org) →
      ∃ fault, (page.read settings v org).result = .error (.escaped fault) := by
    intro page shows known number
    obtain ⟨fault, stopped⟩ := readSnapshot_of_number seen number
    exact ⟨fault, result_of_error shows known stopped⟩
  cases page with
  | workflows =>
    simp only [loadedIds] at number
    obtain ⟨fault, -, stopped⟩ := load_of_not_areTexts number
    rw [read, readWorkflows, workflows_eq seen, stopped]
    exact ⟨_, rfl⟩
  | apps =>
    cases fits : fitsWord settings.maxAppCount with
    | false =>
      rw [read, readApps_of_large seen org fits]
      exact ⟨_, rfl⟩
    | true =>
      simp only [loadedIds] at number
      obtain ⟨fault, -, stopped⟩ := load_of_not_areTexts number
      rw [read, readApps, apps_eq seen org fits, stopped]
      exact ⟨_, rfl⟩
  | apiUsage => exact figures .apiUsage trivial trivial number
  | executions => exact figures .executions trivial trivial number
  | chart metric =>
    cases named : Metric.ofName? metric with
    | none =>
      simp only [loadedIds, named] at number
      exact absurd areTexts_nil number
    | some m =>
      simp only [loadedIds, named] at number
      exact figures (.chart metric) trivial (by simp [IsKnown, named]) number

end Pages

end Page

/-! ## Refusals -/

/-- Whether a request ends by refusing the caller. -/
def Stop.IsRefusal : Stop → Prop
  | .failure f => f.status = 401
  | _ => False

namespace Page

theorem not_isRefusal_figured {α : Type} {x : Except FigureFault α} {stop : Stop}
    (h : (figured x).result = .error stop) : ¬ stop.IsRefusal := by
  cases x with
  | error fault =>
    obtain rfl := Except.error.inj h
    exact id
  | ok a => cases h

theorem not_isRefusal_shown {α : Type} {x : Option α} {stop : Stop}
    (h : (shown x).result = .error stop) : ¬ stop.IsRefusal := by
  cases x with
  | none =>
    obtain rfl := Except.error.inj h
    exact id
  | some a => cases h

theorem not_isRefusal_snapshotNamed {v : TableView} {t : Tables} {org : Json} {stop : Stop}
    (h : snapshotNamed v t org = .error stop) : ¬ stop.IsRefusal := by
  unfold snapshotNamed at h
  split at h
  · obtain rfl := Except.error.inj h
    have status : (Failure.statisticsNotFound org).status = 500 := rfl
    intro refusal
    rw [Stop.IsRefusal, status] at refusal
    omega
  · split at h
    · cases h
    · obtain rfl := Except.error.inj h
      exact id

/-- The error of a sequence is one of its parts. -/
theorem error_of_bind {α β : Type} {x : Traced Stop α} {f : α → Traced Stop β} {stop : Stop}
    (h : (x >>= f).result = .error stop) :
    x.result = .error stop ∨ ∃ a, (f a).result = .error stop := by
  rw [Traced.result_bind] at h
  split at h
  · next e first =>
    obtain rfl := Except.error.inj h
    exact .inl first
  · next a _ => exact .inr ⟨a, h⟩

/-- A page that is read ends without refusing the caller, whatever the tables say. -/
theorem not_isRefusal_read {v : TableView} {t : Tables} (seen : v.tables = .ok t)
    {settings : Settings} {org : Json} {page : Page} {stop : Stop}
    (h : (page.read settings v org).result = .error stop) : ¬ stop.IsRefusal := by
  by_cases texts : AreTexts (page.loadedIds settings t org)
  case neg =>
    obtain ⟨fault, stopped⟩ := result_of_number seen texts
    obtain rfl := Except.error.inj (h.symm.trans stopped)
    exact id
  have snapshot : ∀ {stop : Stop}, AreTexts (t.snapshotIds org) →
      (readSnapshot v org).result = .error stop → ¬ stop.IsRefusal := by
    intro stop texts h
    exact not_isRefusal_snapshotNamed (result_readSnapshot seen texts ▸ h)
  cases page with
  | workflows =>
    rw [read, readWorkflows_eq seen texts] at h
    cases h
  | apps =>
    cases fits : fitsWord settings.maxAppCount with
    | true =>
      rw [read, readApps_eq seen fits texts] at h
      cases h
    | false =>
      rw [read, readApps_of_large seen org fits] at h
      obtain rfl := Except.error.inj h
      exact id
  | apiUsage =>
    rcases error_of_bind h with h | ⟨s, h⟩
    · exact snapshot texts h
    rcases error_of_bind h with h | ⟨total, h⟩
    · exact not_isRefusal_shown h
    rcases error_of_bind h with h | ⟨daily, h⟩
    · exact not_isRefusal_shown h
    cases h
  | executions =>
    rcases error_of_bind h with h | ⟨s, h⟩
    · exact snapshot texts h
    rcases error_of_bind h with h | ⟨figures, h⟩
    · exact not_isRefusal_figured h
    rcases error_of_bind h with h | ⟨report, h⟩
    · exact not_isRefusal_shown h
    cases h
  | chart metric =>
    rw [read] at h
    cases named : Metric.ofName? metric with
    | none =>
      rw [named] at h
      obtain rfl := Except.error.inj h
      exact id
    | some m =>
      rw [named] at h
      simp only [loadedIds, named] at texts
      rcases error_of_bind h with h | ⟨s, h⟩
      · exact snapshot texts h
      rcases error_of_bind h with h | ⟨figures, h⟩
      · exact not_isRefusal_figured h
      rcases error_of_bind h with h | ⟨-, h⟩
      · cases h
      rcases error_of_bind h with h | ⟨chart, h⟩
      · exact not_isRefusal_shown h
      cases h

end Page

end Runboard
