import Runboard.Proofs.AccessControl
import Runboard.Proofs.EngineLife

/-!
# `Runboard.Proofs.Stranded`: what is not brought into an answer

Only failures of the service and of the database are brought into an answer. A fault of another kind
strands the visit: it leaves the service as it is, and the caller gets a bare error. Where such faults
come from is said here without running the visit, from the outside in: from the address of a database
that is not open yet, from the connection, from texts of the caller that have no bytes, from identifiers
that are stored as numbers, and from the page.

Any page is stranded by a row that it fetches and that cannot be loaded, a page of figures also by
counters of which no figures can be made. The page of the apps may be stranded by the settings alone:
their limit has only to be positive, and the database takes none of more than 64 bits.

## Contents

* `Database.isOpen`, `Database.found`, `ready_found`: the database that a visit finds;
* `Page.figures?`: what a page makes of a snapshot;
* `Page.Strands`, `Page.result_of_strands`, `Page.result_of_not_strands`: pages that cannot be told;
* `TableView.Strands`, `Service.Strands`: visits without a prepared answer;
* `checkAccess_of_nameless`, `checkAccess_of_unseen`: the check of access without an organization, and
  without tables.
-/

namespace Runboard

open Runboard.Text

/-! ## The database that a visit finds -/

namespace Database

/-- The database is open: there are sessions, or an engine to make them. -/
def isOpen (d : Database) : Bool := d.sessions.isSome || d.engine.isSome

/-- The database as a visit finds it: open, or opened now at an address. -/
def found (d : Database) (url : String) : Except EngineFault Database :=
  if d.isOpen then .ok d else (Engine.make url).map opened

section Found
variable {d : Database} {cache cache' : SettingsCache} {k : KeptSettings}

theorem ready_of_isOpen (there : d.isOpen = true) (cache : SettingsCache) :
    d.ready cache = (.ok [], d, cache) := by
  unfold ready
  split
  · rfl
  · next sessions =>
    have engine : d.engine.isSome = true := by simpa [isOpen, sessions] using there
    exact start_of_engine engine none cache

theorem addressFor_none (kept : cache.get = (.ok k, cache')) :
    addressFor none cache = (.ok k.settings.engineUrl, cache') := by
  unfold addressFor
  rw [Option.filter_none]
  simp only [kept]

/-- A database that is not open is opened at the address of the settings. -/
theorem ready_of_not_isOpen (gone : d.isOpen = false) (kept : cache.get = (.ok k, cache')) :
    d.ready cache = match Engine.make k.settings.engineUrl with
      | .error fault => (.error (.engine fault), d, cache')
      | .ok e => (.ok [.engineReady e.backend], opened e, cache') := by
  obtain ⟨sessions, engine⟩ := Bool.or_eq_false_iff.1 gone
  unfold ready start
  rw [if_neg (Bool.eq_false_iff.1 sessions), if_neg (Bool.eq_false_iff.1 engine),
    addressFor_none kept]
  rfl

/-- What a visit does about the database is to find it, at the address of the settings. -/
theorem ready_found (kept : cache.get = (.ok k, cache')) :
    match d.found k.settings.engineUrl with
    | .error fault => d.ready cache = (.error (.engine fault), d, cache')
    | .ok d' => ∃ events after, d.ready cache = (.ok events, d', after) := by
  cases there : d.isOpen with
  | true =>
    rw [found, if_pos there]
    exact ⟨_, _, ready_of_isOpen there cache⟩
  | false =>
    rw [found, if_neg (Bool.eq_false_iff.1 there), ready_of_not_isOpen there kept]
    cases Engine.make k.settings.engineUrl with
    | error fault => rfl
    | ok e => exact ⟨_, _, rfl⟩

end Found

end Database

/-! ## Pages that cannot be told -/

namespace Page

/-- What a page shows of a snapshot, if it is made of figures that can be shown. -/
def figures? (settings : Settings) (s : Snapshot Amount) : Page → Option PageData
  | .workflows => none
  | .apps => none
  | .apiUsage => do return .apiUsage (← s.totalApiUsage.shown?) (← s.dailyApiUsage.shown?)
  | .executions => do
    let report ← (reportFigures s (.int settings.monthLength)).toOption
    return .executions (← report)
  | .chart metric => do
    let figures ← (chartFigures s (← Metric.ofName? metric) (.int settings.weekLength)).toOption
    return .chart (← figures)

/-- A page that cannot be told of an organization of the tables. -/
inductive Strands (settings : Settings) (v : TableView) (t : Tables) (org : Json) : Page → Prop
  /-- Apps are counted up to a limit that the database does not take. -/
  | limit (large : fitsWord settings.maxAppCount = false) : Strands settings v t org .apps
  /-- A row that the page fetches has an identifier that is stored as a number. -/
  | stored {page : Page} (number : ¬ AreTexts (page.loadedIds settings t org)) :
    Strands settings v t org page
  /-- Days come from the database in another form than the one that is read. -/
  | days {page : Page} {s : Snapshot Amount} (shows : page.ShowsFigures)
      (found : (Uuid.ofJson? org).bind (snapshotFor? t) = some s) (unread : v.readsDays = false)
      (completed : s.history ≠ []) : Strands settings v t org page
  /-- The counters are not such that figures could be made of them and shown. -/
  | figures {page : Page} {s : Snapshot Amount} (shows : page.ShowsFigures)
      (found : (Uuid.ofJson? org).bind (snapshotFor? t) = some s)
      (unshown : page.figures? settings s = none) : Strands settings v t org page

section Read
variable {settings : Settings} {v : TableView} {t : Tables} {org : Json} {page : Page}
  {s : Snapshot Amount}

/-- What is read of a page of figures is what can be shown of its snapshot. -/
theorem result_of_snapshot (shows : page.ShowsFigures) (known : page.IsKnown)
    (snapshot : (readSnapshot v org).result = .ok s) :
    (∃ data, page.figures? settings s = some data ∧ (page.read settings v org).result = .ok data) ∨
      (page.figures? settings s = none ∧
        ∃ fault, (page.read settings v org).result = .error (.escaped fault)) := by
  cases page with
  | workflows => exact shows.elim
  | apps => exact shows.elim
  | apiUsage =>
    rw [read, Traced.result_bind, snapshot, figures?]
    simp only [Traced.result_bind]
    cases s.totalApiUsage.shown? with
    | none => exact .inr ⟨rfl, _, rfl⟩
    | some total =>
      cases s.dailyApiUsage.shown? with
      | none => exact .inr ⟨rfl, _, rfl⟩
      | some daily => exact .inl ⟨_, rfl, rfl⟩
  | executions =>
    rw [read, Traced.result_bind, snapshot, figures?]
    simp only [Traced.result_bind]
    rcases reportFigures s (.int settings.monthLength) with fault | report
    · exact .inr ⟨rfl, _, rfl⟩
    · cases report with
      | none => exact .inr ⟨rfl, _, rfl⟩
      | some report => exact .inl ⟨_, rfl, rfl⟩
  | chart metric =>
    obtain ⟨m, named⟩ := Option.ne_none_iff_exists'.1 known
    rw [read, figures?, named]
    simp only [Traced.result_bind, snapshot, Option.bind_eq_bind, Option.bind_some]
    rcases chartFigures s m (.int settings.weekLength) with fault | figures
    · exact .inr ⟨rfl, _, rfl⟩
    · cases figures with
      | none => exact .inr ⟨rfl, _, rfl⟩
      | some figures => exact .inl ⟨_, rfl, rfl⟩

theorem readSnapshot_of_unread (seen : v.tables = .ok t) (texts : AreTexts (t.snapshotIds org))
    (found : (Uuid.ofJson? org).bind (snapshotFor? t) = some s) (unread : v.readsDays = false)
    (completed : s.history ≠ []) :
    (readSnapshot v org).result = .error (.escaped .dayKind) := by
  have unreadable : (v.readsDays || s.history.isEmpty) = false := by
    rw [unread, Bool.false_or, List.isEmpty_eq_false_iff]
    exact completed
  rw [result_readSnapshot seen texts, snapshotNamed, found]
  simp only [unreadable, Bool.false_eq_true, ↓reduceIte]

theorem readSnapshot_of_read (seen : v.tables = .ok t) (texts : AreTexts (t.snapshotIds org))
    (found : (Uuid.ofJson? org).bind (snapshotFor? t) = some s)
    (readable : ¬ (v.readsDays = false ∧ s.history ≠ [])) :
    (readSnapshot v org).result = .ok s := by
  have read : (v.readsDays || s.history.isEmpty) = true := by
    rw [← Bool.not_eq_false, Bool.or_eq_false_iff, List.isEmpty_eq_false_iff]
    exact readable
  rw [result_readSnapshot seen texts, snapshotNamed, found]
  simp only [read, ↓reduceIte]

/-- A page that cannot be told ends in a fault that nothing answers. -/
theorem result_of_strands (seen : v.tables = .ok t) (known : page.IsKnown)
    (strands : page.Strands settings v t org) :
    ∃ fault, (page.read settings v org).result = .error (.escaped fault) := by
  by_cases texts : AreTexts (page.loadedIds settings t org)
  case neg => exact result_of_number seen texts
  cases strands with
  | limit large =>
    rw [read, readApps_of_large seen org large]
    exact ⟨_, rfl⟩
  | stored number => exact absurd texts number
  | days shows found unread completed =>
    rw [loadedIds_of_figures shows known] at texts
    exact ⟨_, result_of_error shows known (readSnapshot_of_unread seen texts found unread completed)⟩
  | @figures page s shows found unshown =>
    rw [loadedIds_of_figures shows known] at texts
    by_cases unread : v.readsDays = false ∧ s.history ≠ []
    · exact ⟨_, result_of_error shows known
        (readSnapshot_of_unread seen texts found unread.1 unread.2)⟩
    · have snapshot := readSnapshot_of_read seen texts found unread
      rcases result_of_snapshot shows known snapshot with ⟨data, shown, -⟩ | ⟨-, stopped⟩
      · rw [unshown] at shown
        cases shown
      · exact stopped

/-- A page that can be told is told, unless the organization has no counters. -/
theorem result_of_not_strands (seen : v.tables = .ok t) (known : page.IsKnown)
    (spared : ¬ page.Strands settings v t org) :
    (∃ data, (page.read settings v org).result = .ok data) ∨
      (page.read settings v org).result = .error (.failure (.statisticsNotFound org)) := by
  have texts : AreTexts (page.loadedIds settings t org) :=
    Decidable.of_not_not fun number => spared (.stored number)
  by_cases shows : page.ShowsFigures
  · rw [loadedIds_of_figures shows known] at texts
    cases found : (Uuid.ofJson? org).bind (snapshotFor? t) with
    | none =>
      refine .inr (result_of_error shows known ?_)
      rw [result_readSnapshot seen texts, snapshotNamed, found]
    | some s =>
      have readable : ¬ (v.readsDays = false ∧ s.history ≠ []) :=
        fun unread => spared (.days shows found unread.1 unread.2)
      have snapshot := readSnapshot_of_read seen texts found readable
      rcases result_of_snapshot shows known snapshot with ⟨data, -, given⟩ | ⟨unshown, -⟩
      · exact .inl ⟨data, given⟩
      · exact absurd (.figures shows found unshown) spared
  · cases page with
    | workflows =>
      rw [read, readWorkflows_eq seen texts]
      exact .inl ⟨_, rfl⟩
    | apps =>
      have fits : fitsWord settings.maxAppCount = true :=
        Bool.of_not_eq_false fun large => spared (.limit large)
      rw [read, readApps_eq seen fits texts]
      exact .inl ⟨_, rfl⟩
    | _ => exact absurd trivial shows

end Read

end Page

/-! ## Visits without a prepared answer -/

/-- The visit of a caller to tables, seen or not, has no prepared answer. -/
inductive TableView.Strands (v : TableView) (settings : Settings) (c : Caller) (page : Page) : Prop
  /-- What names no organization would have to be told, and has no bytes. -/
  | org (nameless : Uuid.ofJson? c.orgId = none) (half : holdsHalf c.orgId.display = true)
  /-- The driver refuses the connection. -/
  | connection {u : Uuid} {fault : ConnectFault} (named : Uuid.ofJson? c.orgId = some u)
      (refused : v.tables = .error (.connect fault))
  /-- The user would have to be looked for, and has no bytes. -/
  | user {t : Tables} (seen : v.tables = .ok t) (present : t.HasOrg c.orgId)
      (half : c.userId.holdsHalf = true)
  /-- The organization, or the row of the caller as a member, is found and cannot be loaded. -/
  | stored {t : Tables} (seen : v.tables = .ok t) (number : t.LoadsNumber c)
  | page {t : Tables} (seen : v.tables = .ok t) (admitted : t.Admits c)
      (whole : c.userId.holdsHalf = false) (strands : page.Strands settings v t c.orgId)

/-- The visit of a caller has no prepared answer, as the database is or as it is opened for it. -/
inductive Service.Strands (s : Service) (settings : Settings) (c : Caller) (page : Page) : Prop
  /-- No engine can be made for the address, for a reason that is none of the database layer. -/
  | opening {fault : EngineFault} (unmade : s.database.found settings.engineUrl = .error fault)
      (foreign : fault.isDatabaseError = false)
  | visit {d : Database} (found : s.database.found settings.engineUrl = .ok d)
      (strands : d.view.Strands settings c page)

section Access
variable {v : TableView} {t : Tables} {c : Caller}

/-- What names no organization is missing, whether or not the tables can be seen. -/
theorem checkAccess_of_nameless (nameless : Uuid.ofJson? c.orgId = none) :
    (checkAccess v c).result = .error (.failure (.orgNotFound c.orgId)) := by
  rw [checkAccess, Store.org, nameless]

theorem checkAccess_of_unseen {u : Uuid} (named : Uuid.ofJson? c.orgId = some u)
    {fault : TableFault} (unseen : v.tables = .error fault) :
    (checkAccess v c).result = .error (.table fault) := by
  rw [checkAccess, Store.org, named]
  simp only [Store.ask, unseen]
  rfl

end Access

end Runboard
