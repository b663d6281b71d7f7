import Runboard.Proofs.Envelope
import Runboard.Proofs.ReadOnly
import Runboard.Proofs.TableCatalog

/-!
# `Runboard.Proofs.Migrations`: making and dropping the tables

While its engine stands, a service may make its tables, drop them, add rows and answer visits in any
order. All tables are there at any time, or none. Making them again keeps all rows and does nothing the
second time; and nothing that was asked while they were missing is in the way of what is asked after
they are made again.

Without tables a visit fails where the tables would be looked at first: at the organization of the
caller. So a visit that ends before is answered as ever, and any other is told that the database
failed, but for an engine whose connections the driver refuses, where nothing is told. What ends before
is refused, but for a token that cannot be read and for an organization that cannot be told.

## Contents

* `Engine.Connects`, `Engine.TakesTables`, `Database.created_iff`, `dropped_iff`: what an engine lets be
  done;
* `Database.Rooted`, `Rooted.view_of_some`, `view_of_none`: tables that are there are seen;
* `ServiceStep.KeepsEngine`, `Service.catalog_run`: runs while the engine stands;
* `Service.Migrates`, `Service.migrates`: making and dropping the tables;
* `Reply.TellsDatabaseFailure`, `Service.AnswersVisit`, `Service.answersVisit`: visits;
* `Service.migrations_of_run`: all this in whatever a service goes through.
-/

namespace Runboard

open Runboard.Text

/-! ## Databases with an engine -/

namespace Engine

/-- Connections can be made. -/
def Connects (e : Engine) : Prop :=
  e.connection.fault? = none ∧ e.connection.storage ≠ .elsewhere

/-- Connections can be made, and tables through them. -/
def TakesTables (e : Engine) : Prop :=
  e.connection.fault? = none ∧ e.connection.storage = .memory false

/-- Why no tables are seen where there are none. -/
def absence (e : Engine) : TableFault :=
  match e.connection.fault? with
  | some fault => .connect fault
  | none => .unreachable

theorem TakesTables.connects {e : Engine} (h : e.TakesTables) : e.Connects :=
  ⟨h.1, by rw [h.2]; exact nofun⟩

theorem Connects.absence_eq {e : Engine} (h : e.Connects) : e.absence = .unreachable := by
  rw [absence, h.1]

end Engine

namespace Database

variable {d d' : Database} {e : Engine}

/-- A database with an engine is reached exactly if connections can be made. -/
theorem reach_of_engine (engine : d.engine = some e) :
    (e.Connects ∧ d.reach = .ok e.connection) ∨ (¬ e.Connects ∧ d.reach = .error e.absence) := by
  unfold reach
  rw [engine]
  dsimp only
  split
  · next fault refused =>
    refine .inr ⟨fun connects => ?_, by rw [Engine.absence, refused]⟩
    rw [connects.1] at refused
    cases refused
  · next readOnly free storage =>
    exact .inl ⟨⟨free, by rw [storage]; exact nofun⟩, rfl⟩
  · next free storage =>
    exact .inr ⟨fun connects => connects.2 storage, by rw [Engine.absence, free]⟩

theorem reach_eq_ok (engine : d.engine = some e) {connection : Connection} :
    d.reach = .ok connection ↔ e.Connects ∧ connection = e.connection := by
  rcases reach_of_engine engine with ⟨connects, reached⟩ | ⟨refused, reached⟩
  · rw [reached, Except.ok.injEq]
    exact ⟨fun same => ⟨connects, same.symm⟩, fun h => h.2.symm⟩
  · rw [reached]
    exact ⟨nofun, fun h => absurd h.1 refused⟩

theorem created_iff (engine : d.engine = some e) :
    d.created = .ok d' ↔ e.TakesTables ∧ d' = d.withTables (some (d.tables.getD .empty)) := by
  have writes : e.Connects ∧ e.connection.storage ≠ .memory true ↔ e.TakesTables := by
    unfold Engine.Connects Engine.TakesTables
    rcases e.connection.storage with _ | _ <;> simp
  rw [created_eq_ok]
  simp only [reach_eq_ok engine, and_assoc, ← writes]
  exact ⟨fun ⟨_, connects, same, writable, made⟩ => ⟨connects, same ▸ writable, made⟩,
    fun ⟨connects, writable, made⟩ => ⟨_, connects, rfl, writable, made⟩⟩

theorem dropped_iff (engine : d.engine = some e) :
    d.dropped = .ok d' ↔ e.Connects ∧ d' = d.withTables none := by
  rw [dropped_eq_ok]
  simp only [reach_eq_ok engine, and_assoc, exists_eq_left, exists_and_left]

/-- Tables are there only where connections can be made. -/
def Rooted (d : Database) : Prop := d.tables ≠ none → ∃ connection, d.reach = .ok connection

theorem rooted_of_none (absent : d.tables = none) : d.Rooted := fun there => absurd absent there

theorem Move.rooted {k : MoveKind} (move : d.Move k d') : d'.Rooted := by
  cases move with
  | opened gone => exact rooted_of_none rfl
  | added added =>
    obtain ⟨before, row, seen, -⟩ := tables_of_addedTo added
    obtain ⟨connection, reached, -⟩ := bind_eq_ok.1 seen
    exact fun _ => ⟨connection, reached⟩
  | created made =>
    obtain ⟨connection, reached, -, rfl⟩ := created_eq_ok.1 made
    exact fun _ => ⟨connection, reached⟩
  | dropped gone =>
    obtain ⟨connection, -, rfl⟩ := dropped_eq_ok.1 gone
    exact rooted_of_none rfl

/-- Tables that are there are seen. -/
theorem Rooted.view_of_some (h : d.Rooted) (engine : d.engine = some e) {t : Tables}
    (there : d.tables = some t) : d.view = ⟨.ok t, !e.connection.convertsDays⟩ := by
  obtain ⟨connection, reached⟩ := h (by rw [there]; exact nofun)
  unfold view
  rw [reached, there, engine]
  rfl

theorem view_of_none (engine : d.engine = some e) (absent : d.tables = none) :
    d.view.tables = .error e.absence := by
  show (d.reach >>= fun _ => _) = _
  rw [absent]
  rcases reach_of_engine engine with ⟨connects, reached⟩ | ⟨-, reached⟩
  · rw [reached, connects.absence_eq]
    rfl
  · rw [reached]
    rfl

end Database

/-! ## Runs -/

/-- The step leaves the engine: the database is not given up. -/
def ServiceStep.KeepsEngine : ServiceStep → Prop
  | .close => False
  | .shutDown => False
  | _ => True

namespace Service

/-- The tables of the service, one by one. -/
def catalog (s : Service) : Catalog := .ofTables s.database.tables

variable {s : Service} {e : Engine}

theorem catalog_step (engine : s.database.engine = some e) {x : ServiceStep}
    (stays : x.KeepsEngine) : (s.step x).2.database.engine = some e ∧ ∃ changes : List CatalogChange,
      (∀ y ∈ changes, x.Moves y.kind) ∧ s.catalog.run changes = (s.step x).2.catalog := by
  cases does_step s x with
  | goes goes => exact goes.database.changes engine
  | environment database cache =>
    unfold catalog
    rw [database]
    exact ⟨engine, [], List.forall_mem_nil _, rfl⟩
  | close cache database => exact stays.elim
  | shutDown cache database => exact stays.elim

/-- The engine stands as long as the database is not given up, and each step changes the tables as
some changes of its own kinds change the catalog. -/
theorem catalog_run (engine : s.database.engine = some e) {steps : List ServiceStep}
    (stays : ∀ x ∈ steps, x.KeepsEngine) : (s.run steps).2.database.engine = some e ∧
      ∃ parts : List (List CatalogChange),
        List.Forall₂ (fun x changes => ∀ y ∈ changes, x.Moves y.kind) steps parts ∧
        s.catalog.run parts.flatten = (s.run steps).2.catalog := by
  induction steps generalizing s with
  | nil => exact ⟨engine, [], .nil, rfl⟩
  | cons x rest ih =>
    obtain ⟨stands, first, own, changed⟩ := catalog_step engine (stays x List.mem_cons_self)
    obtain ⟨stands, others, owns, changed'⟩ :=
      ih (s := (s.step x).2) stands fun y hy => stays y (List.mem_cons_of_mem x hy)
    refine ⟨stands, first :: others, .cons own owns, ?_⟩
    rw [List.flatten_cons, Catalog.run_append, changed, changed']
    rfl

theorem rooted_launch {environment : Environment} {secrets : Nat → String} {room : StackRoom}
    {setup : LogSetup} {now : Instant} {withDatabase : Bool}
    (launched : Service.launch environment secrets room setup now withDatabase = .ok s) :
    s.database.Rooted := by
  rcases database_launch launched with closed | memory
  · rw [closed]
    exact Database.rooted_of_none rfl
  · rw [memory]
    exact fun _ => ⟨_, rfl⟩

theorem rooted_run (h : s.database.Rooted) (steps : List ServiceStep) :
    (s.run steps).2.database.Rooted :=
  database_run (Database.rooted_of_none rfl) (fun _ move => move.rooted) h steps

/-! ## Making and dropping -/

/-- Where there is an engine, a change of the tables opens nothing. -/
theorem answerless_changeTables (engine : s.database.engine = some e)
    (change : Database → Except TableFault Database) :
    answerless (s.changeTables change) = match change s.database with
      | .error fault => ({ answer := .error (.store (.table fault)) }, s)
      | .ok d => ({ answer := .ok .nothing }, s.withDatabase d) := by
  have there : s.database.engine.isSome = true := by rw [engine]; rfl
  unfold changeTables
  rw [Database.start_of_engine there]
  dsimp only
  cases change s.database <;> rfl

/-- What making and dropping the tables comes to for a service with an engine. -/
structure Migrates (s : Service) (e : Engine) : Prop where
  /-- Tables can be made where the connections let them, and not otherwise. -/
  makes : (s.step .createTables).1.answer = .ok .nothing ↔ e.TakesTables
  /-- Made are those that are missing, and every row is kept. -/
  made : e.TakesTables → (s.step .createTables).2.catalog = s.catalog.makeAll ∧
    (s.step .createTables).2.database.tables = some s.catalog.rows
  unmade : ¬ e.TakesTables → (s.step .createTables).2 = s
  /-- Making the tables a second time makes none, and answers as the first time. -/
  again : s.catalog.makeAll.makeAll = s.catalog.makeAll ∧
    (s.step .createTables).2.step .createTables = s.step .createTables
  drops : (s.step .dropTables).1.answer = .ok .nothing ↔ e.Connects
  dropped : e.Connects → (s.step .dropTables).2.catalog = s.catalog.removeAll ∧
    (s.step .dropTables).2.database.tables = none
  undropped : ¬ e.Connects → (s.step .dropTables).2 = s
  /-- Tables that are made after they were dropped are empty. -/
  anew : e.TakesTables → ((s.step .dropTables).2.step .createTables).1.answer = .ok .nothing ∧
    ((s.step .dropTables).2.step .createTables).2.database.tables = some .empty

theorem step_createTables (engine : s.database.engine = some e) (takes : e.TakesTables) :
    s.step .createTables = ({ answer := .ok .nothing },
      s.withDatabase (s.database.withTables (some (s.database.tables.getD .empty)))) := by
  have made := (Database.created_iff engine).2 ⟨takes, rfl⟩
  show answerless (s.changeTables Database.created) = _
  rw [answerless_changeTables engine, made]

theorem step_dropTables (engine : s.database.engine = some e) (connects : e.Connects) :
    s.step .dropTables = ({ answer := .ok .nothing },
      s.withDatabase (s.database.withTables none)) := by
  have gone := (Database.dropped_iff engine).2 ⟨connects, rfl⟩
  show answerless (s.changeTables Database.dropped) = _
  rw [answerless_changeTables engine, gone]

/-- A change of the tables that fails leaves the service. -/
theorem failing_changeTables (engine : s.database.engine = some e)
    {change : Database → Except TableFault Database} (failing : ∀ d, change s.database ≠ .ok d) :
    ∃ fault, answerless (s.changeTables change) =
      ({ answer := .error (.store (.table fault)) }, s) := by
  rw [answerless_changeTables engine]
  cases changed : change s.database with
  | error fault => exact ⟨fault, rfl⟩
  | ok d => exact absurd changed (failing d)

theorem failing_createTables (engine : s.database.engine = some e) (refuses : ¬ e.TakesTables) :
    ∃ fault, s.step .createTables = ({ answer := .error (.store (.table fault)) }, s) :=
  failing_changeTables engine fun _ made => refuses ((Database.created_iff engine).1 made).1

theorem failing_dropTables (engine : s.database.engine = some e) (refuses : ¬ e.Connects) :
    ∃ fault, s.step .dropTables = ({ answer := .error (.store (.table fault)) }, s) :=
  failing_changeTables engine fun _ gone => refuses ((Database.dropped_iff engine).1 gone).1

theorem migrates (engine : s.database.engine = some e) : s.Migrates e where
  makes := by
    by_cases takes : e.TakesTables
    · rw [step_createTables engine takes]
      exact ⟨fun _ => takes, fun _ => rfl⟩
    · obtain ⟨fault, failed⟩ := failing_createTables engine takes
      rw [failed]
      exact ⟨nofun, fun h => absurd h takes⟩
  made := by
    intro takes
    rw [step_createTables engine takes]
    exact ⟨(Catalog.makeAll_ofTables _).symm, congrArg some (Catalog.rows_ofTables _).symm⟩
  unmade := by
    intro refuses
    obtain ⟨fault, failed⟩ := failing_createTables engine refuses
    rw [failed]
  again := by
    refine ⟨Catalog.makeAll_makeAll _, ?_⟩
    by_cases takes : e.TakesTables
    · rw [step_createTables engine takes]
      exact step_createTables (s := s.withDatabase _) engine takes
    · obtain ⟨fault, failed⟩ := failing_createTables engine takes
      rw [failed]
      exact failed
  drops := by
    by_cases connects : e.Connects
    · rw [step_dropTables engine connects]
      exact ⟨fun _ => connects, fun _ => rfl⟩
    · obtain ⟨fault, failed⟩ := failing_dropTables engine connects
      rw [failed]
      exact ⟨nofun, fun h => absurd h connects⟩
  dropped := by
    intro connects
    rw [step_dropTables engine connects]
    exact ⟨(Catalog.removeAll_ofTables _).symm, rfl⟩
  undropped := by
    intro refuses
    obtain ⟨fault, failed⟩ := failing_dropTables engine refuses
    rw [failed]
  anew := by
    intro takes
    rw [step_dropTables engine takes.connects]
    have made := step_createTables (s := s.withDatabase (s.database.withTables none)) engine takes
    rw [made]
    exact ⟨rfl, rfl⟩

/-! ## Visits -/

end Service

/-- The answer tells that the database failed. -/
def Reply.TellsDatabaseFailure (y : Reply) : Prop :=
  y.escape.isNone = true ∧ y.response.status = 500 ∧
    y.response.body = .json (.obj [("success", .bool false), ("reason", .str databaseReason)])

namespace Service

/-- How a visit to a page is answered by a service with an engine, under its settings. -/
structure AnswersVisit (s : Service) (e : Engine) (settings : Settings) (r : Request) (page : Page) :
    Prop where
  /-- Whoever is nobody is refused, -/
  nobody : r.IsReadable s.room settings s.now → (¬ ∃ c, r.IsFrom s.room settings s.now c) →
    (s.answer r).1.Refuses
  /-- but for a token that cannot be read. -/
  unreadable : ¬ r.IsReadable s.room settings s.now → (s.answer r).1.IsBare
  /-- Whoever names no organization is refused, unless what is named has no bytes. -/
  nameless : ∀ c, r.IsFrom s.room settings s.now c → Uuid.ofJson? c.orgId = none →
    (holdsHalf c.orgId.display = false → (s.answer r).1.Refuses) ∧
      (holdsHalf c.orgId.display = true → (s.answer r).1.IsBare)
  /-- All these are answered alike with any tables and with none. -/
  asEver : (∀ c, r.IsFrom s.room settings s.now c → Uuid.ofJson? c.orgId = none) → ∀ tables,
    ((s.withDatabase (s.database.withTables tables)).answer r).1 = (s.answer r).1
  /-- Whoever names an organization is told of the missing tables, or of nothing where the driver
  refuses connections, -/
  absent : s.database.tables = none → ∀ c, r.IsFrom s.room settings s.now c →
    Uuid.ofJson? c.orgId ≠ none →
      (e.connection.fault? = none → (s.answer r).1.TellsDatabaseFailure) ∧
        (e.connection.fault? ≠ none → (s.answer r).1.IsBare)
  /-- and of the page where the tables are there. -/
  present : ∀ t, s.database.tables = some t → ∀ c, r.IsFrom s.room settings s.now c →
    (s.answer r).1 = s.replyTo r
      (pageOutcome (pageResult settings ⟨.ok t, !e.connection.convertsDays⟩ c page))

section Visits
variable {s : Service} {e : Engine} {r : Request} {page : Page} {k : KeptSettings}
  {cache : SettingsCache} {c : Caller}

theorem tells_database : (s.replyTo r Stop.database.outcome).TellsDatabaseFailure := by
  have sendable :
      (Response.json 500 (Failure.envelopeOf (.str databaseReason))).canBeSent = true := by decide
  obtain ⟨status, body⟩ := replyTo_of_sent (s := s) (r := r) sendable
  exact ⟨escape_of_sent sendable, status, body⟩

/-- A visit of a caller to an open database comes to what the page says of what is seen. -/
theorem answer_of_seen (visits : r.Visits page) (kept : s.cache.get = (.ok k, cache))
    (there : s.database.isOpen = true) (isFrom : r.IsFrom s.room k.settings s.now c) :
    (s.answer r).1 = s.replyTo r (pageOutcome (pageResult k.settings s.database.view c page)) := by
  rw [answer_of_caller visits kept isFrom, result_readPage (Database.ready_of_isOpen there _)]

theorem bare_of_unreadable (visits : r.Visits page) (kept : s.cache.get = (.ok k, cache))
    (unreadable : ¬ r.IsReadable s.room k.settings s.now) : (s.answer r).1.IsBare := by
  unfold Request.IsReadable at unreadable
  push Not at unreadable
  obtain ⟨token, fault, header, faulty⟩ := unreadable
  rw [answer_of_stop visits (identify_of_faulty header kept faulty)]
  exact bare_of_escaped _

theorem answer_of_nameless (visits : r.Visits page) (kept : s.cache.get = (.ok k, cache))
    (there : s.database.isOpen = true) (isFrom : r.IsFrom s.room k.settings s.now c)
    (nameless : Uuid.ofJson? c.orgId = none) :
    (s.answer r).1 = s.replyTo r (Stop.failure (.orgNotFound c.orgId)).outcome := by
  rw [answer_of_seen visits kept there isFrom, pageResult, checkAccess_of_nameless nameless]
  rfl

/-- Who is nobody, or names no organization, gets the same answer from any tables. -/
theorem answer_asEver (kept : s.cache.get = (.ok k, cache)) (there : s.database.isOpen = true)
    (nameless : ∀ c, r.IsFrom s.room k.settings s.now c → Uuid.ofJson? c.orgId = none)
    (tables : Option Tables) :
    ((s.withDatabase (s.database.withTables tables)).answer r).1 = (s.answer r).1 := by
  show _ = ((s.withDatabase s.database).answer r).1
  refine answer_congr fun context page _ => ?_
  by_cases somebody : ∃ c, r.IsFrom s.room k.settings s.now c
  · obtain ⟨c, isFrom⟩ := somebody
    have known := identify_of_isFrom kept isFrom
    -- Whatever can be seen, the check of access ends at the organization.
    have outcome : ∀ d : Database, d.isOpen = true →
        ((s.withDatabase d).visit context r page).outcome =
          (Stop.failure (.orgNotFound c.orgId)).outcome := by
      intro d there
      rw [outcome_visit (s := s.withDatabase d) known,
        result_readPage (Database.ready_of_isOpen (d := (s.withDatabase d).database) there _),
        pageResult, checkAccess_of_nameless (nameless c isFrom)]
      rfl
    rw [outcome _ there, outcome (s.database.withTables tables) there]
  · obtain ⟨stop, stopped⟩ : ∃ stop, (identify s.room s.cache s.now r).1.result = .error stop := by
      refine identify_of_nobody fun k' cache' c kept' isFrom => somebody ⟨c, ?_⟩
      obtain ⟨rfl, -⟩ := Prod.mk.inj (kept.symm.trans kept') |>.imp_left Checked.ok.inj
      exact isFrom
    have outcome := fun d : Database =>
      (visit_of_stop (s := s.withDatabase d) stopped context page).1
    rw [outcome, outcome]

theorem answersVisit (rooted : s.database.Rooted) (engine : s.database.engine = some e)
    (visits : r.Visits page) (kept : s.cache.get = (.ok k, cache)) :
    s.AnswersVisit e k.settings r page := by
  have there : s.database.isOpen = true := by
    rw [Database.isOpen, engine, Option.isSome_some, Bool.or_true]
  exact {
    nobody := refuses_of_nobody visits kept
    unreadable := bare_of_unreadable visits kept
    nameless := by
      intro c isFrom nameless
      rw [answer_of_nameless visits kept there isFrom nameless]
      refine ⟨fun whole => refuses_of_failure (f := .orgNotFound c.orgId) rfl rfl ?_,
        fun half => bare_of_half (f := .orgNotFound c.orgId) rfl ?_⟩
      · rw [holdsHalf_missing, whole]
      · rw [holdsHalf_missing, half]
    asEver := answer_asEver kept there
    absent := by
      intro absent c isFrom named
      obtain ⟨u, named⟩ := Option.ne_none_iff_exists'.1 named
      have unseen := Database.view_of_none engine absent
      rw [answer_of_seen visits kept there isFrom, pageResult, checkAccess_of_unseen named unseen,
        Engine.absence]
      cases refused : e.connection.fault? with
      | none => exact ⟨fun _ => tells_database, fun h => absurd rfl h⟩
      | some fault =>
        exact ⟨fun free => absurd free (Option.some_ne_none fault), fun _ => bare_of_escaped _⟩
    present := by
      intro t tables c isFrom
      rw [answer_of_seen visits kept there isFrom, rooted.view_of_some engine tables] }

end Visits

/-! ## Whatever a service goes through -/

/-- Once a service has an engine, let it go through any steps that do not give the database up. The
engine stands; every table is there or none is, at the end and after each change on the way; making and
dropping the tables does what it is to do, a second making nothing more; and a visit is refused, told
that the database failed, or told of the page by who it is from and whether the tables are there. -/
theorem migrations_of_run {environment : Environment} {secrets : Nat → String} {room : StackRoom}
    {setup : LogSetup} {now : Instant} {withDatabase : Bool} {s₀ s s' : Service}
    (launched : Service.launch environment secrets room setup now withDatabase = .ok s₀)
    {before steps : List ServiceStep} (reached : (s₀.run before).2 = s) {e : Engine}
    (engine : s.database.engine = some e) (stays : ∀ x ∈ steps, x.KeepsEngine)
    (ran : (s.run steps).2 = s') :
    s'.database.engine = some e ∧
      (∃ parts : List (List CatalogChange),
        List.Forall₂ (fun x changes => ∀ y ∈ changes, x.Moves y.kind) steps parts ∧
        s.catalog.run parts.flatten = s'.catalog ∧
        ∀ changes, changes <+: parts.flatten → (s.catalog.run changes).IsWhole) ∧
      s'.Migrates e ∧
      ∀ (r : Request) (page : Page) (k : KeptSettings) (cache : SettingsCache), r.Visits page →
        s'.cache.get = (.ok k, cache) → s'.AnswersVisit e k.settings r page := by
  have rooted : s'.database.Rooted := by
    rw [← ran, ← reached]
    exact rooted_run (rooted_run (rooted_launch launched) before) steps
  obtain ⟨stands, parts, owns, changed⟩ := catalog_run engine stays
  rw [ran] at stands changed
  have begins : s.catalog.IsWhole := Catalog.isWhole_ofTables s.database.tables
  exact ⟨stands, ⟨parts, owns, changed, fun changes _ => Catalog.isWhole_run begins changes⟩,
    migrates stands, fun r page k cache visits kept => answersVisit rooted stands visits kept⟩

/-- A service with a plain key and empty tables that has dropped them. -/
theorem exists_dropped : ∃ s₀ s' e k cache,
    Service.launch [("SECRET_KEY", "plain text key")] plainSecrets plainRoom freshSetup
        ⟨1700000000500000⟩ true = .ok s₀ ∧
      (s₀.run [.dropTables]).2 = s' ∧ s₀.database.engine = some e ∧ e.TakesTables ∧
      s'.database.engine = some e ∧ s'.database.tables = none ∧ s'.now = ⟨1700000000500000⟩ ∧
      s'.cache.get = (.ok k, cache) ∧ k.settings.secretKey = plainSettings.secretKey :=
  ⟨_, _, _, _, _, rfl, rfl, rfl, ⟨rfl, rfl⟩, rfl, rfl, rfl, rfl, rfl⟩

/-- A visit of a plain user of some organization to the apps. -/
def orgVisit (org : String) : Request := plainVisit "/api/v1/dashboard/apps" "u-1" org false

theorem visits_orgVisit (org : String) : (orgVisit org).Visits .apps :=
  visits_withBearer rfl rfl trivial

theorem isFrom_orgVisit {s : Service} {k : KeptSettings} (now : s.now = ⟨1700000000500000⟩)
    (secret : k.settings.secretKey = plainSettings.secretKey) (org : String)
    (joined : Json.IsJoined org.toList) (named : org ≠ "") :
    (orgVisit org).IsFrom s.room k.settings s.now (Token.namedCaller "u-1" "" org false) := by
  have plain := @isFrom_plainVisit s.room "/api/v1/dashboard/apps" "u-1" org false
    ⟨Json.isJoined_of_holdsHalf (by decide), joined⟩ (by decide) named
  rw [now]
  exact plain.of_secret secret

/-- After the tables are dropped, none of them is there, a visit to an organization with an identifier
is told that the database failed, one to an organization without is refused, and tables that are made
then are empty. -/
theorem migrations_of_run_dropped : ∃ s₀ s',
    Service.launch [("SECRET_KEY", "plain text key")] plainSecrets plainRoom freshSetup
        ⟨1700000000500000⟩ true = .ok s₀ ∧
      (s₀.run [.dropTables]).2 = s' ∧ s'.database.tables = none ∧
      (∃ changes, s₀.catalog.run changes = s'.catalog ∧ (s₀.catalog.run changes).IsWhole) ∧
      (s'.answer (orgVisit acmeId)).1.TellsDatabaseFailure ∧
      (s'.answer (orgVisit "o-1")).1.Refuses ∧
      ((s'.step .dropTables).2.step .createTables).2.database.tables = some .empty := by
  obtain ⟨s₀, s', e, k, cache, launched, ran, engine, takes, -, absent, now, kept, secret⟩ :=
    exists_dropped
  have reached : (s₀.run []).2 = s₀ := rfl
  have stays : ∀ x ∈ [ServiceStep.dropTables], x.KeepsEngine := by
    intro x hx
    rw [List.mem_singleton.1 hx]
    trivial
  obtain ⟨-, ⟨parts, -, changed, whole⟩, migrates, visited⟩ :=
    migrations_of_run launched reached engine stays ran
  have acme := isFrom_orgVisit now secret acmeId (Json.isJoined_of_holdsHalf (by decide)) (by decide)
  have other := isFrom_orgVisit now secret "o-1" (Json.isJoined_of_holdsHalf (by decide)) (by decide)
  have named : Uuid.ofJson? (.str acmeId) ≠ none := by
    rw [acmeId_parsed]
    exact nofun
  have nameless : Uuid.ofJson? (.str "o-1") = none := by decide
  refine ⟨s₀, s', launched, ran, absent, ⟨_, changed, whole _ (List.prefix_refl _)⟩, ?_, ?_,
    (migrates.anew takes).2⟩
  · exact ((visited _ _ k cache (visits_orgVisit acmeId) kept).absent absent _ acme named).1 takes.1
  · exact ((visited _ _ k cache (visits_orgVisit "o-1") kept).nameless _ other nameless).1 (by decide)

/-- After the tables are dropped, a visit to what names no organization, because it is half a
character, is from a caller and not refused. -/
theorem not_refuses_halfOrg : ∃ s₀ s' k cache c,
    Service.launch [("SECRET_KEY", "plain text key")] plainSecrets plainRoom freshSetup
        ⟨1700000000500000⟩ true = .ok s₀ ∧
      (s₀.run [.dropTables]).2 = s' ∧ s'.database.tables = none ∧
      s'.cache.get = (.ok k, cache) ∧
      (orgVisit (String.singleton (ofHalf 0xd800))).Visits .apps ∧
      (orgVisit (String.singleton (ofHalf 0xd800))).IsFrom s'.room k.settings s'.now c ∧
      Uuid.ofJson? c.orgId = none ∧
      ¬ (s'.answer (orgVisit (String.singleton (ofHalf 0xd800)))).1.Refuses := by
  obtain ⟨s₀, s', e, k, cache, launched, ran, -, -, engine, absent, now, kept, secret⟩ :=
    exists_dropped
  have joined : Json.IsJoined (String.singleton (ofHalf 0xd800)).toList := by
    rw [String.toList_singleton]
    exact .singleton _
  have isFrom := isFrom_orgVisit now secret _ joined (by decide)
  have visits := visits_orgVisit (String.singleton (ofHalf 0xd800))
  have nameless : Uuid.ofJson? (.str (String.singleton (ofHalf 0xd800))) = none := by decide
  have half : (Json.str (String.singleton (ofHalf 0xd800))).holdsHalf = true := by decide
  have rooted : s'.database.Rooted := Database.rooted_of_none absent
  have bare := ((answersVisit rooted engine visits kept).nameless _ isFrom nameless).2 half
  refine ⟨s₀, s', k, cache, _, launched, ran, absent, kept, visits, isFrom, nameless, ?_⟩
  intro refuses
  rw [Reply.Refuses, bare.2] at refuses
  exact absurd refuses.1 (by decide)

end Service

end Runboard
