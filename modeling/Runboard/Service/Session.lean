import Runboard.Service.Basic
import Runboard.Token.Session

/-!
# `Runboard.Service.Session`: running the service

What may happen to an application that `create_app` has made, step by step. A request is answered by the
routes behind their middleware. A question calls a method of `StatisticsStore`, or
`check_user_org_access`, in a session of `get_db_context`; a row is added and committed in a session of
its own, or in one of `get_db_context` that may fail. `create_tables`, `drop_tables` and `close` are those
of `DatabaseManager`. Starting up enters the `lifespan`: `configure_logging`, `initialize`,
`create_tables`; shutting down leaves it and closes the engine. The variables of the environment may
change, the cache of `get_settings` may be cleared, and the application may be made anew; and time passes.
Each step has an answer, and the records that it leaves for the journal.

## Contents

* `Question`, `ServiceStep`: what may be done;
* `StepFault`, `StepAnswer`, `StepResult`, `StepReport`: what comes of it;
* `Service.ask`, `Service.insertAll`, `Service.insertWithin`, `Service.requestWith`,
  `Service.changeEnvironment`, `Service.advance`, `Service.changeTables`, `Service.startUp`,
  `Service.shutDown`, `Service.step`: the steps;
* `Service.recorded`, `Service.written`, `Service.report`, `Service.run`: runs with their journal.
-/

namespace Runboard

/-! ## Steps -/

/-- What the tables are asked. -/
inductive Question where
  | org (id : Json)
  | isMember (id user : Json)
  | statistics (id : Json)
  | workflows (id : Json)
  | executionCount (workflow : Json) (limit : Option Int)
  | apps (id : Json) (limit offset : Option Int)
  | access (caller : Caller)

/-- A step. -/
inductive ServiceStep where
  | ask (question : Question)
  /-- Adds rows one by one; each stays if it can be added. -/
  | insert (table : Table) (rows : List Columns)
  /-- Adds a row, which stays only if it is kept, and may fail on purpose afterwards. -/
  | insertWithin (table : Table) (row : Columns) (keep : Bool) (failing : String)
  /-- Makes a request, with a new token if one is ordered. -/
  | request (request : Request) (token : Option TokenOrder)
  | advance (seconds : Int)
  | environment (changes : List (String × Option Json)) (dropSettings rebuild : Bool)
  | createTables
  | dropTables
  | close
  | startUp
  | shutDown

/-! ## Answers -/

/-- Why a step fails: the exceptions that it may raise. -/
inductive StepFault where
  | opening (fault : OpenFault)
  | store (fault : StoreFault)
  | row (fault : RowFault)
  /-- Rows are to be added where there are no sessions. -/
  | noSessions
  /-- The service was never started up. -/
  | notStarted
  | shift (fault : ShiftFault)
  | variable (fault : VariableFault)
  | token (problem : TokenProblem)
  /-- A failure on purpose. -/
  | intended (text : String)

/-- What a step answers. -/
inductive StepAnswer where
  | nothing
  | org (found : Option Organization)
  | truth (value : Bool)
  | snapshot (snapshot : Snapshot Amount)
  | workflows (rows : List WorkflowRow)
  | count (n : Nat)
  | apps (rows : List AppRow)
  | added
  | rows (results : List (Except StepFault Unit))
  | reply (reply : Reply)
  | setup (setup : LogSetup)

/-- What comes of a step, apart from the service after it. -/
structure StepResult where
  answer : Except StepFault StepAnswer
  entries : List Entry := []

/-- The result of a step that is no request: its events are recorded in the context of the moment. -/
def StepResult.ofTraced (context : LogContext) (x : Traced StepFault StepAnswer) : StepResult :=
  { answer := x.result, entries := entriesIn context x.events }

/-- What comes of a step, with what is recorded and written of it by the journal as it is after the
step. -/
structure StepReport where
  answer : Except StepFault StepAnswer
  recorded : List Entry
  written : List String

namespace Service

/-! ## Asking -/

/-- The answer of the tables to a question: a call of the store, or of `check_user_org_access`. -/
def answerOf (v : TableView) : Question → Traced StoreFault StepAnswer
  | .org id => .ofExcept ((Store.org v id).map .org)
  | .isMember id user => .ofExcept ((Store.isMember v id user).map .truth)
  | .statistics id => do
    let snapshot ← Traced.ofValue (Store.statistics v id)
    return .snapshot snapshot
  | .workflows id => .ofExcept ((Store.workflows v id).map .workflows)
  | .executionCount workflow limit =>
    .ofExcept ((Store.executionCount v (Uuid.ofJson? workflow) limit).map .count)
  | .apps id limit offset => .ofExcept ((Store.apps v id limit offset).map .apps)
  | .access caller => do
    checkAccess v caller
    return .nothing

/-- Works in a session of `get_db_session`, which initializes the engine if there are no sessions. -/
def withSession {α : Type} (s : Service) (work : Database → Traced StepFault α) :
    Traced StepFault α × Service :=
  match s.database.ready s.cache with
  | (.error fault, d, cache) => (.fail (.opening fault), { s with database := d, cache := cache })
  | (.ok events, d, cache) => ((work d).after events, { s with database := d, cache := cache })

/-- Asks the tables. -/
def ask (s : Service) (q : Question) : Traced StepFault StepAnswer × Service :=
  s.withSession fun d =>
    let x := answerOf d.view q
    ⟨x.result.mapError .store, x.events⟩

/-! ## Adding rows -/

/-- The tables of a database with a row added. -/
def addedTo (d : Database) (table : Table) (columns : Columns) : Except RowFault Tables := do
  let cells ← (readCells columns).mapError .value
  checkNames table columns
  let _ ← d.reach.mapError .table
  checkKinds cells
  let t ← d.view.tables.mapError .table
  t.add (← NewRow.bind table cells)

/-- The service with other tables. -/
def withTables (s : Service) (t : Tables) : Service :=
  { s with database := s.database.withTables (some t) }

/-- Adds a row that stays if it can be added. It needs sessions, and makes none. -/
def insert (s : Service) (table : Table) (columns : Columns) : Except StepFault Unit × Service :=
  if s.database.sessions.isNone then (.error .noSessions, s)
  else
    match addedTo s.database table columns with
    | .error fault => (.error (.row fault), s)
    | .ok t => (.ok (), s.withTables t)

/-- Adds rows one by one. -/
def insertAll (s : Service) (table : Table) :
    List Columns → List (Except StepFault Unit) × Service
  | [] => ([], s)
  | columns :: rest =>
    let (result, s) := s.insert table columns
    let (results, s) := s.insertAll table rest
    (result :: results, s)

/-- Adds a row that stays only if it is kept; then the step may fail on purpose, with a text that is
not empty. The database is opened if it has to be opened. -/
def insertWithin (s : Service) (table : Table) (columns : Columns) (keep : Bool)
    (failing : String) : Traced StepFault StepAnswer × Service :=
  match s.withSession fun d => .ofExcept ((addedTo d table columns).mapError .row) with
  | (⟨.error fault, events⟩, s) => (⟨.error fault, events⟩, s)
  | (⟨.ok t, events⟩, s) =>
    let s := if keep then s.withTables t else s
    if failing = "" then (⟨.ok .added, events⟩, s)
    else (⟨.error (.intended failing), events⟩, s)

/-! ## Requests -/

/-- A request with a bearer token after its own headers. -/
def withBearer (r : Request) (token : String) : Request :=
  { r with headers := r.headers ++ [("Authorization", "Bearer " ++ token)] }

/-- A request whose answer is the answer of the step. -/
def request (s : Service) (r : Request) : StepResult × Service :=
  let (reply, entries, s) := s.answer r
  ({ answer := .ok (.reply reply), entries := entries }, s)

/-- A request with a new token if one is ordered. Without the token no request is made. -/
def requestWith (s : Service) (r : Request) : Option TokenOrder → StepResult × Service
  | none => s.request r
  | some order =>
    match TokenSession.create { cache := s.cache, room := s.room, now := s.now } order with
    | (.error problem, session) =>
      ({ answer := .error (.token problem) }, { s with cache := session.cache })
    | (.ok token, session) => { s with cache := session.cache }.request (withBearer r token)

/-! ## Surroundings -/

/-- Calls `create_app` again, with the settings of the moment. Without settings the application stays as
it was made. -/
def rebuild (s : Service) : Traced StepFault StepAnswer × Service :=
  match s.cache.get with
  | (.faults faults, cache) => (.fail (.opening (.settings faults)), { s with cache := cache })
  | (.ok kept, cache) =>
    (pure .nothing, { s with cache := cache, facade := .ofSettings kept.settings })

/-- Changes the environment, drops the settings, and puts the service together again, as far as it
is wanted. Where a variable cannot be set, nothing of what would follow is done. -/
def changeEnvironment (s : Service) (changes : List (String × Option Json))
    (dropSettings rebuilding : Bool) : Traced StepFault StepAnswer × Service :=
  match s.cache.setVariables changes with
  | (some fault, cache) => (.fail (.variable fault), { s with cache := cache })
  | (none, cache) =>
    let s := { s with cache := if dropSettings then cache.drop else cache }
    if rebuilding then s.rebuild else (pure .nothing, s)

/-- Lets time pass. A time that no clock shows is not reached. -/
def advance (s : Service) (seconds : Int) : Traced StepFault StepAnswer × Service :=
  match s.now.shift (seconds * 1000000) with
  | .error fault => (.fail (.shift fault), s)
  | .ok now => (pure .nothing, { s with now := now })

/-- Calls `create_tables` or `drop_tables`, which initialize the engine if there is none. -/
def changeTables (s : Service) (change : Database → Except TableFault Database) :
    Traced StepFault Unit × Service :=
  match s.database.start none s.cache with
  | (.error fault, d, cache) => (.fail (.opening fault), { s with database := d, cache := cache })
  | (.ok events, d, cache) =>
    match change d with
    | .error fault =>
      (⟨.error (.store (.table fault)), events⟩, { s with database := d, cache := cache })
    | .ok d => (⟨.ok (), events⟩, { s with database := d, cache := cache })

/-- The name of the level at which a service with some settings records. -/
def levelNameFor (settings : Settings) : String := if settings.debug then "DEBUG" else "INFO"

/-- Enters the `lifespan`: configures logging, initializes the engine, and creates the tables. A start that
fails leaves nothing to be shut down. -/
def startUp (s : Service) : Traced StepFault StepAnswer × Service :=
  let s := { s with life := .after }
  match s.cache.get with
  | (.faults faults, cache) => (.fail (.opening (.settings faults)), { s with cache := cache })
  | (.ok kept, cache) =>
    let settings := kept.settings
    let setup :=
      match s.setup.configure settings.environment (levelNameFor settings) with
      | .ok setup => setup
      | .error _ => s.setup
    match { s with cache := cache, setup := setup }.changeTables Database.created with
    | (⟨.error fault, events⟩, s) => (⟨.error fault, events⟩, s)
    | (⟨.ok (), events⟩, s) =>
      ( ⟨.ok (.setup s.setup), events ++
          [.started settings.appName settings.appVersion, .environment settings.environment]⟩,
        { s with life := .running settings })

/-- Leaves the `lifespan`: closes the engine, and answers whether it is gone. -/
def shutDown (s : Service) : Traced StepFault StepAnswer × Service :=
  match s.life with
  | .before => (.fail .notStarted, s)
  | .after => (pure (.truth s.database.engine.isNone), s)
  | .running settings =>
    let s := { s with database := s.database.close, life := .after }
    (⟨.ok (.truth s.database.engine.isNone), [.stopping settings.appName, .stopped]⟩, s)

/-! ## Running -/

/-- The result of a step that is no request: what it recorded is recorded in the context of the moment. -/
def stepResult (x : Traced StepFault StepAnswer × Service) : StepResult × Service :=
  (.ofTraced x.2.context x.1, x.2)

/-- The result of a step whose success has no answer. -/
def answerless (x : Traced StepFault Unit × Service) : StepResult × Service :=
  stepResult (do x.1; return .nothing, x.2)

/-- Makes a step. -/
def step (s : Service) : ServiceStep → StepResult × Service
  | .ask q => stepResult (s.ask q)
  | .insert table rows =>
    let (results, s) := s.insertAll table rows
    stepResult (pure (.rows results), s)
  | .insertWithin table row keep failing => stepResult (s.insertWithin table row keep failing)
  | .request r order => s.requestWith r order
  | .advance seconds => stepResult (s.advance seconds)
  | .environment changes dropSettings rebuilding =>
    stepResult (s.changeEnvironment changes dropSettings rebuilding)
  | .createTables => answerless (s.changeTables Database.created)
  | .dropTables => answerless (s.changeTables Database.dropped)
  | .close => stepResult (pure .nothing, { s with database := s.database.close })
  | .startUp => stepResult s.startUp
  | .shutDown => stepResult s.shutDown

/-! ## Journal -/

/-- The entries that pass the journal. -/
def recorded (s : Service) (entries : List Entry) : List Entry :=
  entries.filter fun e => s.setup.enabled e.event.logger e.event.level

/-- The lines that entries write. -/
def written (s : Service) (entries : List Entry) : List String :=
  outputLines (entries.flatMap fun e =>
    s.setup.emit e.context (e.event.record s.now))

/-- Makes a step and writes the journal. -/
def report (s : Service) (x : ServiceStep) : StepReport × Service :=
  let (r, s) := s.step x
  (⟨r.answer, s.recorded r.entries, s.written r.entries⟩, s)

/-- Makes steps in turn. -/
def run (s : Service) : List ServiceStep → List StepReport × Service
  | [] => ([], s)
  | x :: rest =>
    let (a, s) := s.report x
    let (as, s) := s.run rest
    (a :: as, s)

end Service

end Runboard
