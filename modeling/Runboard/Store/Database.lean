import Runboard.Log.Event
import Runboard.Settings.Cache
import Runboard.Store.Engine
import Runboard.Store.Query

/-!
# `Runboard.Store.Database`: the database of the service

`DatabaseManager` has at most one engine at a time. `initialize` makes it from a given URL or from the
settings, when it is first needed; calling it again changes nothing. With the engine comes its session
factory. The tables of an engine in memory live as long as it does (`StaticPool`); an engine for a file or
a server is made, too, but its connections fail (`Storage.elsewhere`).

## Contents

* `OpenFault`: why the database cannot be opened;
* `Database`, `Database.start`, `Database.close`: the engine;
* `Database.ready`, `Database.reach`, `Database.view`: what a session sees;
* `Database.created`, `Database.dropped`: the tables;
* `EngineStep`, `EngineSession.step`, `EngineSession.run`: sessions.
-/

namespace Runboard

/-- Why the database cannot be opened. -/
inductive OpenFault where
  | settings (faults : List SettingFault)
  | engine (fault : EngineFault)
  deriving DecidableEq, Repr

/-- What makes sessions; they are bound to an engine. -/
structure SessionMaker where
  engine : Engine
  deriving DecidableEq, Repr

/-- The engine, its sessions, and the tables behind it. -/
structure Database where
  engine : Option Engine := none
  sessions : Option SessionMaker := none
  tables : Option Tables := none
  deriving DecidableEq, Repr

namespace Database

/-- The database before it is opened. -/
def closed : Database := {}

/-- The address an engine is made from: the given one if it is not empty, else that of the
settings. -/
def addressFor (given : Option String) (cache : SettingsCache) :
    Except OpenFault String × SettingsCache :=
  match given.filter (· != "") with
  | some url => (.ok url, cache)
  | none =>
    match cache.get with
    | (.ok k, cache) => (.ok k.settings.engineUrl, cache)
    | (.faults fs, cache) => (.error (.settings fs), cache)

/-- Makes the engine unless there is one, with the event of its making. -/
def start (d : Database) (given : Option String) (cache : SettingsCache) :
    Except OpenFault (List Event) × Database × SettingsCache :=
  if d.engine.isSome then (.ok [], d, cache)
  else
    match addressFor given cache with
    | (.error fault, cache) => (.error fault, d, cache)
    | (.ok url, cache) =>
      match Engine.make url with
      | .error fault => (.error (.engine fault), d, cache)
      | .ok e =>
        let d := { d with engine := some e }
        let d := { d with sessions := some ⟨e⟩, tables := none }
        (.ok [.engineReady e.backend], d, cache)

/-- Gives up the engine and what it held. -/
def close (d : Database) : Database :=
  { d with engine := none, sessions := none, tables := none }

/-- Makes the engine unless there are sessions. -/
def ready (d : Database) (cache : SettingsCache) :
    Except OpenFault (List Event) × Database × SettingsCache :=
  if d.sessions.isSome then (.ok [], d, cache) else d.start none cache

/-- The connections to the database, if they can be made. -/
def reach (d : Database) : Except TableFault Connection :=
  match d.engine with
  | none => .error .unreachable
  | some e =>
    match e.connection.fault?, e.connection.storage with
    | some fault, _ => .error (.connect fault)
    | none, .memory _ => .ok e.connection
    | none, .elsewhere => .error .unreachable

/-- What a session sees: the tables, if there are any that can be reached. -/
def view (d : Database) : TableView :=
  { tables := do
      let _ ← d.reach
      match d.tables with
      | some t => return t
      | none => .error .unreachable
    readsDays := d.engine.all fun e => !e.connection.convertsDays }

/-- The database with other tables. -/
def withTables (d : Database) (t : Option Tables) : Database := { d with tables := t }

/-- The database after the creation of its tables: those there are, or empty ones. -/
def created (d : Database) : Except TableFault Database := do
  let connection ← d.reach
  if connection.storage = .memory true then .error .unreachable
  else return d.withTables (some (d.tables.getD .empty))

/-- The database after its tables are dropped. -/
def dropped (d : Database) : Except TableFault Database := do
  let _ ← d.reach
  return d.withTables none

/-- A database opened in memory, with empty tables. -/
def inMemory : Database :=
  match Engine.make "sqlite+aiosqlite:///:memory:" with
  | .ok e => { engine := some e, sessions := some ⟨e⟩, tables := some .empty }
  | .error _ => closed

end Database

/-! ## Sessions -/

/-- A step of a session. -/
inductive EngineStep where
  | start (url : Option String)
  | close
  | state

/-- What a step answers: the database after it, its events, and why it failed. -/
structure EngineAnswer where
  database : Database
  events : List Event := []
  fault : Option OpenFault := none

/-- The state of a session. -/
structure EngineSession where
  cache : SettingsCache
  database : Database := .closed

namespace EngineSession

/-- Makes a step. -/
def step (s : EngineSession) : EngineStep → EngineAnswer × EngineSession
  | .start url =>
    match s.database.start url s.cache with
    | (.ok events, d, cache) => ({ database := d, events := events }, ⟨cache, d⟩)
    | (.error fault, d, cache) => ({ database := d, fault := some fault }, ⟨cache, d⟩)
  | .close => ({ database := s.database.close }, { s with database := s.database.close })
  | .state => ({ database := s.database }, s)

/-- Makes the steps of a session in turn. -/
def run (s : EngineSession) : List EngineStep → List EngineAnswer × EngineSession
  | [] => ([], s)
  | x :: rest =>
    let (a, s) := s.step x
    let (as, s) := run s rest
    (a :: as, s)

end EngineSession

end Runboard
