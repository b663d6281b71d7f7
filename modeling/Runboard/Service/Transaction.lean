import Runboard.Service.Session

/-!
# `Runboard.Service.Transaction`: many rows in one session

In a session rows are added one after another, and each is seen by those that are added after it. What
was added is kept when the session says so; until then it belongs to the session alone. A row that is
refused and a failure on purpose end the session, and what it did not keep is lost. A step that adds a
single row is such a session, too.

## Contents

* `SessionAct`, `Draft`, `Draft.act`, `Draft.run`: what a session does to the database;
* `Service.session`, `Service.sessions`: sessions of a service, one after another.
-/

namespace Runboard

/-- What is done in a session. -/
inductive SessionAct where
  | add (table : Table) (row : Columns)
  /-- Keeps what was added so far. -/
  | keep
  /-- Fails on purpose. -/
  | fail (text : String)

/-- The database as a session has kept it, and as the session sees it. -/
structure Draft where
  kept : Database
  seen : Database

namespace Draft

/-- The draft of a session that begins. -/
def start (d : Database) : Draft := ⟨d, d⟩

/-- What an act makes of a draft, unless it fails. -/
def act (d : Draft) : SessionAct → Except StepFault Draft
  | .add table row =>
    match Service.addedTo d.seen table row with
    | .error fault => .error (.row fault)
    | .ok t => .ok { d with seen := d.seen.withTables (some t) }
  | .keep => .ok { d with kept := d.seen }
  | .fail text => .error (.intended text)

/-- What acts make of a draft, up to the first that fails. -/
def run (d : Draft) : List SessionAct → Except StepFault Unit × Draft
  | [] => (.ok (), d)
  | x :: rest =>
    match d.act x with
    | .error fault => (.error fault, d)
    | .ok d => d.run rest

end Draft

namespace Service

/-- A session. The database is opened if it has to be opened, and has afterwards what was kept. -/
def session (s : Service) (acts : List SessionAct) : Traced StepFault Unit × Service :=
  match s.database.ready s.cache with
  | (.error fault, d, cache) => (.fail (.opening fault), { s with database := d, cache := cache })
  | (.ok events, d, cache) =>
    let (result, draft) := (Draft.start d).run acts
    (⟨result, events⟩, { s with database := draft.kept, cache := cache })

/-- Sessions in turn. -/
def sessions (s : Service) : List (List SessionAct) → List (Except StepFault Unit) × Service
  | [] => ([], s)
  | acts :: rest =>
    let (x, s) := s.session acts
    let (results, s) := s.sessions rest
    (x.result :: results, s)

end Service

end Runboard
