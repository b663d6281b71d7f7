import Runboard.Stats.Chart
import Runboard.Store.Uuid

/-!
# `Runboard.Log.Event`: what the service records

Everything that the service logs is one of the events below. An event fixes the level, the logger and
the message of its record. What the database layer reports of a fault of its own is not modelled; the
message of `databaseFailed` ends before it.

## Contents

* `Level`: levels by number, with their names;
* `Event`, `Event.level`, `Event.logger`, `Event.text`.
-/

namespace Runboard

/-! ## Levels -/

/-- A level, by its number. -/
abbrev Level := Int

namespace Level

/-- The level of details for developers. -/
def debug : Level := 10

/-- The level of ordinary events. -/
def info : Level := 20

/-- The level of warnings. -/
def warning : Level := 30

/-- The level of errors. -/
def error : Level := 40

/-- The name of a level. -/
def name (l : Level) : String :=
  if l = 0 then "NOTSET"
  else if l = 10 then "DEBUG"
  else if l = 20 then "INFO"
  else if l = 30 then "WARNING"
  else if l = 40 then "ERROR"
  else if l = 50 then "CRITICAL"
  else "Level " ++ toString l

end Level

/-! ## Events -/

/-- An event of the service. -/
inductive Event where
  /-- A request came without a bearer token. -/
  | missingBearer (path : String)
  /-- A bearer token was refused. -/
  | authenticationFailed (path reason : String)
  /-- The organization of a token does not exist. -/
  | orgMissing (org : Json)
  /-- A caller reads an organization by support access. -/
  | audited (username userId : Json) (orgName : String) (orgId : Uuid)
  /-- A caller is no member of the organization and has no support access. -/
  | notMember (userId : Json) (orgId : Uuid)
  /-- The entries of a history were not stored in the order of their days. -/
  | reordered (orgId : String) (entries : Nat)
  /-- A database engine was made. -/
  | engineReady (backend : String)
  /-- The database failed while a request was handled. -/
  | databaseFailed (path : String)
  /-- A chart was made. -/
  | chartBuilt (metric : Metric) (org : Json)
  | started (name version : String)
  | environment (name : String)
  | stopping (name : String)
  | stopped

namespace Event

/-- The level of an event. -/
def level : Event → Level
  | .missingBearer _ => Level.warning
  | .authenticationFailed .. => Level.warning
  | .orgMissing _ => Level.error
  | .audited .. => Level.info
  | .notMember .. => Level.warning
  | .reordered .. => Level.warning
  | .engineReady _ => Level.info
  | .databaseFailed _ => Level.error
  | .chartBuilt .. => Level.debug
  | .started .. => Level.info
  | .environment _ => Level.info
  | .stopping _ => Level.info
  | .stopped => Level.info

/-- The logger of an event. -/
def logger : Event → String
  | .missingBearer _ => "exec_stats.security.auth"
  | .authenticationFailed .. => "exec_stats.security.auth"
  | .orgMissing _ => "exec_stats.security.auth"
  | .audited .. => "exec_stats.security.auth"
  | .notMember .. => "exec_stats.security.auth"
  | .reordered .. => "exec_stats.database.statistics_store"
  | .engineReady _ => "exec_stats.database.connection"
  | .databaseFailed _ => "exec_stats.main"
  | .chartBuilt .. => "exec_stats.api.dashboard"
  | .started .. => "exec_stats.main"
  | .environment _ => "exec_stats.main"
  | .stopping _ => "exec_stats.main"
  | .stopped => "exec_stats.main"

/-- The message of an event. The report of a fault of the database layer would follow that of
`databaseFailed`. -/
def text : Event → String
  | .missingBearer path =>
    "Api authentication failed for " ++ path ++ ": missing Bearer token"
  | .authenticationFailed path reason =>
    "Api authentication failed for " ++ path ++ ": " ++ reason
  | .orgMissing org => "Failed retrieving org " ++ org.display
  | .audited username userId orgName orgId =>
    "AUDIT: user " ++ username.display ++ " (" ++ userId.display ++ ") is accessing org " ++
      orgName ++ " (" ++ orgId.text ++ ") with support access"
  | .notMember userId orgId =>
    "User " ++ userId.display ++ " isn't a part of org " ++ orgId.text
  | .reordered orgId entries =>
    "Daily statistics for org " ++ orgId ++ " were not stored oldest-first; reordered " ++
      toString entries ++ " entries"
  | .engineReady backend => "Database engine initialized (" ++ backend ++ ")"
  | .databaseFailed path => "Database error on " ++ path ++ ": "
  | .chartBuilt metric org =>
    "Built " ++ metric.name ++ " chart rollup for org " ++ org.display
  | .started name version => name ++ " v" ++ version ++ " started"
  | .environment name => "Environment: " ++ name
  | .stopping name => "Shutting down " ++ name ++ "..."
  | .stopped => "Database connections closed"

end Event

end Runboard
