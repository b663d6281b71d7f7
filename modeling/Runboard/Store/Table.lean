import Runboard.Stats.Amount
import Runboard.Store.Connect
import Runboard.Store.StoredId

/-!
# `Runboard.Store.Table`: rows and tables

Seven tables hold organizations, their members, their statistics, the statistics of their completed
days, their workflows, the executions of workflows, and apps. Rows keep the order in which they were
added. A row may have been added without an identifier; the default of the column then draws one at
random, to which nothing refers and which is taken to be stored as a text, and none is noted.

## Contents

* the types of rows, with `DayRow.ids` and its like: the identifiers that are loaded with a row;
* `Tables`, `Tables.empty`;
* `TableFault`, `TableView`: what can be seen of the tables.
-/

namespace Runboard

/-! ## Rows -/

/-- An organization. -/
structure OrgRow where
  id : Option Uuid
  name : String
  deriving DecidableEq, Repr

/-- A user as a member of an organization. -/
structure MemberRow where
  id : Option Uuid
  orgId : Uuid
  userId : String
  deriving DecidableEq, Repr

/-- The running counters of an organization. -/
structure StatisticsRow where
  id : Option Uuid
  orgId : Uuid
  today : Counters Amount
  month : Counters Amount
  totalApiUsage : Amount
  dailyApiUsage : Amount
  deriving DecidableEq, Repr

/-- The counters of a completed day of an organization. -/
structure DayRow where
  id : Option Uuid
  orgId : Uuid
  day : Day
  counters : Counters Amount
  deriving DecidableEq, Repr

/-- A workflow of an organization. -/
structure WorkflowRow where
  id : Option Uuid
  orgId : Uuid
  name : String
  deriving DecidableEq, Repr

/-- The state of an execution. -/
inductive ExecutionStatus where
  | executing
  | finished
  | aborted
  deriving DecidableEq, Repr

/-- An execution of a workflow. -/
structure ExecutionRow where
  id : Option Uuid
  workflowId : Uuid
  status : ExecutionStatus
  deriving DecidableEq, Repr

/-- An app, which all organizations may use if it is public and its owner may use anyway. -/
structure AppRow where
  id : Option Uuid
  name : String
  isPublic : Bool
  orgId : Option Uuid
  deriving DecidableEq, Repr

/-! ## Tables -/

/-- The seven tables. -/
structure Tables where
  orgs : List OrgRow
  members : List MemberRow
  statistics : List StatisticsRow
  days : List DayRow
  workflows : List WorkflowRow
  executions : List ExecutionRow
  apps : List AppRow
  deriving DecidableEq, Repr

/-- Tables without rows. -/
def Tables.empty : Tables := ⟨[], [], [], [], [], [], []⟩

/-! ## Columns of identifiers

A `SELECT` of a row loads all its columns, the foreign key before the primary key. -/

/-- The identifiers of a row of counters. -/
def StatisticsRow.ids (r : StatisticsRow) : List (Option Uuid) := [some r.orgId, r.id]

/-- The identifiers of a row of a day. -/
def DayRow.ids (r : DayRow) : List (Option Uuid) := [some r.orgId, r.id]

/-- The identifiers of a row of a workflow. -/
def WorkflowRow.ids (r : WorkflowRow) : List (Option Uuid) := [some r.orgId, r.id]

/-- The identifiers of a row of an app; the owner may be missing. -/
def AppRow.ids (r : AppRow) : List (Option Uuid) := [r.orgId, r.id]

/-- A completed day as an entry of a history. -/
def DayRow.entry (r : DayRow) : DayEntry Amount := ⟨r.counters, some r.day⟩

/-! ## Views -/

/-- Why the tables cannot be seen. -/
inductive TableFault where
  | connect (fault : ConnectFault)
  /-- There are no tables, or they cannot be reached. -/
  | unreachable
  deriving DecidableEq, Repr

/-- Whether a fault is one of the database layer. -/
def TableFault.isDatabaseError : TableFault → Bool
  | .connect _ => false
  | .unreachable => true

/-- How a fault is reported that is not one of the database layer; reports of that layer are not
told. -/
def TableFault.message : TableFault → String
  | .connect fault => fault.message
  | .unreachable => ""

/-- What can be seen of the tables. -/
structure TableView where
  tables : Except TableFault Tables
  /-- Whether days are read as texts, as they are expected. -/
  readsDays : Bool := true

end Runboard
