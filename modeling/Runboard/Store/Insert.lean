import Runboard.Store.Columns

/-!
# `Runboard.Store.Insert`: adding rows

The values of a row that were read are bound to the columns of its table one by one. A column with a
default takes it where no value is given. The database then refuses a row with a missing value
(`NOT NULL`), and one that repeats what must be unique: the primary key, a user of an organization, the
statistics of an organization, a day of an organization. Identifiers are compared as they are stored, so
`Uuid.sameKey` decides.

## Contents

* `Cells.id?`, `Cells.day?`, `Cells.status`, `Cells.text?`, `Cells.count`, `Cells.flag`: the values
  of columns;
* `NewRow`, `NewRow.bind`: a row with its values bound;
* `Tables.add`: a row added, or refused.
-/

namespace Runboard

/-! ## The values of columns -/

namespace Cells

/-- The identifier under a name. -/
def id? (cells : Cells) (name : String) : Option Uuid :=
  match Fields.get? cells name with
  | some (.id u) => some u
  | _ => none

/-- The day of a row. -/
def day? (cells : Cells) : Option Day :=
  match Fields.get? cells "day" with
  | some (.day d) => some d
  | _ => none

/-- The state of an execution, by default that it is executing. -/
def status (cells : Cells) : ExecutionStatus :=
  match Fields.get? cells "status" with
  | some (.status s) => s
  | _ => .executing

/-- The value under a name of which nothing had to be read. -/
def plain (cells : Cells) (name : String) : Json :=
  match Fields.get? cells name with
  | some (.plain v) => v
  | _ => .null

/-- The text under a name. -/
def text? (cells : Cells) (name : String) : Except RowFault (Option String) :=
  (Bind.text (cells.plain name)).mapError .bind

/-- The counter under a name. -/
def count (cells : Cells) (name : String) : Except RowFault Amount :=
  (Bind.count (cells.plain name)).mapError .bind

/-- The four counters whose columns begin with a word. -/
def counters (cells : Cells) (lead : String) : Except RowFault (Counters Amount) := do
  let runs ← cells.count (lead ++ "workflow_executions")
  let finished ← cells.count (lead ++ "workflow_executions_finished")
  let appRuns ← cells.count (lead ++ "app_executions")
  let failed ← cells.count (lead ++ "app_executions_failed")
  return ⟨runs, finished, appRuns, failed⟩

/-- The truth value under a name, by default no. -/
def flag (cells : Cells) (name : String) : Bool := (cells.plain name).truthy

end Cells

/-! ## Rows -/

/-- A row whose values are bound; a value may be missing. -/
inductive NewRow where
  | org (id : Option Uuid) (name : Option String)
  | member (id orgId : Option Uuid) (userId : Option String)
  | statistics (id orgId : Option Uuid) (today month : Counters Amount)
      (totalApiUsage dailyApiUsage : Amount)
  | day (id orgId : Option Uuid) (day : Option Day) (counters : Counters Amount)
  | workflow (id orgId : Option Uuid) (name : Option String)
  | execution (id workflowId : Option Uuid) (status : ExecutionStatus)
  | app (id : Option Uuid) (name : Option String) (isPublic : Bool) (orgId : Option Uuid)
  deriving DecidableEq, Repr

/-- A row of a table from its values, bound in the order of the columns. -/
def NewRow.bind (table : Table) (cells : Cells) : Except RowFault NewRow := do
  let id := cells.id? "id"
  let org := cells.id? "org_id"
  match table with
  | .orgs => return .org id (← cells.text? "name")
  | .members => return .member id org (← cells.text? "user_id")
  | .statistics =>
    return .statistics id org (← cells.counters "daily_") (← cells.counters "monthly_")
      (← cells.count "total_api_usage") (← cells.count "daily_api_usage")
  | .days => return .day id org cells.day? (← cells.counters "")
  | .workflows => return .workflow id org (← cells.text? "name")
  | .executions => return .execution id (cells.id? "workflow_id") cells.status
  | .apps => return .app id (← cells.text? "name") (cells.flag "is_public") org

/-! ## Adding -/

/-- Whether an identifier is given and is one key with one of some others. -/
def takenId (id : Option Uuid) (others : List (Option Uuid)) : Bool :=
  id.any fun u => others.any fun other => other.any u.sameKey

/-- A row added to a table under the condition that it repeats nothing. -/
def addUnique {α : Type} (rows : List α) (row : α) (taken : Bool) : Except RowFault (List α) :=
  if taken then .error .integrity else .ok (rows ++ [row])

namespace Tables

/-- A row added to the tables, or the fault that leaves them as they are. A row that misses a value
it must have is refused. -/
def add (t : Tables) : NewRow → Except RowFault Tables
  | .org id (some name) =>
    (addUnique t.orgs ⟨id, name⟩ (takenId id (t.orgs.map (·.id)))).map
      fun rows => { t with orgs := rows }
  | .member id (some orgId) (some userId) =>
    (addUnique t.members ⟨id, orgId, userId⟩
      (takenId id (t.members.map (·.id)) ||
        t.members.any fun r => orgId.sameKey r.orgId && r.userId == userId)).map
      fun rows => { t with members := rows }
  | .statistics id (some orgId) today month total daily =>
    (addUnique t.statistics ⟨id, orgId, today, month, total, daily⟩
      (takenId id (t.statistics.map (·.id)) ||
        t.statistics.any fun r => orgId.sameKey r.orgId)).map
      fun rows => { t with statistics := rows }
  | .day id (some orgId) (some day) counters =>
    (addUnique t.days ⟨id, orgId, day, counters⟩
      (takenId id (t.days.map (·.id)) ||
        t.days.any fun r => orgId.sameKey r.orgId && r.day == day)).map
      fun rows => { t with days := rows }
  | .workflow id (some orgId) (some name) =>
    (addUnique t.workflows ⟨id, orgId, name⟩ (takenId id (t.workflows.map (·.id)))).map
      fun rows => { t with workflows := rows }
  | .execution id (some workflowId) status =>
    (addUnique t.executions ⟨id, workflowId, status⟩
      (takenId id (t.executions.map (·.id)))).map
      fun rows => { t with executions := rows }
  | .app id (some name) isPublic orgId =>
    (addUnique t.apps ⟨id, name, isPublic, orgId⟩ (takenId id (t.apps.map (·.id)))).map
      fun rows => { t with apps := rows }
  | _ => .error .integrity

end Tables

end Runboard
