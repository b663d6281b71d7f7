import Runboard.Store.Bind
import Runboard.Store.Table

/-!
# `Runboard.Store.Columns`: the columns of a row as they are given

A row is given by values under the names of columns. Identifiers, days and states are given as texts and
are read first; then the names must be those that a row of the table has; then truth values and moments
must be such values. What remains is bound to the columns one by one.

A row has more names than columns: those of what all rows can do, and those of what a table knows of
itself. A value under such a name does not reach the database, but two of the names say what the row
is, and take few values.

## Contents

* `Table`, `Table.rowName`, `Table.columns`, `Table.hasName`: the tables, their columns and names;
* `ValueFault`, `Cell`, `Cell.read`, `readCells`: values as they are given;
* `NameFault`, `RowFault`: why a row is not added;
* `checkNames`, `checkKinds`: names and kinds.
-/

namespace Runboard

open Runboard.Text

/-! ## Tables -/

/-- The tables that rows are added to. -/
inductive Table where
  | orgs
  | members
  | statistics
  | days
  | workflows
  | executions
  | apps
  deriving DecidableEq, Repr

namespace Table

/-- What a row of a table is called in reports. -/
def rowName : Table → String
  | .orgs => "Organization"
  | .members => "OrgMember"
  | .statistics => "OrgStatistics"
  | .days => "DailyStatisticRow"
  | .workflows => "Workflow"
  | .executions => "WorkflowExecution"
  | .apps => "WorkflowApp"

/-- The columns of four counters. -/
def counterColumns (lead : String) : List String :=
  [ lead ++ "workflow_executions", lead ++ "workflow_executions_finished",
    lead ++ "app_executions", lead ++ "app_executions_failed" ]

/-- The columns of a table that not all tables have. -/
def columns : Table → List String
  | .orgs => ["name"]
  | .members => ["org_id", "user_id"]
  | .statistics =>
    ["org_id"] ++ counterColumns "daily_" ++ counterColumns "monthly_" ++
      ["total_api_usage", "daily_api_usage"]
  | .days => ["org_id", "day"] ++ counterColumns ""
  | .workflows => ["org_id", "name"]
  | .executions => ["workflow_id", "status", "started_at"]
  | .apps => ["name", "is_public", "org_id"]

/-- The columns that all tables have. -/
def sharedColumns : List String := ["id", "created_at", "updated_at"]

/-- Whether a row of a table has a column. -/
def hasColumn (t : Table) (name : String) : Bool :=
  t.columns.contains name || sharedColumns.contains name

/-- The attributes of every declarative class: the constructor of a row takes the names of all attributes of
its class as keywords, and raises `TypeError` for any other. -/
def ownNames : List String :=
  [ "__annotations__", "__base__", "__bases__", "__basicsize__", "__call__", "__class__",
    "__class_getitem__", "__delattr__", "__dict__", "__dictoffset__", "__dir__", "__doc__", "__eq__",
    "__flags__", "__format__", "__ge__", "__getattribute__", "__getstate__", "__gt__", "__hash__",
    "__init__", "__init_subclass__", "__instancecheck__", "__itemsize__", "__le__", "__lt__",
    "__mapper__", "__module__", "__mro__", "__name__", "__ne__", "__new__", "__or__",
    "__orig_bases__", "__parameters__", "__prepare__", "__qualname__", "__reduce__",
    "__reduce_ex__", "__repr__", "__ror__", "__setattr__", "__sizeof__", "__slots__", "__str__",
    "__subclasscheck__", "__subclasses__", "__subclasshook__", "__table__", "__tablename__",
    "__text_signature__", "__weakref__", "__weakrefoffset__", "_is_protocol", "_sa_class_manager",
    "_sa_registry", "metadata", "mro", "registry" ]

/-- Whether a table has more to say of itself than its columns. -/
def hasArguments : Table → Bool
  | .members => true
  | .days => true
  | _ => false

/-- Whether a row of a table has a name. -/
def hasName (t : Table) (name : String) : Bool :=
  t.hasColumn name || ownNames.contains name || (name == "__table_args__" && t.hasArguments)

end Table

/-! ## Values as they are given -/

/-- The values of some columns. -/
abbrev Columns := List (String × Json)

/-- Why a value cannot be read. -/
inductive ValueFault where
  | id (fault : Uuid.GivenFault)
  | day (fault : DayFault)
  | dayKind
  | status (literal : String)
  deriving DecidableEq, Repr

/-- How a fault is reported. -/
def ValueFault.message : ValueFault → String
  | .id fault => fault.message
  | .day fault => fault.message
  | .dayKind => "fromisoformat: argument must be str"
  | .status literal => literal ++ " is not a valid ExecutionStatus"

/-- A value as it is given, or what was read from it. -/
inductive Cell where
  | id (u : Uuid)
  | day (d : Day)
  | status (s : ExecutionStatus)
  | plain (v : Json)

/-- The states of executions by name. -/
def statusNames : List (String × ExecutionStatus) :=
  [("executing", .executing), ("finished", .finished), ("aborted", .aborted)]

/-- The columns of identifiers. -/
def idColumns : List String := ["id", "org_id", "workflow_id"]

namespace Cell

/-- An identifier. -/
def readId (v : Json) : Except ValueFault Cell :=
  ((Uuid.ofGiven v).map Cell.id).mapError .id

/-- A day. -/
def readDay : Json → Except ValueFault Cell
  | .str s => ((Day.read s).map Cell.day).mapError .day
  | _ => .error .dayKind

/-- A state of an execution. -/
def readStatus (v : Json) : Except ValueFault Cell :=
  let found := match v with | .str s => Fields.get? statusNames s | _ => none
  match found with
  | some s => .ok (.status s)
  | none => .error (.status v.literal)

/-- The value of a column. There is no state without a name, and all else may be missing. -/
def read (name : String) (v : Json) : Except ValueFault Cell :=
  if name = "status" then readStatus v
  else
    match v with
    | .null => .ok (.plain .null)
    | v =>
      if idColumns.contains name then readId v
      else if name = "day" then readDay v
      else .ok (.plain v)

end Cell

/-- The values of some columns as they were read. -/
abbrev Cells := List (String × Cell)

/-- The order in which the values of columns are looked at. -/
def readOrder : List String := idColumns ++ ["day", "status"]

/-- The first fault of some values. -/
def valueFault? (columns : Columns) : Option ValueFault :=
  readOrder.findSome? fun name =>
    (Fields.get? columns name).bind fun v =>
      match Cell.read name v with
      | .error fault => some fault
      | .ok _ => none

/-- The values of some columns. -/
def readCells (columns : Columns) : Except ValueFault Cells :=
  match valueFault? columns with
  | some fault => .error fault
  | none => columns.mapM fun c => return (c.1, ← Cell.read c.1 c.2)

/-! ## Names and kinds -/

/-- Why the names of a row, or the values under them, do not suit it. -/
inductive NameFault where
  /-- A row of the table has no such name. -/
  | unknown (table : Table) (name : String)
  /-- The name stands for the row itself. -/
  | ownRow
  /-- The name stands for what a row is, which a value of the kind cannot be. -/
  | notClass (kind : String)
  /-- A value of the kind is given in place of all that the row holds. -/
  | notFields (kind : String)
  | readOnly (name : String)
  /-- The row has lost what it held, and with it the place of its columns. -/
  | lost (table : Table)
  deriving DecidableEq, Repr

/-- How a fault is reported. -/
def NameFault.message : NameFault → String
  | .unknown t name => quote name ++ " is an invalid keyword argument for " ++ t.rowName
  | .ownRow => "__init__() got multiple values for argument 'self'"
  | .notClass kind => "__class__ must be set to a class, not '" ++ kind ++ "' object"
  | .notFields kind => "__dict__ must be set to a dictionary, not a '" ++ kind ++ "'"
  | .readOnly name => "attribute '" ++ name ++ "' of 'DeclarativeBase' objects is not writable"
  | .lost t => "'" ++ t.rowName ++ "' object has no attribute '_sa_instance_state'"

/-- Why a row is not added. -/
inductive RowFault where
  | value (fault : ValueFault)
  | name (fault : NameFault)
  /-- The row is none of any table any more. -/
  | unmapped
  /-- A value is not of the kind of its column. -/
  | kind
  | table (fault : TableFault)
  | bind (fault : BindFault)
  /-- A value is missing or repeats what must be unique. -/
  | integrity
  deriving DecidableEq, Repr

/-- Whether a fault is one of the database layer. -/
def RowFault.isDatabaseError : RowFault → Bool
  | .value _ => false
  | .name _ => false
  | .table fault => fault.isDatabaseError
  | .bind fault => fault.isDatabaseError
  | _ => true

/-- How a fault is reported that is not one of the database layer; reports of that layer are not
told. -/
def RowFault.message : RowFault → String
  | .value fault => fault.message
  | .name fault => fault.message
  | .table fault => fault.message
  | .bind fault => fault.message
  | _ => ""

/-- What setting a name of a row to a value comes to: whether the row still holds what it held,
which `holds` says of the row before. -/
def setName (table : Table) (holds : Bool) (name : String) (v : Json) : Except NameFault Bool :=
  if !table.hasName name then .error (.unknown table name)
  else if table.hasColumn name then (if holds then .ok true else .error (.lost table))
  else
    match name, v with
    | "__class__", v => .error (.notClass v.kind)
    | "__dict__", .obj _ => .ok false
    | "__dict__", v => .error (.notFields v.kind)
    | "__weakref__", _ => .error (.readOnly name)
    | _, _ => .ok holds

/-- Sets the names of a row to their values, in order. -/
def checkNames (table : Table) (columns : Columns) : Except RowFault Unit :=
  if columns.any (·.1 == "self") then .error (.name .ownRow)
  else
    match columns.foldlM (fun holds c => setName table holds c.1 c.2) true with
    | .error fault => .error (.name fault)
    | .ok true => .ok ()
    | .ok false => .error .unmapped

/-- The columns of moments. -/
def momentColumns : List String := ["created_at", "updated_at", "started_at"]

/-- Whether a value can stand in a column of moments or truth values. No value that is given is a
moment; zero and one are truth values. -/
def Cell.isOfKind (name : String) : Cell → Bool
  | .plain .null => true
  | .plain v =>
    if momentColumns.contains name then false
    else if name = "is_public" then
      match v with
      | .bool _ => true
      | .int n => n == 0 || n == 1
      | _ => false
    else true
  | _ => true

/-- Checks that truth values and moments are such. -/
def checkKinds (cells : Cells) : Except RowFault Unit :=
  if cells.all fun c => c.2.isOfKind c.1 then .ok () else .error .kind

end Runboard
