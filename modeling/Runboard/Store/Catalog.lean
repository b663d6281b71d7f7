import Runboard.Store.Insert

/-!
# `Runboard.Store.Catalog`: the tables one by one

The seven tables are made one after another, each unless it is there already, and dropped one after
another in the other direction, each if it is there. On the way some of them are there and others are
not. A row can be added where its own table is there, and touches no other.

## Contents

* `Catalog`, `Catalog.has`, `Catalog.rows`: tables each of which may be missing;
* `Catalog.make`, `Catalog.remove`, `Catalog.makeAll`, `Catalog.removeAll`: making and dropping them;
* `NewRow.table`, `Catalog.add`: adding a row;
* `CatalogChange`, `Catalog.run`: changes in turn;
* `Catalog.ofTables`: the catalog of tables that are all there, or all missing.
-/

namespace Runboard

/-- The rows of each table that is there. -/
structure Catalog where
  orgs : Option (List OrgRow)
  members : Option (List MemberRow)
  statistics : Option (List StatisticsRow)
  days : Option (List DayRow)
  workflows : Option (List WorkflowRow)
  executions : Option (List ExecutionRow)
  apps : Option (List AppRow)
  deriving DecidableEq, Repr

/-- All tables, each after those that it refers to. -/
def Table.all : List Table :=
  [.orgs, .apps, .members, .statistics, .days, .workflows, .executions]

/-- The table of a row. -/
def NewRow.table : NewRow → Table
  | .org .. => .orgs
  | .member .. => .members
  | .statistics .. => .statistics
  | .day .. => .days
  | .workflow .. => .workflows
  | .execution .. => .executions
  | .app .. => .apps

namespace Catalog

/-- Whether a table is there. -/
def has (c : Catalog) : Table → Bool
  | .orgs => c.orgs.isSome
  | .members => c.members.isSome
  | .statistics => c.statistics.isSome
  | .days => c.days.isSome
  | .workflows => c.workflows.isSome
  | .executions => c.executions.isSome
  | .apps => c.apps.isSome

/-- The rows that are there. -/
def rows (c : Catalog) : Tables :=
  ⟨c.orgs.getD [], c.members.getD [], c.statistics.getD [], c.days.getD [], c.workflows.getD [],
    c.executions.getD [], c.apps.getD []⟩

/-- The catalog with the rows that some tables have in one table, which is there then. -/
def withRows (c : Catalog) (t : Tables) : Table → Catalog
  | .orgs => { c with orgs := some t.orgs }
  | .members => { c with members := some t.members }
  | .statistics => { c with statistics := some t.statistics }
  | .days => { c with days := some t.days }
  | .workflows => { c with workflows := some t.workflows }
  | .executions => { c with executions := some t.executions }
  | .apps => { c with apps := some t.apps }

/-- Makes a table unless it is there. -/
def make (c : Catalog) (table : Table) : Catalog :=
  if c.has table then c else c.withRows .empty table

/-- Drops a table if it is there. -/
def remove (c : Catalog) : Table → Catalog
  | .orgs => { c with orgs := none }
  | .members => { c with members := none }
  | .statistics => { c with statistics := none }
  | .days => { c with days := none }
  | .workflows => { c with workflows := none }
  | .executions => { c with executions := none }
  | .apps => { c with apps := none }

/-- Makes all tables. -/
def makeAll (c : Catalog) : Catalog := Table.all.foldl make c

/-- Drops all tables, those first to which none of the others refers. -/
def removeAll (c : Catalog) : Catalog := Table.all.reverse.foldl remove c

/-- Adds a row to its table, if that is there and takes the row. -/
def add (c : Catalog) (row : NewRow) : Except RowFault Catalog :=
  if c.has row.table then (c.rows.add row).map fun t => c.withRows t row.table
  else .error (.table .unreachable)

end Catalog

/-- A change of the catalog. -/
inductive CatalogChange where
  | makeAll
  | removeAll
  | add (row : NewRow)

namespace Catalog

/-- The catalog after a change. A row that is not taken changes nothing. -/
def change (c : Catalog) : CatalogChange → Catalog
  | .makeAll => c.makeAll
  | .removeAll => c.removeAll
  | .add row =>
    match c.add row with
    | .ok c' => c'
    | .error _ => c

/-- The catalog after changes in turn. -/
def run (c : Catalog) (changes : List CatalogChange) : Catalog := changes.foldl change c

/-- The catalog of tables that are all there. -/
def full (t : Tables) : Catalog :=
  ⟨some t.orgs, some t.members, some t.statistics, some t.days, some t.workflows,
    some t.executions, some t.apps⟩

/-- The catalog without tables. -/
def bare : Catalog := ⟨none, none, none, none, none, none, none⟩

/-- The catalog of tables that are all there, or all missing. -/
def ofTables : Option Tables → Catalog
  | some t => full t
  | none => bare

end Catalog

end Runboard
