import Runboard.Proofs.TableKeys
import Runboard.Store.Catalog

/-!
# `Runboard.Proofs.TableCatalog`: all tables or none

A database has all its tables or none, as it is modelled. Why it may be modelled so is said here by the
catalog, where each table is made and dropped on its own: making goes over all seven tables and skips
those that are there, dropping goes over all seven the other way, and a row goes to a table that is there
and leaves the others. So a catalog with all tables or none becomes another such, and what can happen to
a database with an engine is what such changes do to the catalog of its tables.

## Contents

* `Catalog.IsWhole`, `isWhole_run`: all tables or none;
* `Catalog.rows_makeAll`, `makeAll_of_has`, `makeAll_makeAll`: making leaves the rows, and is done once;
* `Catalog.makeAll_ofTables`, `removeAll_ofTables`, `add_full`: tables that are all there or all missing;
* `Database.Move.change`, `Database.Reaches.changes`: moves of a database as changes of the catalog.
-/

namespace Runboard

/-! ## The tables one by one -/

namespace Catalog

variable {c c' : Catalog} {t t' : Tables} {table other : Table}

/-- Either every table is there, or none. -/
def IsWhole (c : Catalog) : Prop := (∀ table, c.has table = true) ∨ ∀ table, c.has table = false

theorem has_withRows (c : Catalog) (t : Tables) (table other : Table) :
    (c.withRows t table).has other = (table == other || c.has other) := by
  cases table <;> cases other <;> rfl

theorem has_make (c : Catalog) (table other : Table) :
    (c.make table).has other = (table == other || c.has other) := by
  unfold make
  split
  · next there =>
    by_cases same : table = other
    · rw [← same, there, Bool.or_true]
    · rw [beq_false_of_ne same, Bool.false_or]
  · exact has_withRows c .empty table other

theorem has_remove (c : Catalog) (table other : Table) :
    (c.remove table).has other = (table != other && c.has other) := by
  cases table <;> cases other <;> rfl

/-- A table is there after some were made if it is one of them, or was there before. -/
theorem has_foldl_make (made : List Table) (c : Catalog) (table : Table) :
    (made.foldl make c).has table = (made.contains table || c.has table) := by
  induction made generalizing c with
  | nil => rfl
  | cons first rest ih =>
    rw [List.foldl_cons, ih, has_make, List.contains_cons, Bool.beq_comm]
    cases rest.contains table <;> cases table == first <;> simp

/-- A table is there after some were dropped if it was there before, and is none of them. -/
theorem has_foldl_remove (gone : List Table) (c : Catalog) (table : Table) :
    (gone.foldl remove c).has table = (!gone.contains table && c.has table) := by
  induction gone generalizing c with
  | nil => rfl
  | cons first rest ih =>
    rw [List.foldl_cons, ih, has_remove, List.contains_cons, bne, Bool.beq_comm]
    cases rest.contains table <;> cases table == first <;> simp

theorem contains_all (table : Table) : Table.all.contains table = true := by
  cases table <;> decide

theorem has_makeAll (c : Catalog) (table : Table) : c.makeAll.has table = true := by
  rw [makeAll, has_foldl_make, contains_all, Bool.true_or]

theorem has_removeAll (c : Catalog) (table : Table) : c.removeAll.has table = false := by
  rw [removeAll, has_foldl_remove, List.contains_reverse, contains_all]
  rfl

/-- A row leaves the tables that are there, and only those. -/
theorem has_add {row : NewRow} (added : c.add row = .ok c') (table : Table) :
    c'.has table = c.has table := by
  unfold add at added
  split at added
  · next there =>
    cases taken : c.rows.add row with
    | error fault =>
      rw [taken] at added
      cases added
    | ok t =>
      rw [taken] at added
      obtain rfl := Except.ok.inj added
      rw [has_withRows]
      by_cases same : row.table = table
      · rw [← same, there, Bool.or_true]
      · rw [beq_false_of_ne same, Bool.false_or]
  · cases added

theorem change_add {row : NewRow} (added : c.add row = .ok c') : c.change (.add row) = c' := by
  unfold change
  dsimp only
  rw [added]

/-- Every change leaves all tables or none. -/
theorem isWhole_change (whole : c.IsWhole) (x : CatalogChange) : (c.change x).IsWhole := by
  cases x with
  | makeAll => exact .inl (has_makeAll c)
  | removeAll => exact .inr (has_removeAll c)
  | add row =>
    unfold change
    dsimp only
    cases added : c.add row with
    | error fault => exact whole
    | ok c' =>
      rcases whole with there | missing
      · exact .inl fun table => (has_add added table).trans (there table)
      · exact .inr fun table => (has_add added table).trans (missing table)

theorem run_append (c : Catalog) (changes changes' : List CatalogChange) :
    c.run (changes ++ changes') = (c.run changes).run changes' := List.foldl_append

theorem isWhole_run (whole : c.IsWhole) (changes : List CatalogChange) :
    (c.run changes).IsWhole := by
  induction changes generalizing c with
  | nil => exact whole
  | cons x rest ih => exact ih (isWhole_change whole x)

/-! ### Rows -/

/-- A table that is made has no rows, and leaves those of the others. -/
theorem rows_make (c : Catalog) (table : Table) : (c.make table).rows = c.rows := by
  unfold make
  split
  · rfl
  · next missing =>
    cases table <;>
      · simp only [has, Bool.not_eq_true, Option.isSome_eq_false_iff, Option.isNone_iff_eq_none]
          at missing
        simp only [withRows, rows, missing, Option.getD_some, Option.getD_none]
        rfl

theorem rows_makeAll (c : Catalog) : c.makeAll.rows = c.rows := by
  have fold : ∀ (made : List Table) (c : Catalog), (made.foldl make c).rows = c.rows := by
    intro made
    induction made with
    | nil => exact fun _ => rfl
    | cons first rest ih => exact fun c => (ih _).trans (rows_make c first)
  exact fold Table.all c

/-- Tables that are there are not made again. -/
theorem makeAll_of_has (there : ∀ table, c.has table = true) : c.makeAll = c := by
  have fold : ∀ made : List Table, made.foldl make c = c := by
    intro made
    induction made with
    | nil => rfl
    | cons first rest ih =>
      rw [List.foldl_cons, make, if_pos (there first)]
      exact ih
  exact fold Table.all

theorem makeAll_makeAll (c : Catalog) : c.makeAll.makeAll = c.makeAll :=
  makeAll_of_has (has_makeAll c)

/-! ### Tables that are all there, or all missing -/

theorem isWhole_ofTables (tables : Option Tables) : (ofTables tables).IsWhole := by
  cases tables with
  | none => exact .inr fun table => by cases table <;> rfl
  | some t => exact .inl fun table => by cases table <;> rfl

/-- A catalog in which every table is there is told by its rows. -/
theorem eq_full (there : ∀ table, c.has table = true) : c = full c.rows := by
  have given : ∀ {α : Type} {rows : Option (List α)}, rows.isSome = true →
      rows = some (rows.getD []) := by
    intro α rows given
    obtain ⟨rows, rfl⟩ := Option.isSome_iff_exists.1 given
    rfl
  obtain ⟨orgs, members, statistics, days, workflows, executions, apps⟩ := c
  rw [Catalog.full, Catalog.mk.injEq]
  exact ⟨given (there .orgs), given (there .members), given (there .statistics), given (there .days),
    given (there .workflows), given (there .executions), given (there .apps)⟩

theorem eq_bare (missing : ∀ table, c.has table = false) : c = bare := by
  have gone : ∀ {α : Type} {rows : Option (List α)}, rows.isSome = false → rows = none :=
    fun gone => Option.isSome_eq_false_iff.1 gone |> Option.isNone_iff_eq_none.1
  obtain ⟨orgs, members, statistics, days, workflows, executions, apps⟩ := c
  rw [bare, Catalog.mk.injEq]
  exact ⟨gone (missing .orgs), gone (missing .members), gone (missing .statistics),
    gone (missing .days), gone (missing .workflows), gone (missing .executions),
    gone (missing .apps)⟩

theorem rows_ofTables (tables : Option Tables) : (ofTables tables).rows = tables.getD .empty := by
  cases tables <;> rfl

/-- Making all tables makes them empty where they were missing. -/
theorem makeAll_ofTables (tables : Option Tables) :
    (ofTables tables).makeAll = ofTables (some (tables.getD .empty)) := by
  rw [eq_full (has_makeAll _), rows_makeAll, rows_ofTables]
  rfl

theorem removeAll_ofTables (tables : Option Tables) : (ofTables tables).removeAll = ofTables none :=
  eq_bare (has_removeAll _)

/-- A row that tables take is taken by its own table, and the others are left. -/
theorem add_full {row : NewRow} (added : t.add row = .ok t') : (full t).add row = .ok (full t') := by
  have there : (full t).has row.table = true := by cases row <;> rfl
  have rows : (full t).rows = t := rfl
  -- Of the tables only that of the row is another one after it.
  have kept : (full t).withRows t' row.table = full t' := by
    unfold Tables.add at added
    split at added
    case h_8 => cases added
    all_goals
      obtain ⟨-, rfl⟩ := map_addUnique_eq_ok added
      rfl
  rw [add, if_pos there, rows, added]
  exact congrArg Except.ok kept

end Catalog

/-! ## Databases -/

/-- The kind of move that changes the tables as a change of the catalog does. -/
def CatalogChange.kind : CatalogChange → MoveKind
  | .makeAll => .creating
  | .removeAll => .dropping
  | .add _ => .adding

namespace Database

variable {kinds : MoveKind → Prop} {k : MoveKind} {d d' : Database} {e : Engine}

/-- A database with an engine keeps it in every move, and its tables are changed as a catalog is. -/
theorem Move.change (move : d.Move k d') (engine : d.engine = some e) : d'.engine = some e ∧
    ∃ x : CatalogChange, x.kind = k ∧
      (Catalog.ofTables d.tables).change x = Catalog.ofTables d'.tables := by
  cases move with
  | opened gone =>
    rw [engine] at gone
    cases gone
  | added added =>
    obtain ⟨before, row, seen, taken⟩ := tables_of_addedTo added
    refine ⟨engine, .add row, rfl, ?_⟩
    rw [tables_of_view seen]
    exact Catalog.change_add (Catalog.add_full taken)
  | created made =>
    obtain ⟨connection, -, -, rfl⟩ := created_eq_ok.1 made
    exact ⟨engine, .makeAll, rfl, Catalog.makeAll_ofTables _⟩
  | dropped gone =>
    obtain ⟨connection, -, rfl⟩ := dropped_eq_ok.1 gone
    exact ⟨engine, .removeAll, rfl, Catalog.removeAll_ofTables _⟩

theorem Reaches.changes (reaches : d.Reaches kinds d') (engine : d.engine = some e) :
    d'.engine = some e ∧ ∃ changes : List CatalogChange, (∀ x ∈ changes, kinds x.kind) ∧
      (Catalog.ofTables d.tables).run changes = Catalog.ofTables d'.tables := by
  induction reaches with
  | refl => exact ⟨engine, [], List.forall_mem_nil _, rfl⟩
  | tail _ move ih =>
    obtain ⟨k, kind, move⟩ := move
    obtain ⟨stands, changes, allowed, run⟩ := ih
    obtain ⟨stands, x, rfl, changed⟩ := move.change stands
    refine ⟨stands, changes ++ [x], ?_, ?_⟩
    · intro y hy
      rcases List.mem_append.1 hy with hy | hy
      · exact allowed y hy
      · rw [List.mem_singleton.1 hy]
        exact kind
    · rw [Catalog.run_append, run]
      exact changed

end Database

end Runboard
