import Mathlib.Data.List.Nodup
import Runboard.Proofs.ServiceSteps

/-!
# `Runboard.Proofs.TableKeys`: what stands once in the tables

The tables refuse a row that repeats an identifier, a user of an organization, the counters of an
organization, or a day of an organization, where identifiers are compared as they are stored. So in all
tables that a service ever has, each of these stands once: it holds of empty tables, adding a row keeps
it, and no other move of a database adds rows.

## Contents

* `Tables.Keyed`: what stands once;
* `Tables.Keyed.nodup_daysOf`: the days of an organization;
* `Tables.keyed_empty`, `Tables.Keyed.add`: empty tables and tables with a row added;
* `Database.Keyed`, `Database.Keyed.move`, `Service.keyed_run`: services and their runs.
-/

namespace Runboard

/-! ## Tables -/

/-- Tables in which nothing is repeated that must be unique, identifiers being compared as they are
stored. -/
structure Tables.Keyed (t : Tables) : Prop where
  orgs : ((t.orgs.filter (·.id.isSome)).map fun r => r.id.map Uuid.stored).Nodup
  members : (t.members.map fun r => (r.orgId.stored, r.userId)).Nodup
  statistics : (t.statistics.map (·.orgId.stored)).Nodup
  days : (t.days.map fun r => (r.orgId.stored, r.day)).Nodup

theorem Tables.keyed_empty : Tables.empty.Keyed where
  orgs := List.nodup_nil
  members := List.nodup_nil
  statistics := List.nodup_nil
  days := List.nodup_nil

/-- An organization has each day once. -/
theorem Tables.Keyed.nodup_daysOf {t : Tables} (h : t.Keyed) (org : Uuid) :
    ((t.daysOf org).map (·.day)).Nodup := by
  have keys : ((t.daysOf org).map fun r => (r.orgId.stored, r.day)).Nodup :=
    h.days.sublist (List.filter_sublist.map _)
  -- The pairs of one organization differ in their days only.
  have pairs : (t.daysOf org).map (fun r => (r.orgId.stored, r.day)) =
      ((t.daysOf org).map (·.day)).map fun d => (org.stored, d) := by
    rw [List.map_map]
    refine List.map_congr_left fun r hr => ?_
    have owner := (List.mem_filter.1 hr).2
    rw [Uuid.sameKey_iff.1 owner]
    rfl
  rw [pairs] at keys
  exact keys.of_map

section Unique
variable {α β γ : Type} {rows : List α} {row : α} {taken : Bool}

/-- A row that is added stands at the end of its table, and nothing was taken. -/
theorem map_addUnique_eq_ok {f : List α → γ} {c : γ}
    (h : (addUnique rows row taken).map f = .ok c) : taken = false ∧ f (rows ++ [row]) = c := by
  unfold addUnique at h
  cases taken with
  | true => cases h
  | false => exact ⟨rfl, Except.ok.inj h⟩

/-- Keys that stand once still do after a row with a key of its own is added. -/
theorem nodup_map_append {key : α → β} (once : (rows.map key).Nodup)
    (fresh : ∀ r ∈ rows, key r ≠ key row) : ((rows ++ [row]).map key).Nodup := by
  rw [List.map_append, List.map_singleton]
  refine List.Nodup.append once (List.nodup_singleton _) ?_
  intro k hk hk'
  obtain ⟨r, hr, rfl⟩ := List.mem_map.1 hk
  exact fresh r hr (List.mem_singleton.1 hk')

/-- Identifiers that stand once still do after a row without one, or with one of its own. -/
theorem nodup_ids_append {id : α → Option Uuid}
    (once : ((rows.filter fun r => (id r).isSome).map fun r => (id r).map Uuid.stored).Nodup)
    (fresh : takenId (id row) (rows.map id) = false) :
    (((rows ++ [row]).filter fun r => (id r).isSome).map fun r => (id r).map Uuid.stored).Nodup := by
  rw [List.filter_append]
  cases h : id row with
  | none =>
    rw [List.filter_cons_of_neg (by simp [h]), List.filter_nil, List.append_nil]
    exact once
  | some u =>
    rw [List.filter_cons_of_pos (by simp [h]), List.filter_nil]
    refine nodup_map_append once fun r hr same => ?_
    obtain ⟨listed, given⟩ := List.mem_filter.1 hr
    obtain ⟨w, hw⟩ := Option.isSome_iff_exists.1 given
    rw [hw, h, Option.map_some, Option.map_some] at same
    -- A row under the same stored identifier would have been refused.
    have taken : takenId (id row) (rows.map id) = true := by
      rw [takenId, h, Option.any_some, List.any_map, List.any_eq_true]
      refine ⟨r, listed, ?_⟩
      rw [Function.comp_apply, hw]
      exact Uuid.sameKey_iff.2 (Option.some.inj same)
    rw [fresh] at taken
    cases taken

end Unique

/-- A row that is added repeats nothing. -/
theorem Tables.Keyed.add {t t' : Tables} (h : t.Keyed) {row : NewRow} (added : t.add row = .ok t') :
    t'.Keyed := by
  -- What the table refuses to add is what its key must not repeat.
  unfold Tables.add at added
  split at added
  case h_1 id name =>
    obtain ⟨free, rfl⟩ := map_addUnique_eq_ok added
    exact { h with orgs := nodup_ids_append h.orgs free }
  case h_2 id orgId userId =>
    obtain ⟨free, rfl⟩ := map_addUnique_eq_ok added
    refine { h with members := nodup_map_append h.members fun r hr same => ?_ }
    simp only [Bool.or_eq_false_iff, List.any_eq_false, Bool.and_eq_true, beq_iff_eq,
      Uuid.sameKey_iff] at free
    exact free.2 r hr (Prod.mk.inj same)
  case h_3 id orgId today month total daily =>
    obtain ⟨free, rfl⟩ := map_addUnique_eq_ok added
    refine { h with statistics := nodup_map_append h.statistics fun r hr same => ?_ }
    simp only [Bool.or_eq_false_iff, List.any_eq_false, Uuid.sameKey_iff] at free
    exact free.2 r hr same
  case h_4 id orgId day counters =>
    obtain ⟨free, rfl⟩ := map_addUnique_eq_ok added
    refine { h with days := nodup_map_append h.days fun r hr same => ?_ }
    simp only [Bool.or_eq_false_iff, List.any_eq_false, Bool.and_eq_true, beq_iff_eq,
      Uuid.sameKey_iff] at free
    exact free.2 r hr (Prod.mk.inj same)
  case h_5 =>
    obtain ⟨-, rfl⟩ := map_addUnique_eq_ok added
    exact { h with }
  case h_6 =>
    obtain ⟨-, rfl⟩ := map_addUnique_eq_ok added
    exact { h with }
  case h_7 =>
    obtain ⟨-, rfl⟩ := map_addUnique_eq_ok added
    exact { h with }
  case h_8 => cases added

/-! ## Services -/

/-- A database in whose tables, if it has any, nothing is repeated. -/
def Database.Keyed (d : Database) : Prop := ∀ t, d.tables = some t → t.Keyed

namespace Database

theorem keyed_of_tables_eq_none {d : Database} (h : d.tables = none) : d.Keyed :=
  fun _ ht => absurd (h.symm.trans ht) (by simp)

theorem keyed_withTables {d : Database} {t : Tables} (h : t.Keyed) :
    (d.withTables (some t)).Keyed :=
  fun _ ht => Option.some.inj ht ▸ h

/-- The tables that are seen are those of the database. -/
theorem tables_of_view {d : Database} {t : Tables} (h : d.view.tables = .ok t) :
    d.tables = some t := by
  obtain ⟨connection, -, seen⟩ := bind_eq_ok.1 h
  cases tables : d.tables with
  | none =>
    rw [tables] at seen
    cases seen
  | some t' =>
    rw [tables] at seen
    exact congrArg some (Except.ok.inj seen)

/-- What is added to the tables of a database repeats nothing. -/
theorem Keyed.addedTo {d : Database} (h : d.Keyed) {table : Table} {columns : Columns} {t : Tables}
    (added : Service.addedTo d table columns = .ok t) : t.Keyed := by
  obtain ⟨before, row, seen, added⟩ := tables_of_addedTo added
  exact (h before (tables_of_view seen)).add added

/-- Every move of a database keeps what stands once. -/
theorem Keyed.move {k : MoveKind} {d d' : Database} (h : d.Keyed) (move : d.Move k d') :
    d'.Keyed := by
  cases move with
  | opened gone => exact keyed_of_tables_eq_none rfl
  | added added => exact keyed_withTables (h.addedTo added)
  | created made =>
    obtain ⟨connection, -, -, rfl⟩ := created_eq_ok.1 made
    refine keyed_withTables ?_
    cases tables : d.tables with
    | none => exact Tables.keyed_empty
    | some t => exact h t tables
  | dropped gone =>
    obtain ⟨connection, -, rfl⟩ := dropped_eq_ok.1 gone
    exact keyed_of_tables_eq_none rfl

end Database

namespace Service

theorem keyed_launch {environment : Environment} {secrets : Nat → String} {room : StackRoom}
    {setup : LogSetup} {now : Instant} {withDatabase : Bool} {s : Service}
    (launched : Service.launch environment secrets room setup now withDatabase = .ok s) :
    s.database.Keyed := by
  rcases database_launch launched with closed | memory
  · rw [closed]
    exact Database.keyed_of_tables_eq_none rfl
  · have tables : Database.inMemory.tables = some .empty := by decide
    rw [memory]
    intro t ht
    obtain rfl := Option.some.inj (tables.symm.trans ht)
    exact Tables.keyed_empty

/-- In all that a service goes through, its rows repeat nothing that must be unique. -/
theorem keyed_run {s : Service} (h : s.database.Keyed) (steps : List ServiceStep) :
    (s.run steps).2.database.Keyed :=
  database_run (Database.keyed_of_tables_eq_none rfl) Database.Keyed.move h steps

end Service

end Runboard
