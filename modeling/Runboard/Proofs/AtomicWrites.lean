import Mathlib.Data.List.Induction
import Runboard.Proofs.AccessControl
import Runboard.Proofs.TableKeys
import Runboard.Service.Transaction

/-!
# `Runboard.Proofs.AtomicWrites`: what sessions leave in the tables

A session keeps all that it added when it says so, and nothing in between. So a session that fails,
at whatever row, leaves the tables as it kept them last: as they were before it, unless it kept
something on the way. And since a row that would repeat a key is refused by what the session sees, with
the rows in it that are not kept yet, what is kept has each key once.

## Contents

* `Service.insertWithin_eq_session`, `Service.insert_eq_session`: steps that add a row are sessions;
* `Draft.act_eq_ok`, `Draft.run_eq_error`, `Draft.kept_of_failed`: where a session fails, and what it
  kept by then;
* `Database.Sound`, `Draft.Sound.act`, `Draft.Sound.run`: what sessions preserve;
* `Tables.Single`, `Tables.Keyed.single`: rows that are looked up are found once;
* `Service.sound_sessions`, `Service.sound_run`: sessions and steps that add rows;
* `Service.sessions_atomic`: all sessions on tables that were just made.
-/

namespace Runboard

/-! ## Steps that add a row -/

namespace Service

/-- The acts of a step that adds a row, and keeps it or not, and fails on purpose or not. -/
def actsWithin (table : Table) (row : Columns) (keep : Bool) (failing : String) :
    List SessionAct :=
  .add table row :: ((if keep then [.keep] else []) ++ if failing = "" then [] else [.fail failing])

/-- A step that adds a row and may fail afterwards is a session. -/
theorem insertWithin_eq_session (s : Service) (table : Table) (row : Columns) (keep : Bool)
    (failing : String) :
    (s.insertWithin table row keep failing).1.result =
        (s.session (actsWithin table row keep failing)).1.result.map (fun _ => .added) ∧
      (s.insertWithin table row keep failing).2 =
        (s.session (actsWithin table row keep failing)).2 := by
  unfold insertWithin withSession session
  rcases s.database.ready s.cache with ⟨fault | events, d, cache⟩
  · exact ⟨rfl, rfl⟩
  · unfold actsWithin
    dsimp only [Draft.run, Draft.act, Draft.start]
    cases added : addedTo d table row with
    | error fault => exact ⟨rfl, rfl⟩
    | ok t =>
      by_cases silent : failing = ""
      · cases keep <;> simp only [if_pos silent] <;> exact ⟨rfl, rfl⟩
      · cases keep <;> simp only [if_neg silent] <;> exact ⟨rfl, rfl⟩

/-- A row that is added by itself is kept at once: where there are sessions, adding it is a
session. -/
theorem insert_eq_session {s : Service} (there : s.database.sessions.isSome = true) (table : Table)
    (row : Columns) :
    (s.insert table row).1 = (s.session [.add table row, .keep]).1.result ∧
      (s.insert table row).2 = (s.session [.add table row, .keep]).2 := by
  have ready : s.database.ready s.cache = (.ok [], s.database, s.cache) := if_pos there
  have sessions : s.database.sessions.isNone = false := by
    rw [← Option.not_isSome, there]
    rfl
  unfold insert session
  rw [ready, sessions, if_neg Bool.false_ne_true]
  dsimp only [Draft.run, Draft.act, Draft.start]
  cases added : addedTo s.database table row with
  | error fault => exact ⟨rfl, rfl⟩
  | ok t => exact ⟨rfl, rfl⟩

end Service

/-! ## Sessions that fail -/

namespace Draft

/-- An act that passes adds a row to what the session sees, or keeps what it sees. -/
theorem act_eq_ok {d d' : Draft} {x : SessionAct} (made : d.act x = .ok d') :
    (∃ table row t, x = .add table row ∧ Service.addedTo d.seen table row = .ok t ∧
      d' = ⟨d.kept, d.seen.withTables (some t)⟩) ∨ x = .keep ∧ d' = ⟨d.seen, d.seen⟩ := by
  cases x with
  | add table row =>
    unfold act at made
    dsimp only at made
    split at made
    · cases made
    · next t added => exact .inl ⟨table, row, t, rfl, added, (Except.ok.inj made).symm⟩
  | keep => exact .inr ⟨rfl, (Except.ok.inj made).symm⟩
  | fail text => cases made

/-- Acts after others are made on what those leave, if they all pass. -/
theorem run_append (d : Draft) (xs ys : List SessionAct) :
    d.run (xs ++ ys) = match d.run xs with
      | (.error fault, d) => (.error fault, d)
      | (.ok (), d) => d.run ys := by
  induction xs generalizing d with
  | nil => rfl
  | cons x rest ih =>
    rw [List.cons_append, run, run]
    cases d.act x with
    | error fault => rfl
    | ok d' => exact ih d'

/-- A run that fails has passed some acts, and fails at the next. -/
theorem run_eq_error {d d' : Draft} {acts : List SessionAct} {fault : StepFault}
    (failed : d.run acts = (.error fault, d')) :
    ∃ passed x unreached, acts = passed ++ x :: unreached ∧ d.run passed = (.ok (), d') ∧
      d'.act x = .error fault := by
  induction acts generalizing d with
  | nil => cases failed
  | cons x rest ih =>
    rw [run] at failed
    cases made : d.act x with
    | error f =>
      rw [made] at failed
      obtain ⟨same, rfl⟩ := Prod.mk.inj failed
      obtain rfl := Except.error.inj same
      exact ⟨[], x, rest, rfl, rfl, made⟩
    | ok next =>
      rw [made] at failed
      obtain ⟨passed, y, unreached, rfl, run, stopped⟩ := ih failed
      refine ⟨x :: passed, y, unreached, rfl, ?_, stopped⟩
      rw [Draft.run, made]
      exact run

/-- What is not kept on purpose is not kept. -/
theorem kept_run_of_not_keeps (d : Draft) {acts : List SessionAct} (loose : .keep ∉ acts) :
    (d.run acts).2.kept = d.kept := by
  induction acts generalizing d with
  | nil => rfl
  | cons x rest ih =>
    simp only [List.mem_cons, not_or] at loose
    rw [run]
    cases made : d.act x with
    | error fault => rfl
    | ok next =>
      rcases act_eq_ok made with ⟨table, row, t, -, -, rfl⟩ | ⟨rfl, -⟩
      · exact ih _ loose.2
      · exact absurd rfl loose.1

end Draft

/-- Acts are those up to the last that keeps something, if there is one, and those after it. -/
theorem exists_last_keep (acts : List SessionAct) :
    ∃ done tried, acts = done ++ tried ∧ (done = [] ∨ done.getLast? = some .keep) ∧
      SessionAct.keep ∉ tried := by
  -- The last act decides, or the last that keeps something is among the others.
  induction acts using List.reverseRecOn with
  | nil => exact ⟨[], [], rfl, .inl rfl, List.not_mem_nil⟩
  | append_singleton before x ih =>
    by_cases keeps : x = .keep
    · subst keeps
      exact ⟨before ++ [.keep], [], by simp, .inr (by simp), List.not_mem_nil⟩
    · obtain ⟨done, tried, rfl, last, loose⟩ := ih
      refine ⟨done, tried ++ [x], by simp, last, ?_⟩
      rw [List.mem_append, not_or, List.mem_singleton]
      exact ⟨loose, fun same => keeps same.symm⟩

namespace Draft

/-- A run that fails has kept what it had kept when it kept something last. -/
theorem kept_of_failed {d : Draft} {acts : List SessionAct} {fault : StepFault}
    (failed : (d.run acts).1 = .error fault) :
    ∃ done tried x unreached, acts = done ++ tried ++ x :: unreached ∧
      (done = [] ∨ done.getLast? = some .keep) ∧ SessionAct.keep ∉ tried ∧ x ≠ .keep ∧
      (d.run done).1 = .ok () ∧ (d.run acts).2.kept = (d.run done).2.kept := by
  cases run : d.run acts with
  | mk result d' =>
    rw [run] at failed
    obtain rfl : result = .error fault := failed
    obtain ⟨passed, x, unreached, rfl, passes, stopped⟩ := run_eq_error run
    obtain ⟨done, tried, rfl, last, loose⟩ := exists_last_keep passed
    have other : x ≠ .keep := by
      rintro rfl
      cases stopped
    rw [run_append] at passes
    -- What passed up to the last keeping passed by itself, and the rest kept nothing.
    cases first : d.run done with
    | mk result middle =>
      cases result with
      | error fault =>
        rw [first] at passes
        cases passes
      | ok _ =>
        have kept := middle.kept_run_of_not_keeps loose
        rw [first] at passes
        replace passes : middle.run tried = (.ok (), d') := passes
        rw [passes] at kept
        exact ⟨done, tried, x, unreached, rfl, last, loose, other, by rw [first], by rw [first, kept]⟩

end Draft

/-! ## What sessions preserve -/

/-- A database with sessions, and with tables in which nothing is repeated that must be unique. -/
structure Database.Sound (d : Database) : Prop where
  sessions : d.sessions.isSome = true
  tables : d.tables.isSome = true
  keyed : d.Keyed

namespace Draft

/-- What a session has kept is sound, and so is what it sees. -/
structure Sound (d : Draft) : Prop where
  kept : d.kept.Sound
  seen : d.seen.Sound

/-- An act that passes leaves what is sound: a row that is added repeats nothing of what is seen. -/
theorem Sound.act {d d' : Draft} (h : d.Sound) {x : SessionAct} (made : d.act x = .ok d') :
    d'.Sound := by
  rcases act_eq_ok made with ⟨table, row, t, -, added, rfl⟩ | ⟨-, rfl⟩
  · exact
      { kept := h.kept
        seen :=
          { sessions := h.seen.sessions
            tables := rfl
            keyed := Database.keyed_withTables (h.seen.keyed.addedTo added) } }
  · exact ⟨h.seen, h.seen⟩

/-- What acts leave is sound, whether they all pass or one of them fails. -/
theorem Sound.run {d : Draft} (h : d.Sound) (acts : List SessionAct) : (d.run acts).2.Sound := by
  induction acts generalizing d with
  | nil => exact h
  | cons x rest ih =>
    rw [Draft.run]
    cases made : d.act x with
    | error fault => exact h
    | ok next => exact ih (h.act made)

end Draft

/-! ## Rows that are looked up -/

/-- Where keys stand once, the rows of a key are the one that is found first. -/
theorem filter_eq_find? {α β : Type} {key : α → β} {p : α → Bool} {k : β} {rows : List α}
    (once : (rows.map key).Nodup) (named : ∀ r, p r = true ↔ key r = k) :
    rows.filter p = (rows.find? p).toList := by
  induction rows with
  | nil => rfl
  | cons r rest ih =>
    rw [List.map_cons, List.nodup_cons] at once
    by_cases hit : p r = true
    · -- No other row has the key of this one.
      have others : rest.filter p = [] := by
        refine List.filter_eq_nil_iff.2 fun r' member hit' => once.1 ?_
        exact List.mem_map.2 ⟨r', member, ((named r').1 hit').trans ((named r).1 hit).symm⟩
      rw [List.filter_cons_of_pos hit, others, List.find?_cons_of_pos hit]
      rfl
    · rw [List.filter_cons_of_neg hit, List.find?_cons_of_neg hit, ih once.2]

theorem length_toList_le {α : Type} (x : Option α) : x.toList.length ≤ 1 := by
  cases x <;> simp

/-- Tables with at most one row of counters for each organization, one row for each of its days, and
one membership for each user of it; a look for the counters of an organization finds all the rows
there are. Organizations whose identifiers are stored as one value count as one, so that none of them has
more. -/
structure Tables.Single (t : Tables) : Prop where
  statistics : ∀ org : Uuid, (t.statistics.filter fun r => org.sameKey r.orgId).length ≤ 1
  days : ∀ (org : Uuid) day, (t.days.filter fun r => org.sameKey r.orgId && r.day == day).length ≤ 1
  members : ∀ (org : Uuid) user,
    (t.members.filter fun r => org.sameKey r.orgId && r.userId == user).length ≤ 1
  found : ∀ org : Uuid, (t.statistics? org).toList = t.statistics.filter fun r => org.sameKey r.orgId

theorem Tables.Keyed.single {t : Tables} (h : t.Keyed) : t.Single := by
  have found : ∀ org : Uuid,
      (t.statistics? org).toList = t.statistics.filter fun r => org.sameKey r.orgId :=
    fun org => (filter_eq_find? h.statistics fun r => Uuid.sameKey_iff).symm
  refine ⟨fun org => ?statistics, fun org day => ?days, fun org user => ?members, found⟩
  case statistics =>
    rw [← found org]
    exact length_toList_le _
  case days =>
    rw [filter_eq_find? (k := (org.stored, day)) h.days fun r => by simp [Uuid.sameKey_iff]]
    exact length_toList_le _
  case members =>
    rw [filter_eq_find? (k := (org.stored, user)) h.members fun r => by simp [Uuid.sameKey_iff]]
    exact length_toList_le _

/-! ## Sessions -/

/-- A step that adds rows. -/
def ServiceStep.AddsRows : ServiceStep → Prop
  | .insert _ _ => True
  | .insertWithin _ _ _ _ => True
  | _ => False

namespace Service

variable {s : Service}

/-- Where there are sessions, a session is the run of its acts. -/
theorem session_eq (there : s.database.sessions.isSome = true) (acts : List SessionAct) :
    (s.session acts).1.result = ((Draft.start s.database).run acts).1 ∧
      (s.session acts).2 = { s with database := ((Draft.start s.database).run acts).2.kept } := by
  have ready : s.database.ready s.cache = (.ok [], s.database, s.cache) := if_pos there
  unfold session
  rw [ready]
  exact ⟨rfl, rfl⟩

/-- A session leaves what is sound, whether it fails or not. -/
theorem sound_session (h : s.database.Sound) (acts : List SessionAct) :
    (s.session acts).2.database.Sound := by
  rw [(session_eq h.sessions acts).2]
  exact (Draft.Sound.run ⟨h, h⟩ acts).kept

theorem sound_sessions (h : s.database.Sound) (works : List (List SessionAct)) :
    (s.sessions works).2.database.Sound := by
  induction works generalizing s with
  | nil => exact h
  | cons acts rest ih => exact ih (sound_session h acts)

/-- A row that is added by a step is added by a session of its own. -/
theorem sound_insertAll (h : s.database.Sound) (table : Table) (rows : List Columns) :
    (s.insertAll table rows).2.database.Sound := by
  induction rows generalizing s with
  | nil => exact h
  | cons row rest ih =>
    refine ih (s := (s.insert table row).2) ?_
    rw [(insert_eq_session h.sessions table row).2]
    exact sound_session h _

theorem sound_step (h : s.database.Sound) {x : ServiceStep} (adds : x.AddsRows) :
    (s.step x).2.database.Sound := by
  cases x with
  | insert table rows => exact sound_insertAll h table rows
  | insertWithin table row keep failing =>
    show (s.insertWithin table row keep failing).2.database.Sound
    rw [(insertWithin_eq_session s table row keep failing).2]
    exact sound_session h _
  | _ => exact adds.elim

theorem sound_run (h : s.database.Sound) {steps : List ServiceStep}
    (adds : ∀ x ∈ steps, x.AddsRows) : (s.run steps).2.database.Sound :=
  run_invariant (p := (·.database.Sound)) (fun x hx _ sound => sound_step sound (adds x hx)) h

/-- Rows that are kept together are kept all or none. -/
theorem kept_of_rows {d : Draft} {rows : List (Table × Columns)} {fault : StepFault}
    (failed : (d.run (rows.map (fun r => .add r.1 r.2) ++ [.keep])).1 = .error fault) :
    (d.run (rows.map (fun r => .add r.1 r.2) ++ [.keep])).2.kept = d.kept := by
  have loose : SessionAct.keep ∉ rows.map fun r => .add r.1 r.2 := by
    rw [List.mem_map]
    rintro ⟨r, -, same⟩
    cases same
  have kept := d.kept_run_of_not_keeps loose
  rw [Draft.run_append] at failed ⊢
  -- Keeping does not fail, so that one of the rows was refused.
  cases added : d.run (rows.map fun r => .add r.1 r.2) with
  | mk result d' =>
    rw [added] at failed kept
    cases result with
    | error refused => exact kept
    | ok _ => cases failed

/-- Sessions of a service whose tables were just made, and steps that add rows. In every state that
they reach, whether they failed or not, each organization has at most one row of counters and one for
each day, and each user of it one membership, so that a look for its counters never finds two. From
there a session that fails leaves the database as its acts up to the last keeping would by themselves,
which is as it was where none of them had kept anything; and many rows that are kept together leave it
as it was if any of them is refused. -/
theorem sessions_atomic {s s' : Service} (there : s.database.sessions.isSome = true)
    (made : s.database.tables = some .empty) {works : List (List SessionAct)}
    {steps : List ServiceStep} (adds : ∀ x ∈ steps, x.AddsRows)
    (reached : ((s.sessions works).2.run steps).2 = s') :
    (∃ t, s'.database.tables = some t ∧ t.Single) ∧
      (∀ acts fault, (s'.session acts).1.result = .error fault →
        ∃ done tried x unreached, acts = done ++ tried ++ x :: unreached ∧
          (done = [] ∨ done.getLast? = some .keep) ∧ SessionAct.keep ∉ tried ∧ x ≠ .keep ∧
          (s'.session done).1.result = .ok () ∧
          (s'.session acts).2.database = (s'.session done).2.database ∧
          (done = [] → (s'.session acts).2.database = s'.database)) ∧
      ∀ (rows : List (Table × Columns)) (fault : StepFault),
        (s'.session (rows.map (fun r => .add r.1 r.2) ++ [.keep])).1.result = .error fault →
          (s'.session (rows.map (fun r => .add r.1 r.2) ++ [.keep])).2.database = s'.database := by
  have begins : s.database.Sound :=
    { sessions := there
      tables := by rw [made]; rfl
      keyed := fun t ht => Option.some.inj (made.symm.trans ht) ▸ Tables.keyed_empty }
  have sound : s'.database.Sound := reached ▸ sound_run (sound_sessions begins works) adds
  have runs := fun acts => session_eq sound.sessions acts
  refine ⟨?single, ?failing, ?rows⟩
  case single =>
    obtain ⟨t, tables⟩ := Option.isSome_iff_exists.1 sound.tables
    exact ⟨t, tables, (sound.keyed t tables).single⟩
  case failing =>
    intro acts fault failed
    rw [(runs acts).1] at failed
    obtain ⟨done, tried, x, unreached, split, last, loose, other, passed, kept⟩ :=
      Draft.kept_of_failed failed
    have left : (s'.session acts).2.database = (s'.session done).2.database := by
      rw [(runs acts).2, (runs done).2]
      exact kept
    refine ⟨done, tried, x, unreached, split, last, loose, other, ?_, left, ?_⟩
    · rw [(runs done).1]
      exact passed
    · rintro rfl
      rw [left, (runs []).2]
      rfl
  case rows =>
    intro rows fault failed
    rw [(runs _).1] at failed
    rw [(runs _).2]
    exact kept_of_rows failed

theorem exists_error_of_not_isOk {ε α : Type} {x : Except ε α} (failed : x.isOk = false) :
    ∃ e, x = .error e := by
  cases x with
  | error e => exact ⟨e, rfl⟩
  | ok a => cases failed

/-- An organization and its counters, as they are given. -/
def acmeOrg : Columns := [("id", .str acmeId), ("name", .str "Acme")]

def acmeCounters : Columns := [("org_id", .str acmeId)]

/-- Counters that are added twice in one session leave nothing, and a session that keeps them and then
fails leaves what it kept. -/
theorem sessions_atomic_acmeCounters :
    ∃ s', (((plainService .empty).sessions [[.add .orgs acmeOrg, .keep]]).2.run
        [.insertWithin .orgs acmeOrg false ""]).2 = s' ∧
      (∃ t, s'.database.tables = some t ∧ t.Single) ∧
      (∃ done, (s'.session done).1.result = .ok () ∧
        (s'.session [.add .statistics acmeCounters, .keep, .fail "late"]).2.database =
          (s'.session done).2.database) ∧
      (s'.session ([(.statistics, acmeCounters), (.statistics, acmeCounters)].map
        (fun r => .add r.1 r.2) ++ [.keep])).2.database = s'.database := by
  have adds : ∀ x ∈ [ServiceStep.insertWithin .orgs acmeOrg false ""], x.AddsRows := by
    intro x hx
    rw [List.mem_singleton.1 hx]
    trivial
  obtain ⟨s', reached⟩ : ∃ s', (((plainService .empty).sessions [[.add .orgs acmeOrg, .keep]]).2.run
      [.insertWithin .orgs acmeOrg false ""]).2 = s' := ⟨_, rfl⟩
  obtain ⟨single, failing, rows⟩ := sessions_atomic rfl rfl adds reached
  have late : (s'.session [.add .statistics acmeCounters, .keep, .fail "late"]).1.result.isOk =
      false := by
    rw [← reached]
    decide +kernel
  have twice : (s'.session ([(.statistics, acmeCounters), (.statistics, acmeCounters)].map
      (fun r => .add r.1 r.2) ++ [.keep])).1.result.isOk = false := by
    rw [← reached]
    decide +kernel
  obtain ⟨fault, late⟩ := exists_error_of_not_isOk late
  obtain ⟨refused, twice⟩ := exists_error_of_not_isOk twice
  obtain ⟨done, -, -, -, -, -, -, -, passed, left, -⟩ := failing _ fault late
  exact ⟨s', reached, single, ⟨done, passed, left⟩, rows _ refused twice⟩

/-- A step that keeps its row and then fails has the row in the tables, where there was none. -/
theorem not_undone_late :
    (plainService .empty).database.tables = some .empty ∧
      ((plainService .empty).step (.insertWithin .orgs acmeOrg true "late")).1.answer =
        .error (.intended "late") ∧
      ((plainService .empty).step (.insertWithin .orgs acmeOrg true "late")).2.database.tables ≠
        some .empty := by
  refine ⟨rfl, rfl, fun same => ?_⟩
  have kept : ∃ t, ((plainService .empty).step
      (.insertWithin .orgs acmeOrg true "late")).2.database.tables = some t ∧ t.orgs.length = 1 :=
    ⟨_, rfl, rfl⟩
  obtain ⟨t, tables, one⟩ := kept
  obtain rfl := Option.some.inj (same.symm.trans tables)
  cases one

end Service

end Runboard
