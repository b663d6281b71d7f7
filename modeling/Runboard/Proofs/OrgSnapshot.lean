import Runboard.Proofs.AtomicWrites
import Runboard.Proofs.DayOrder
import Runboard.Proofs.TenantIsolation

/-!
# `Runboard.Proofs.OrgSnapshot`: the snapshot of an organization

An organization that has a row of counters has a snapshot: the values of that row, the canonical
text of the identifier, and the completed days of the organization. Each of its days is there once,
none of another organization is, and they ascend. Without a row of counters there is none, even if
there are days; the failure then tells the organization as it was named.

The rows of the days come from the database in the order in which they were added. Since the tables
have each day of an organization once, the days have one strictly ascending order, so that the
snapshot does not show in which order that was.

The counters and the days are loaded with their identifiers. If one of these is stored as a number, as is
the case for every row of an organization whose own identifier is, the result processor raises and there
is no snapshot.

## Contents

* `Tables.statistics?_eq_none_iff`, `Tables.Keyed.statistics?_eq_some_iff`: looking for counters;
* `Snapshot.Matches`, `Tables.Keyed.matches_snapshotOf`: what a snapshot has of the tables;
* `Store.statistics_of_found`, `Store.statistics_of_number`: an organization with counters;
* `Store.statistics_exact`: the snapshot of any organization.
-/

namespace Runboard

/-! ## Looking for counters -/

namespace Tables
variable {t : Tables} {u : Uuid} {row : StatisticsRow}

theorem statistics?_eq_none_iff :
    t.statistics? u = none ↔ ∀ row ∈ t.statistics, u.sameKey row.orgId = false := by
  rw [statistics?, List.find?_eq_none]
  simp only [Bool.not_eq_true]

/-- The counters that are found are those under the key of the organization, which has no others. -/
theorem Keyed.statistics?_eq_some_iff (h : t.Keyed) :
    t.statistics? u = some row ↔ row ∈ t.statistics ∧ u.sameKey row.orgId = true := by
  rw [← Option.mem_toList, h.single.found u, List.mem_filter]

/-- The identifiers of the rows of an organization with counters. -/
theorem snapshotIds_of_found {id : Json} (parsed : Uuid.ofJson? id = some u)
    (found : t.statistics? u = some row) :
    t.snapshotIds id = row.ids ++ (t.daysOf u).flatMap DayRow.ids := by
  simp only [snapshotIds, parsed, found]

/-- An organization whose counters are loaded is stored as a text. -/
theorem keptAsText_of_found {id : Json} (parsed : Uuid.ofJson? id = some u)
    (found : t.statistics? u = some row) (texts : AreTexts (t.snapshotIds id)) :
    u.KeptAsText ∧ row.orgId = u := by
  rw [snapshotIds_of_found parsed found] at texts
  have kept : row.orgId.KeptAsText := (areTexts_append.1 texts).1 _ List.mem_cons_self
  have same := List.find?_some (p := fun r : StatisticsRow => u.sameKey r.orgId) found
  rw [Uuid.sameKey_comm, Uuid.sameKey_iff_of_keptAsText kept] at same
  exact ⟨same ▸ kept, same⟩

end Tables

/-! ## What a snapshot has of the tables -/

/-- A snapshot has what the tables have of an organization. -/
structure Snapshot.Matches (s : Snapshot Amount) (t : Tables) (u : Uuid) (row : StatisticsRow) :
    Prop where
  orgId : s.orgId = u.text
  /-- The row of counters is the only one of the organization. -/
  only : (t.statistics.filter fun r => r.orgId == u) = [row]
  today : s.today = row.today
  month : s.month = row.month
  totalApiUsage : s.totalApiUsage = row.totalApiUsage
  dailyApiUsage : s.dailyApiUsage = row.dailyApiUsage
  /-- The days are those of the organization, each once, in ascending order. -/
  history : ∃ days : List DayRow, s.history = days.map DayRow.entry ∧
    days.Perm (t.days.filter fun r => r.orgId == u) ∧ days.Pairwise fun a b => a.day < b.day

theorem Tables.Keyed.matches_snapshotOf {t : Tables} {u : Uuid} {row : StatisticsRow} (h : t.Keyed)
    (kept : u.KeptAsText) (found : t.statistics? u = some row) :
    (t.snapshotOf u row).1.Matches t u row := by
  rw [Tables.snapshotOf_eq]
  refine ⟨rfl, ?only, rfl, rfl, rfl, rfl, ?history⟩
  case only =>
    have single := h.single.found u
    simp only [Uuid.sameKey_eq_of_keptAsText kept] at single
    rw [← single, found]
    rfl
  case history =>
    refine ⟨inDayOrder (·.day) (t.daysOf u), byDay_history t u, ?_,
      inDayOrder_strict (h.nodup_daysOf u)⟩
    rw [← Tables.daysOf_eq kept]
    exact inDayOrder_perm _ _

/-! ## The snapshot of any organization -/

namespace Store

section Snapshot
variable {t t' : Tables} {v : TableView} {id : Json} {u : Uuid} {row : StatisticsRow}

/-- Nothing is told of what names no organization, whatever can be seen. -/
theorem statistics_of_nameless (v : TableView) (nameless : Uuid.ofJson? id = none) :
    Store.statistics v id = .error (.failure (.statisticsNotFound id)) := by
  rw [Store.statistics, nameless]

theorem statistics_of_absent (seen : v = ⟨.ok t, true⟩) (parsed : Uuid.ofJson? id = some u)
    (absent : t.statistics? u = none) :
    Store.statistics v id = .error (.failure (.statisticsNotFound id)) := by
  subst seen
  simp only [Store.statistics, parsed, Store.ask, absent]

/-- What is told of an organization with counters: they are loaded first, and the days after them. -/
theorem statistics_of_counters (seen : v = ⟨.ok t, true⟩) (parsed : Uuid.ofJson? id = some u)
    (found : t.statistics? u = some row) :
    Store.statistics v id = match loadFault? row.ids with
      | some fault => .error (.storedId fault)
      | none => (load ((t.daysOf u).flatMap DayRow.ids)).map fun _ => t.snapshotOf u row := by
  subst seen
  simp only [Store.statistics, parsed, Store.ask, found]
  cases loadFault? row.ids with
  | some fault => rfl
  | none => rfl

/-- An organization whose rows are loaded is told by its snapshot. -/
theorem statistics_of_found (seen : v = ⟨.ok t, true⟩) (parsed : Uuid.ofJson? id = some u)
    (found : t.statistics? u = some row) (texts : AreTexts (t.snapshotIds id)) :
    Store.statistics v id = .ok (t.snapshotOf u row) := by
  rw [Tables.snapshotIds_of_found parsed found] at texts
  obtain ⟨counters, days⟩ := areTexts_append.1 texts
  rw [statistics_of_counters seen parsed found, loadFault?_eq_none.2 counters, load_of_areTexts days]
  rfl

/-- An organization of which a row is not loaded is not told. -/
theorem statistics_of_number (seen : v = ⟨.ok t, true⟩) (parsed : Uuid.ofJson? id = some u)
    (found : t.statistics? u = some row) (number : ¬ AreTexts (t.snapshotIds id)) :
    ∃ fault, Store.statistics v id = .error (.storedId fault) := by
  rw [Tables.snapshotIds_of_found parsed found] at number
  rw [statistics_of_counters seen parsed found]
  by_cases counters : AreTexts row.ids
  · have days : ¬ AreTexts ((t.daysOf u).flatMap DayRow.ids) :=
      fun days => number (areTexts_append.2 ⟨counters, days⟩)
    obtain ⟨fault, -, stopped⟩ := load_of_not_areTexts days
    rw [loadFault?_eq_none.2 counters, stopped]
    exact ⟨fault, rfl⟩
  · obtain ⟨fault, first, -⟩ := load_of_not_areTexts counters
    rw [first]
    exact ⟨fault, rfl⟩

/-- Nothing is told of an organization exactly if it has no row of counters. -/
theorem statistics_eq_notFound_iff (seen : v = ⟨.ok t, true⟩) :
    Store.statistics v id = .error (.failure (.statisticsNotFound id)) ↔
      ∀ u, Uuid.ofJson? id = some u → ∀ row ∈ t.statistics, u.sameKey row.orgId = false := by
  constructor
  · intro refused u parsed
    rw [← Tables.statistics?_eq_none_iff]
    cases found : t.statistics? u with
    | none => rfl
    | some row =>
      by_cases texts : AreTexts (t.snapshotIds id)
      · rw [statistics_of_found seen parsed found texts] at refused
        cases refused
      · obtain ⟨fault, stopped⟩ := statistics_of_number seen parsed found texts
        rw [stopped] at refused
        cases refused
  · intro absent
    cases parsed : Uuid.ofJson? id with
    | none => exact statistics_of_nameless v parsed
    | some u =>
      exact statistics_of_absent seen parsed (Tables.statistics?_eq_none_iff.2 (absent u parsed))

/-- Tables with the same rows tell the same of an organization, apart from the events, if its rows are
loaded. -/
theorem map_statistics_congr (keyed : t.Keyed) (same : t.SameRows t')
    (texts : AreTexts (t.snapshotIds id)) :
    (Store.statistics ⟨.ok t', true⟩ id).map (·.1) =
      (Store.statistics ⟨.ok t, true⟩ id).map (·.1) := by
  have texts' := (keyed.areTexts_snapshotIds same id).1 texts
  cases parsed : Uuid.ofJson? id with
  | none => rw [statistics_of_nameless _ parsed, statistics_of_nameless _ parsed]
  | some u =>
    have counters := keyed.statistics?_congr same u
    cases found : t.statistics? u with
    | none =>
      rw [statistics_of_absent rfl parsed found,
        statistics_of_absent rfl parsed (counters.symm.trans found)]
    | some row =>
      have found' := counters.symm.trans found
      have days : (t.daysOf u).Perm (t'.daysOf u) := same.days.filter _
      rw [statistics_of_found rfl parsed found texts, statistics_of_found rfl parsed found' texts']
      simp only [Except.map, Tables.snapshotOf_eq, byDay_history,
        inDayOrder_congr days (keyed.nodup_daysOf u)]

end Snapshot

/-- What is told of an organization, in all states of the tables that repeat nothing that must be
unique; and no others are reached. What names no organization, or one without a row of counters under its
key, is not found, whether there are days or not, and the failure names it as it was given. Otherwise
there is a snapshot, of that row and of the days, if these rows are loaded; and if one of their
identifiers is stored as a number, the query raises. Tables with the same rows, whatever the order in
which they were added, have the same snapshots and lack the same. -/
theorem statistics_exact {t : Tables} (keyed : t.Keyed) (id : Json) :
    (Store.statistics ⟨.ok t, true⟩ id = .error (.failure (.statisticsNotFound id)) ↔
      ∀ u, Uuid.ofJson? id = some u → ∀ row ∈ t.statistics, u.sameKey row.orgId = false) ∧
    (Failure.statisticsNotFound id).status = 500 ∧
    (Failure.statisticsNotFound id).message =
      "No statistics found for organization " ++ id.display ∧
    (∀ u row, Uuid.ofJson? id = some u → row ∈ t.statistics → u.sameKey row.orgId = true →
      (AreTexts (t.snapshotIds id) →
        ∃ s events, Store.statistics ⟨.ok t, true⟩ id = .ok (s, events) ∧ s.Matches t u row) ∧
      (¬ AreTexts (t.snapshotIds id) →
        ∃ fault, Store.statistics ⟨.ok t, true⟩ id = .error (.storedId fault))) ∧
    ∀ t', t.SameRows t' →
      (AreTexts (t.snapshotIds id) ↔ AreTexts (t'.snapshotIds id)) ∧
      (AreTexts (t.snapshotIds id) → (Store.statistics ⟨.ok t', true⟩ id).map (·.1) =
        (Store.statistics ⟨.ok t, true⟩ id).map (·.1)) := by
  refine ⟨statistics_eq_notFound_iff rfl, rfl, rfl, ?loads, fun t' same =>
    ⟨keyed.areTexts_snapshotIds same id, map_statistics_congr keyed same⟩⟩
  intro u row parsed hrow owner
  have found := keyed.statistics?_eq_some_iff.2 ⟨hrow, owner⟩
  refine ⟨fun texts => ?_, statistics_of_number rfl parsed found⟩
  obtain ⟨kept, -⟩ := Tables.keptAsText_of_found parsed found texts
  exact ⟨_, _, statistics_of_found rfl parsed found texts, keyed.matches_snapshotOf kept found⟩

/-- The identifier of an organization with counters, and of one that has days only. -/
def counted : Uuid := ⟨0xa000000000000000000000001⟩

def uncounted : Uuid := ⟨0xb000000000000000000000001⟩

/-- The counters and the days of the one between the days of the other, the later day first. -/
def interleaved : Tables :=
  { Tables.empty with
    statistics :=
      [ ⟨none, counted, Counters.ofWhole ⟨10, 7, 4, 1⟩, Counters.ofWhole ⟨100, 70, 40, 10⟩,
        .whole 5, .whole 2⟩ ]
    days :=
      [ ⟨none, counted, ⟨19002⟩, Counters.ofWhole ⟨8, 8, 1, 1⟩⟩,
        ⟨none, uncounted, ⟨19001⟩, Counters.ofWhole ⟨90, 9, 9, 9⟩⟩,
        ⟨none, counted, ⟨19001⟩, Counters.ofWhole ⟨6, 1, 2, 0⟩⟩ ] }

theorem keepsTexts_interleaved : interleaved.KeepsTexts := by
  constructor <;> decide +kernel

/-- The organization with counters is told, by whatever spelling it is named and in whatever order
its days were added; the other is not found, though it has a day. -/
theorem statistics_exact_interleaved :
    (∃ s events, Store.statistics ⟨.ok interleaved, true⟩
        (.str "urn:uuid:0000000A-0000-0000-0000-000000000001") = .ok (s, events) ∧
      s.orgId = "0000000a-0000-0000-0000-000000000001" ∧ s.history.length = 2) ∧
    (Store.statistics ⟨.ok { interleaved with days := interleaved.days.reverse }, true⟩
        (.str "urn:uuid:0000000A-0000-0000-0000-000000000001")).map (·.1) =
      (Store.statistics ⟨.ok interleaved, true⟩
        (.str "urn:uuid:0000000A-0000-0000-0000-000000000001")).map (·.1) ∧
    Store.statistics ⟨.ok interleaved, true⟩ (.str "0000000b-0000-0000-0000-000000000001") =
      .error (.failure (.statisticsNotFound (.str "0000000b-0000-0000-0000-000000000001"))) := by
  have keyed : interleaved.Keyed := by constructor <;> decide +kernel
  obtain ⟨-, -, -, loads, sameRows⟩ :=
    statistics_exact keyed (.str "urn:uuid:0000000A-0000-0000-0000-000000000001")
  have missing := (statistics_exact keyed (.str "0000000b-0000-0000-0000-000000000001")).1
  have parsed : Uuid.ofJson? (.str "urn:uuid:0000000A-0000-0000-0000-000000000001") =
      some counted := by
    decide +kernel
  have texts := Page.areTexts_snapshotIds keepsTexts_interleaved
    (.str "urn:uuid:0000000A-0000-0000-0000-000000000001")
  obtain ⟨s, events, answer, same⟩ :=
    (loads counted _ parsed List.mem_cons_self (Uuid.sameKey_refl _)).1 texts
  refine ⟨⟨s, events, answer, ?_, ?_⟩, ?_, ?_⟩
  · rw [same.orgId]
    decide
  · obtain ⟨days, history, perm, -⟩ := same.history
    rw [history, List.length_map, perm.length_eq]
    decide
  · have reversed : interleaved.SameRows { interleaved with days := interleaved.days.reverse } :=
      ⟨.refl _, .refl _, .refl _, (List.reverse_perm _).symm, .refl _, .refl _, .refl _⟩
    exact (sameRows _ reversed).2 texts
  · refine missing.2 fun u parsed' row hrow => ?_
    have uncounted' : Uuid.ofJson? (.str "0000000b-0000-0000-0000-000000000001") =
        some uncounted := by
      decide
    obtain rfl := Option.some.inj (uncounted'.symm.trans parsed')
    exact (by decide +kernel :
      ∀ row ∈ interleaved.statistics, uncounted.sameKey row.orgId = false) row hrow

/-- Counters of an organization whose identifier is stored as a number. -/
def numbered : Tables :=
  { Tables.empty with
    statistics :=
      [ ⟨none, ⟨0x1e5⟩, Counters.ofWhole ⟨10, 7, 4, 1⟩, Counters.ofWhole ⟨100, 70, 40, 10⟩,
        .whole 5, .whole 2⟩ ] }

/-- Counters are found under that identifier, and under another that is the same number, but no snapshot
is made of them. -/
theorem not_statistics_exact_numbered :
    numbered.Keyed ∧ (∃ row ∈ numbered.statistics, row.orgId = ⟨0x1e5⟩) ∧
      Uuid.ofJson? (.str "00000000-0000-0000-0000-0000000001e5") = some ⟨0x1e5⟩ ∧
      Store.statistics ⟨.ok numbered, true⟩ (.str "00000000-0000-0000-0000-0000000001e5") =
        .error (.storedId (.noText "int")) ∧
      Uuid.ofJson? (.str "00000000-0000-0000-0000-0000000010e4") = some ⟨0x10e4⟩ ∧
      Store.statistics ⟨.ok numbered, true⟩ (.str "00000000-0000-0000-0000-0000000010e4") =
        .error (.storedId (.noText "int")) := by
  have keyed : numbered.Keyed := by constructor <;> decide
  have parsed : Uuid.ofJson? (.str "00000000-0000-0000-0000-0000000001e5") = some ⟨0x1e5⟩ := by
    decide
  have parsed' : Uuid.ofJson? (.str "00000000-0000-0000-0000-0000000010e4") = some ⟨0x10e4⟩ := by
    decide
  have first : loadFault? [some ⟨0x1e5⟩, none] = some (.noText "int") := by decide +kernel
  refine ⟨keyed, ⟨_, List.mem_singleton.2 rfl, rfl⟩, parsed, ?_, parsed', ?_⟩
  · have found := keyed.statistics?_eq_some_iff.2 ⟨List.mem_singleton.2 rfl, Uuid.sameKey_refl ⟨0x1e5⟩⟩
    rw [statistics_of_counters rfl parsed found, StatisticsRow.ids, first]
  · have found := keyed.statistics?_eq_some_iff.2
      ⟨List.mem_singleton.2 rfl, (by decide +kernel : Uuid.sameKey ⟨0x10e4⟩ ⟨0x1e5⟩ = true)⟩
    rw [statistics_of_counters rfl parsed' found, StatisticsRow.ids, first]

end Store

end Runboard
