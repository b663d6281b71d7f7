import Runboard.Proofs.AccessControl
import Runboard.Proofs.RecentDays
import Runboard.Proofs.TableKeys

/-!
# `Runboard.Proofs.TenantIsolation`: what an answer depends on

The answer to a caller depends on the rows of the caller's organization and on the public apps, and
on no other row. An answer that refuses access depends on the organization and the membership alone.
Where the request is not even from a known caller, it depends on no database, and leaves the
database as it is, opened or not.

All of this is so as long as the identifiers that are looked for and loaded are stored as texts. An
organization whose identifier is stored as a number shares its key with every other whose digits read as
that number, so that the rows of those others decide about its callers; but nothing of them is told.

Rows that come in another order are the same rows: days are put in order before they are read, and
of everything else only the number is told.

## Contents

* `Tables.AgreeOnAccess`, `Tables.AgreeFor`: tables that say the same about an organization and a user;
* `Tables.SameRows`, `Tables.Keyed.agreeFor`: tables with the same rows do;
* `byDay_history`: the history of the tables, in the order of its days;
* `checkAccess_congr`, `read_congr`, `pageResult_congr`: checks and pages over such tables;
* `Service.answer_of_numberedOrg`: callers of organizations that are stored as numbers;
* `Service.answer_isolated`: what an answer depends on.
-/

namespace Runboard

/-! ## Agreement -/

/-- Whether an execution is one of a workflow of an organization. -/
def Tables.runsFor (t : Tables) (org : Uuid) (e : ExecutionRow) : Bool :=
  t.workflows.any fun w => w.orgId == org && w.id == some e.workflowId

/-- Tables that say the same about the access of a user to an organization: they have the same
organization, and the same membership, which is a row that is loaded alike, or none. -/
structure Tables.AgreeOnAccess (org : Uuid) (user : String) (t t' : Tables) : Prop where
  row : (t.orgs.find? fun r => r.id == some org) = t'.orgs.find? fun r => r.id == some org
  member : ((t.members.find? fun r => r.orgId == org && r.userId == user).map
      fun r => loadFault? [r.id]) =
    (t'.members.find? fun r => r.orgId == org && r.userId == user).map fun r => loadFault? [r.id]

/-- Tables that say the same about an organization and a user: besides the access they have the same
counters, and, in whatever order, the same days, workflows, executions of these workflows, and apps that
are public or the organization's own. -/
structure Tables.AgreeFor (org : Uuid) (user : String) (t t' : Tables) : Prop
    extends Tables.AgreeOnAccess org user t t' where
  statistics : (t.statistics.find? fun r => r.orgId == org) =
    t'.statistics.find? fun r => r.orgId == org
  days : (t.days.filter fun r => r.orgId == org).Perm (t'.days.filter fun r => r.orgId == org)
  workflows : (t.workflows.filter fun w => w.orgId == org).Perm
    (t'.workflows.filter fun w => w.orgId == org)
  executions : (t.executions.filter (t.runsFor org)).Perm (t'.executions.filter (t'.runsFor org))
  apps : (t.apps.filter fun a => a.isPublic || a.orgId == some org).Perm
    (t'.apps.filter fun a => a.isPublic || a.orgId == some org)

/-- Tables with the same rows, each table in whatever order. -/
structure Tables.SameRows (t t' : Tables) : Prop where
  orgs : t.orgs.Perm t'.orgs
  members : t.members.Perm t'.members
  statistics : t.statistics.Perm t'.statistics
  days : t.days.Perm t'.days
  workflows : t.workflows.Perm t'.workflows
  executions : t.executions.Perm t'.executions
  apps : t.apps.Perm t'.apps

/-- What is searched for and stands once is found in every order. -/
theorem find?_perm {α : Type} {p : α → Bool} {rows rows' : List α} (same : rows.Perm rows')
    (once : ∀ a ∈ rows, ∀ b ∈ rows, p a = true → p b = true → a = b) :
    rows.find? p = rows'.find? p := by
  cases found : rows.find? p with
  | none =>
    have none := List.find?_eq_none.1 found
    exact (List.find?_eq_none.2 fun a ha => none a (same.mem_iff.2 ha)).symm
  | some a =>
    have ha := List.mem_of_find?_eq_some found
    have hp := List.find?_some found
    cases found' : rows'.find? p with
    | none => exact absurd hp (List.find?_eq_none.1 found' a (same.mem_iff.1 ha))
    | some b =>
      have hb := same.mem_iff.2 (List.mem_of_find?_eq_some found')
      exact congrArg some (once a ha b hb hp (List.find?_some found'))

namespace Tables
variable {t t' : Tables}

/-- Counters are found in every order of the rows. -/
theorem Keyed.statistics?_congr (h : t.Keyed) (same : t.SameRows t') (u : Uuid) :
    t.statistics? u = t'.statistics? u :=
  find?_perm same.statistics fun _ ha _ hb hau hbu =>
    List.inj_on_of_nodup_map h.statistics ha hb
      ((Uuid.sameKey_iff.1 hau).trans (Uuid.sameKey_iff.1 hbu).symm)

/-- A member is found in every order of the rows. -/
theorem Keyed.member?_congr (h : t.Keyed) (same : t.SameRows t') (u : Uuid) (user : String) :
    t.member? u user = t'.member? u user := by
  refine find?_perm same.members fun a ha b hb hau hbu => ?_
  obtain ⟨orga, usera⟩ := Bool.and_eq_true_iff.1 hau
  obtain ⟨orgb, userb⟩ := Bool.and_eq_true_iff.1 hbu
  refine List.inj_on_of_nodup_map h.members ha hb ?_
  rw [Uuid.sameKey_iff.1 orga, Uuid.sameKey_iff.1 orgb, eq_of_beq usera, eq_of_beq userb]

/-- The rows of a snapshot are loaded in every order, or in none. -/
theorem Keyed.areTexts_snapshotIds (h : t.Keyed) (same : t.SameRows t') (org : Json) :
    AreTexts (t.snapshotIds org) ↔ AreTexts (t'.snapshotIds org) := by
  unfold snapshotIds
  cases Uuid.ofJson? org with
  | none => exact Iff.rfl
  | some u =>
    dsimp only
    rw [h.statistics?_congr same]
    cases t'.statistics? u with
    | none => exact Iff.rfl
    | some row =>
      have days : (t.daysOf u).Perm (t'.daysOf u) := same.days.filter _
      simp only [areTexts_append, areTexts_flatMap, days.mem_iff]

/-- Tables with the same rows say the same about every organization that is stored as a text, and every
user. -/
theorem Keyed.agreeFor (h : t.Keyed) (same : t.SameRows t') {u : Uuid} (kept : u.KeptAsText)
    (user : String) : t.AgreeFor u user t' where
  row := by
    refine find?_perm same.orgs fun a ha b hb hau hbu => ?_
    -- Only organizations with an identifier must not repeat it, and the one sought has it.
    have id : ∀ r ∈ t.orgs, (r.id == some u) = true →
        r ∈ t.orgs.filter (·.id.isSome) := by
      intro r hr hid
      exact List.mem_filter.2 ⟨hr, by rw [eq_of_beq hid]; rfl⟩
    refine List.inj_on_of_nodup_map h.orgs (id a ha hau) (id b hb hbu) ?_
    rw [eq_of_beq hau, eq_of_beq hbu]
  member := by
    rw [← member?_eq kept, ← member?_eq kept, h.member?_congr same]
  statistics := by
    rw [← statistics?_eq kept, ← statistics?_eq kept, h.statistics?_congr same]
  days := same.days.filter _
  workflows := same.workflows.filter _
  executions := by
    have runs : t.runsFor u = t'.runsFor u := funext fun _ => same.workflows.any_eq
    rw [runs]
    exact same.executions.filter _
  apps := same.apps.filter _

/-- Whether an organization is found under a number does not depend on the order of the rows. -/
theorem hasNumberedOrg_congr (same : t.SameRows t') (org : Json) :
    t.HasNumberedOrg org ↔ t'.HasNumberedOrg org := by
  simp only [HasNumberedOrg, same.orgs.mem_iff]

end Tables

/-! ## Access -/

section Agree
variable {v v' : TableView} {t t' : Tables} {c : Caller} {u : Uuid} {user : String}

/-- Access depends on the organization and on the membership. -/
theorem checkAccess_congr (seen : v.tables = .ok t) (seen' : v'.tables = .ok t')
    (named : c.userId = .str user) (kept : ∀ u, Uuid.ofJson? c.orgId = some u → u.KeptAsText)
    (same : ∀ u, Uuid.ofJson? c.orgId = some u → t.AgreeOnAccess u user t') :
    checkAccess v c = checkAccess v' c := by
  have orgs : Store.org v c.orgId = Store.org v' c.orgId := by
    unfold Store.org
    cases parsed : Uuid.ofJson? c.orgId with
    | none => rfl
    | some u =>
      simp only [Page.ask_eq seen, Page.ask_eq seen', Tables.org?_eq (kept u parsed),
        (same u parsed).row]
  have members : Store.isMember v c.orgId c.userId = Store.isMember v' c.orgId c.userId := by
    rw [named]
    cases parsed : Uuid.ofJson? c.orgId with
    | none => simp only [Store.isMember, parsed]
    | some u =>
      have member := (same u parsed).member
      rw [← Tables.member?_eq (kept u parsed), ← Tables.member?_eq (kept u parsed)] at member
      cases whole : Text.holdsHalf user with
      | true =>
        obtain ⟨fault, unbound⟩ := unbound_of_half whole
        rw [isMember_of_unbound seen parsed unbound, isMember_of_unbound seen' parsed unbound]
      | false =>
        rw [isMember_eq seen parsed whole, isMember_eq seen' parsed whole]
        -- Two rows that are loaded alike give one answer.
        rcases found : t.member? u user with _ | r <;> rcases found' : t'.member? u user with _ | r'
        · rfl
        · rw [found, found'] at member
          cases member
        · rw [found, found'] at member
          cases member
        · rw [found, found', Option.map_some, Option.map_some] at member
          simp only [load, Option.some.inj member]
  rw [checkAccess, checkAccess, orgs, members]

/-! ## Pages -/

/-- A page of rows is as long as the number of rows says. -/
theorem length_pageOf_congr {α : Type} {rows rows' : List α} (h : rows.length = rows'.length)
    (limit : Option Int) (offset : Int) :
    (pageOf rows limit offset).length = (pageOf rows' limit offset).length := by
  unfold pageOf
  cases limit with
  | none => simp only [List.length_drop, h]
  | some n =>
    by_cases negative : n < 0
    · simp only [negative, ↓reduceIte, List.length_drop, h]
    · simp only [negative, ↓reduceIte, List.length_take, List.length_drop, h]

theorem workflowsOf_perm (t : Tables) (kept : u.KeptAsText) :
    (t.workflowsOf u).Perm (t.workflows.filter fun w => w.orgId == u) := by
  rw [Tables.workflowsOf_eq kept]
  exact sortByName_perm _ _

/-- A workflow of an organization was executed if one of the executions of its workflows is. -/
theorem isEmpty_executionsOf (kept : u.KeptAsText) {w : WorkflowRow} (h : w ∈ t.workflowsOf u)
    (texts : AreTexts [w.id]) :
    (t.executionsOf w.id).isEmpty =
      !(t.executions.filter (t.runsFor u)).any fun e => some e.workflowId == w.id := by
  obtain ⟨row, owner⟩ := List.mem_filter.1 ((workflowsOf_perm t kept).mem_iff.1 h)
  rw [Bool.eq_iff_iff, Tables.executionsOf_eq texts]
  simp only [List.isEmpty_iff, List.filter_eq_nil_iff, Bool.not_eq_true', List.any_eq_false,
    List.mem_filter]
  refine ⟨fun none e he => none e he.1, fun none e he ofWorkflow => ?_⟩
  -- An execution of the workflow is one of its organization, since the workflow is.
  have runs : t.runsFor u e = true :=
    List.any_eq_true.2 ⟨w, row, by rw [owner, ← eq_of_beq ofWorkflow]; simp⟩
  exact none e ⟨he, runs⟩ ofWorkflow

theorem workflowsNamed_eq {org : Json} (parsed : Uuid.ofJson? org = some u) :
    t.workflowsNamed org = t.workflowsOf u := by
  rw [Tables.workflowsNamed, parsed]

section Named
variable {org : Json} (parsed : Uuid.ofJson? org = some u) (kept : u.KeptAsText)
  (seen : v.tables = .ok t) (seen' : v'.tables = .ok t')
include parsed kept seen seen'

theorem readWorkflows_congr (same : t.AgreeFor u user t')
    (texts : AreTexts ((t.workflowsNamed org).flatMap WorkflowRow.ids))
    (texts' : AreTexts ((t'.workflowsNamed org).flatMap WorkflowRow.ids)) :
    Page.readWorkflows v org = Page.readWorkflows v' org := by
  have rows : (t.workflowsOf u).Perm (t'.workflowsOf u) :=
    (workflowsOf_perm t kept).trans (same.workflows.trans (workflowsOf_perm t' kept).symm)
  have counts : (t.workflowsOf u).countP (fun w => (t.executionsOf w.id).isEmpty) =
      (t'.workflowsOf u).countP fun w => (t'.executionsOf w.id).isEmpty := by
    rw [← rows.countP_eq]
    refine List.countP_congr fun w hw => ?_
    have ids : AreTexts [w.id] := by
      rw [workflowsNamed_eq parsed] at texts
      exact areTexts_of_mem (areTexts_flatMap.1 texts w hw) (List.mem_cons_of_mem _ List.mem_cons_self)
    rw [isEmpty_executionsOf kept hw ids, isEmpty_executionsOf kept (rows.mem_iff.1 hw) ids,
      same.executions.any_eq]
  rw [Page.readWorkflows_eq seen texts, Page.readWorkflows_eq seen' texts',
    workflowsNamed_eq parsed, workflowsNamed_eq parsed, rows.length_eq, counts]

theorem readApps_congr (same : t.AgreeFor u user t') {limit : Int}
    (texts : AreTexts
      ((pageOf (t.visibleApps (Uuid.ofJson? org)) (some limit) 0).flatMap AppRow.ids))
    (texts' : AreTexts
      ((pageOf (t'.visibleApps (Uuid.ofJson? org)) (some limit) 0).flatMap AppRow.ids)) :
    Page.readApps v org limit = Page.readApps v' org limit := by
  -- The apps come in the order of their names, but only their number is told.
  have lengths : (t.visibleApps (some u)).length = (t'.visibleApps (some u)).length := by
    rw [Tables.visibleApps, Tables.visibleApps, sortByName, sortByName, List.length_mergeSort,
      List.length_mergeSort, Tables.visible_eq kept]
    exact same.apps.length_eq
  cases fits : fitsWord limit with
  | true =>
    rw [Page.readApps_eq seen fits texts, Page.readApps_eq seen' fits texts', parsed,
      length_pageOf_congr lengths]
  | false => rw [Page.readApps_of_large seen org fits, Page.readApps_of_large seen' org fits]

end Named

/-- The history of an organization, in the order of its days. -/
theorem byDay_history (t : Tables) (u : Uuid) :
    History.byDay (t.history u) = (inDayOrder (·.day) (t.daysOf u)).map DayRow.entry :=
  (map_inDayOrder (fun _ => rfl) _).symm

/-- The snapshot of an organization is the same, since its days come in one order only. -/
theorem snapshotFor?_congr (kept : u.KeptAsText) (keyed : t.Keyed) (same : t.AgreeFor u user t') :
    Page.snapshotFor? t u = Page.snapshotFor? t' u := by
  have days : (t.daysOf u).Perm (t'.daysOf u) := by
    rw [Tables.daysOf_eq kept, Tables.daysOf_eq kept]
    exact same.days
  have ordered : History.byDay (t.history u) = History.byDay (t'.history u) := by
    rw [byDay_history, byDay_history, inDayOrder_congr days (keyed.nodup_daysOf u)]
  simp only [Page.snapshotFor?, Tables.snapshotOf_eq, Tables.statistics?_eq kept, same.statistics,
    ordered]

/-- A page says the same over tables that say the same about the organization, if what it fetches of
both can be loaded. -/
theorem read_congr (seen : v.tables = .ok t) (seen' : v'.tables = .ok t')
    (reads : v.readsDays = v'.readsDays) {org : Json} (parsed : Uuid.ofJson? org = some u)
    (kept : u.KeptAsText) (keyed : t.Keyed) (same : t.AgreeFor u user t') {settings : Settings}
    {page : Page} (texts : AreTexts (page.loadedIds settings t org))
    (texts' : AreTexts (page.loadedIds settings t' org)) :
    (page.read settings v org).result = (page.read settings v' org).result := by
  have snapshot : AreTexts (t.snapshotIds org) → AreTexts (t'.snapshotIds org) →
      (Page.readSnapshot v org).result = (Page.readSnapshot v' org).result := by
    intro texts texts'
    rw [Page.result_readSnapshot seen texts, Page.result_readSnapshot seen' texts',
      Page.snapshotNamed, Page.snapshotNamed, parsed, Option.bind_some, Option.bind_some,
      snapshotFor?_congr kept keyed same, reads]
  cases page with
  | workflows =>
    rw [Page.read, Page.read, readWorkflows_congr parsed kept seen seen' same texts texts']
  | apps => rw [Page.read, Page.read, readApps_congr parsed kept seen seen' same texts texts']
  | apiUsage =>
    rw [Page.read, Page.read, Traced.result_bind, Traced.result_bind, snapshot texts texts']
  | executions =>
    rw [Page.read, Page.read, Traced.result_bind, Traced.result_bind, snapshot texts texts']
  | chart metric =>
    rw [Page.read, Page.read]
    cases named : Metric.ofName? metric with
    | none => rfl
    | some m =>
      simp only [Page.loadedIds, named] at texts texts'
      simp only
      rw [Traced.result_bind, Traced.result_bind, snapshot texts texts']

/-- A caller is told the same over tables that say the same about the organization and the user. -/
theorem pageResult_congr (seen : v.tables = .ok t) (seen' : v'.tables = .ok t')
    (reads : v.readsDays = v'.readsDays) (parsed : Uuid.ofJson? c.orgId = some u)
    (kept : u.KeptAsText) (named : c.userId = .str user) (keyed : t.Keyed)
    (same : t.AgreeFor u user t') {settings : Settings} {page : Page}
    (texts : AreTexts (page.loadedIds settings t c.orgId))
    (texts' : AreTexts (page.loadedIds settings t' c.orgId)) :
    pageResult settings v c page = pageResult settings v' c page := by
  have access : checkAccess v c = checkAccess v' c := by
    refine checkAccess_congr seen seen' named ?_ ?_
    · intro u' parsed'
      obtain rfl := Option.some.inj (parsed.symm.trans parsed')
      exact kept
    · intro u' parsed'
      obtain rfl := Option.some.inj (parsed.symm.trans parsed')
      exact same.toAgreeOnAccess
  rw [pageResult, pageResult, access,
    read_congr seen seen' reads parsed kept keyed same texts texts']

end Agree

/-! ## Answers -/

namespace Service
variable {s : Service} {r : Request} {d d' : Database}

/-- A request from nobody leaves the database as it is. -/
theorem database_of_stop {stop : Stop}
    (stopped : (identify s.room s.cache s.now r).1.result = .error stop) :
    (s.answer r).2.2.database = s.database := by
  rcases database_answer s r with same | ⟨context, page, visited⟩
  · exact same
  · rw [visited]
    exact (visit_of_stop stopped context page).2

/-- A request from nobody is answered alike over all databases. -/
theorem answer_of_stop_congr {stop : Stop}
    (stopped : (identify s.room s.cache s.now r).1.result = .error stop) (d d' : Database) :
    ((s.withDatabase d).answer r).1 = ((s.withDatabase d').answer r).1 := by
  refine answer_congr fun context page _ => ?_
  have first := visit_of_stop (s := s.withDatabase d) stopped context page
  have second := visit_of_stop (s := s.withDatabase d') stopped context page
  rw [first.1, second.1]

/-- A caller is answered alike over databases whose pages come to the same. -/
theorem answer_of_known_congr {settings : Settings} {c : Caller} {t t' : Tables}
    (known : (identify s.room s.cache s.now r).1.result = .ok (settings, c))
    (seen : d.view.tables = .ok t) (seen' : d'.view.tables = .ok t')
    (pages : ∀ page, r.Shows s.facade.debug page →
      pageResult settings d.view c page = pageResult settings d'.view c page) :
    ((s.withDatabase d).answer r).1 = ((s.withDatabase d').answer r).1 := by
  refine answer_congr fun context page shows => ?_
  have first := visit_of_known (s := s.withDatabase d) known seen context page
  have second := visit_of_known (s := s.withDatabase d') known seen' context page
  rw [first, second]
  exact congrArg pageOutcome (pages page shows)

section Numbered
variable {settings : Settings} {c : Caller} {t : Tables} {page : Page}

/-- A caller of an organization whose identifier is stored as a number gets no prepared answer if some
organization has its key, and is told that it is missing if none has. -/
theorem answer_of_numberedOrg (visits : r.Visits page)
    (known : (identify s.room s.cache s.now r).1.result = .ok (settings, c))
    (seen : s.database.view.tables = .ok t) {u : Uuid} (parsed : Uuid.ofJson? c.orgId = some u)
    (number : ¬ u.KeptAsText) :
    (t.HasNumberedOrg c.orgId →
      (s.answer r).1.response = .internalError ∧ (s.answer r).1.escape.isSome = true) ∧
    (¬ t.HasNumberedOrg c.orgId →
      (s.answer r).1 = s.replyTo r (Stop.failure (.orgNotFound c.orgId)).outcome) := by
  rw [answer_of_known visits known seen]
  constructor
  · intro found
    obtain ⟨fault, stopped⟩ := org_of_number seen found
    rw [pageResult, checkAccess, stopped]
    exact ⟨rfl, rfl⟩
  · intro absent
    have missing : ¬ t.HasOrg c.orgId := fun present => number (present.keptAsText absent parsed)
    rw [pageResult, checkAccess_of_missing seen missing absent]
    rfl

/-- A page of which a row cannot be loaded has no prepared answer for a caller who may read. -/
theorem answer_of_number (visits : r.Visits page)
    (known : (identify s.room s.cache s.now r).1.result = .ok (settings, c))
    (seen : s.database.view.tables = .ok t)
    (authorized : (checkAccess s.database.view c).result = .ok ())
    (number : ¬ AreTexts (page.loadedIds settings t c.orgId)) :
    (s.answer r).1.response = .internalError ∧ (s.answer r).1.escape.isSome = true := by
  obtain ⟨fault, stopped⟩ := Page.result_of_number seen number
  rw [answer_of_known visits known seen, pageResult, authorized]
  simp only [stopped]
  exact ⟨rfl, rfl⟩

end Numbered

/-- What the answer to a request depends on. From nobody: on no database, and the database stays as
it is. From a caller who is refused access: on the organization and the membership. From any caller:
on what the tables say about the organization and the user. For callers this is so where the identifier
of the organization, and those of the rows that are fetched, are stored as texts. A caller of an
organization whose identifier is stored as a number gets no prepared answer if some organization has its
key, and is told that it is missing if none has; and where a row that is fetched has an identifier that is
stored as a number, there is no prepared answer either. -/
theorem answer_isolated (s : Service) (r : Request) (d d' : Database) :
    ((∀ k cache c, s.cache.get = (.ok k, cache) → ¬ r.IsFrom s.room k.settings s.now c) →
      ((s.withDatabase d).answer r).1 = ((s.withDatabase d').answer r).1 ∧
        ((s.withDatabase d).answer r).2.2.database = d) ∧
    ∀ k cache c user t t', s.cache.get = (.ok k, cache) → r.IsFrom s.room k.settings s.now c →
      c.userId = .str user → d.view.tables = .ok t → d'.view.tables = .ok t' →
      (∀ fault, (checkAccess d.view c).result = .error fault →
        (∀ u, Uuid.ofJson? c.orgId = some u → u.KeptAsText ∧ t.AgreeOnAccess u user t') →
        ((s.withDatabase d).answer r).1 = ((s.withDatabase d').answer r).1) ∧
      (∀ u, Uuid.ofJson? c.orgId = some u → u.KeptAsText → d.view.readsDays = d'.view.readsDays →
        t.Keyed → t.AgreeFor u user t' →
        (∀ page, r.Shows s.facade.debug page → AreTexts (page.loadedIds k.settings t c.orgId) ∧
          AreTexts (page.loadedIds k.settings t' c.orgId)) →
        ((s.withDatabase d).answer r).1 = ((s.withDatabase d').answer r).1) ∧
      ∀ page, r.Visits page →
        (∀ u, Uuid.ofJson? c.orgId = some u → ¬ u.KeptAsText →
          (t.HasNumberedOrg c.orgId → ((s.withDatabase d).answer r).1.response = .internalError) ∧
          (¬ t.HasNumberedOrg c.orgId → ((s.withDatabase d).answer r).1 =
            s.replyTo r (Stop.failure (.orgNotFound c.orgId)).outcome)) ∧
        ((checkAccess d.view c).result = .ok () →
          ¬ AreTexts (page.loadedIds k.settings t c.orgId) →
          ((s.withDatabase d).answer r).1.response = .internalError) := by
  constructor
  · intro nobody
    obtain ⟨stop, stopped⟩ := identify_of_nobody nobody
    exact ⟨answer_of_stop_congr stopped d d', database_of_stop (s := s.withDatabase d) stopped⟩
  intro k cache c user t t' kept isFrom named seen seen'
  have known := identify_of_isFrom kept isFrom
  refine ⟨?refused, ?tenant, ?numbers⟩
  case refused =>
    intro fault refused same
    have access : checkAccess d.view c = checkAccess d'.view c :=
      checkAccess_congr seen seen' named (fun u parsed => (same u parsed).1)
        fun u parsed => (same u parsed).2
    refine answer_of_known_congr known seen seen' fun page _ => ?_
    rw [pageResult, pageResult, ← access, refused]
  case tenant =>
    intro u parsed text reads keyed same texts
    refine answer_of_known_congr known seen seen' fun page shows => ?_
    exact pageResult_congr seen seen' reads parsed text named keyed same (texts page shows).1
      (texts page shows).2
  case numbers =>
    intro page visits
    constructor
    · intro u parsed number
      obtain ⟨found, absent⟩ :=
        answer_of_numberedOrg (s := s.withDatabase d) visits known seen parsed number
      exact ⟨fun org => (found org).1, absent⟩
    · intro authorized number
      exact (answer_of_number (s := s.withDatabase d) visits known seen authorized number).1

/-- The same tables, crowded with the rows of another organization. -/
def crowdedAcme : Tables where
  orgs := ⟨some ⟨0xb⟩, "Other"⟩ :: acme.orgs
  members := ⟨none, ⟨0xb⟩, "u-1"⟩ :: acme.members
  statistics := acme.statistics
  days := acme.days
  workflows := [⟨some ⟨0xc⟩, ⟨0xb⟩, "other flow"⟩]
  executions := [⟨none, ⟨0xc⟩, .finished⟩]
  apps := [⟨none, "other app", false, some ⟨0xb⟩⟩]

/-- A database in memory with some tables. -/
def memoryOf (t : Tables) : Database := Database.inMemory.withTables (some t)

theorem view_memoryOf (t : Tables) : (memoryOf t).view = ⟨.ok t, true⟩ := rfl

theorem keepsTexts_crowdedAcme : crowdedAcme.KeepsTexts := by
  constructor <;> decide +kernel

/-- The other organization is no row of the one named, and its app is not public. -/
theorem agreeFor_crowdedAcme (user : String) (named : user = "u-1" ∨ user = "u-2") :
    acme.AgreeFor ⟨0xa⟩ user crowdedAcme where
  row := by decide
  member := by rcases named with rfl | rfl <;> rfl
  statistics := by decide
  days := .refl _
  workflows := .of_eq (by decide)
  executions := .of_eq (by decide)
  apps := .of_eq (by decide)

/-- A user who is no member is refused access. -/
theorem checkAccess_stranger :
    (checkAccess (memoryOf acme).view (Token.namedCaller "u-2" "" acmeId false)).result =
      .error (.failure accessFailure) := by
  have present : acme.HasOrg (.str acmeId) :=
    ⟨_, acmeId_parsed, _, List.mem_singleton.2 rfl, rfl⟩
  have texts : ¬ acme.LoadsNumber (Token.namedCaller "u-2" "" acmeId false) :=
    Tables.not_loadsNumber keepsTexts_acme.orgs keepsTexts_acme.members _
  have stranger := @not_admits_acme "u-2" (by decide)
  rcases checkAccess_of_whole (c := Token.namedCaller "u-2" "" acmeId false)
    (congrArg TableView.tables (view_memoryOf acme)) present rfl (by decide) texts with
    ⟨admitted, -⟩ | ⟨-, refused⟩
  · exact absurd admitted stranger
  · exact refused

/-- Neither a visit without a token, nor one of a stranger, nor one of a member is answered in
another way where another organization crowds the tables. -/
theorem answer_isolated_crowded :
    (((plainService acme).withDatabase .closed).answer
          ⟨"GET", "/api/v1/dashboard/apps", []⟩).1 =
        (((plainService acme).withDatabase (memoryOf crowdedAcme)).answer
          ⟨"GET", "/api/v1/dashboard/apps", []⟩).1 ∧
      ∀ user, user = "u-1" ∨ user = "u-2" →
        (((plainService acme).withDatabase (memoryOf acme)).answer
            (plainVisit "/api/v1/dashboard/apps" user acmeId false)).1 =
          (((plainService acme).withDatabase (memoryOf crowdedAcme)).answer
            (plainVisit "/api/v1/dashboard/apps" user acmeId false)).1 := by
  constructor
  · refine ((answer_isolated (plainService acme) _ .closed (memoryOf crowdedAcme)).1 ?_).1
    rintro k cache c kept ⟨token, header, -⟩
    cases header
  · intro user named
    obtain ⟨nonempty, whole⟩ : user ≠ "" ∧ Text.holdsHalf user = false := by
      rcases named with rfl | rfl <;> exact ⟨by decide, by decide⟩
    have isFrom := isFrom_acmeVisit "/api/v1/dashboard/apps" user false nonempty whole
    obtain ⟨refused, tenant, -⟩ :=
      (answer_isolated (plainService acme) _ (memoryOf acme) (memoryOf crowdedAcme)).2
        { settings := plainSettings } _ _ user _ _ (kept_plainService acme) isFrom rfl rfl rfl
    have agree := agreeFor_crowdedAcme user named
    rcases named with rfl | rfl
    · refine tenant ⟨0xa⟩ acmeId_parsed acmeId_keptAsText rfl ?_ agree fun page _ => ?_
      · exact ⟨by decide, by decide +kernel, by decide, by decide⟩
      · exact ⟨Page.areTexts_loadedIds keepsTexts_acme _ _ page,
          Page.areTexts_loadedIds keepsTexts_crowdedAcme _ _ page⟩
    · refine refused _ checkAccess_stranger fun u parsed => ?_
      obtain rfl := Option.some.inj (acmeId_parsed.symm.trans parsed)
      exact ⟨acmeId_keptAsText, agree.toAgreeOnAccess⟩

/-- Tables with an organization whose identifier has other digits that read as the number that
`exponentId` reads as. -/
def sharedKey : Tables := { Tables.empty with orgs := [⟨some ⟨0x10e4⟩, "Other"⟩] }

/-- The tables without rows and those with one other organization say the same about the organization of
`exponentId` and a user, and yet the user is answered in another way. -/
theorem not_isolated_exponentId :
    (∀ r ∈ sharedKey.orgs, r.id ≠ some ⟨0x1e5⟩) ∧ Tables.empty.Keyed ∧ sharedKey.Keyed ∧
      Tables.empty.AgreeFor ⟨0x1e5⟩ "u-1" sharedKey ∧
      (plainVisit "/api/v1/dashboard/apps" "u-1" exponentId false).IsFrom plainRoom plainSettings
        (plainService .empty).now (Token.namedCaller "u-1" "" exponentId false) ∧
      (((plainService .empty).withDatabase (memoryOf .empty)).answer
        (plainVisit "/api/v1/dashboard/apps" "u-1" exponentId false)).1.response.status = 401 ∧
      (((plainService .empty).withDatabase (memoryOf sharedKey)).answer
        (plainVisit "/api/v1/dashboard/apps" "u-1" exponentId false)).1.response = .internalError := by
  have visits : (plainVisit "/api/v1/dashboard/apps" "u-1" exponentId false).Visits .apps :=
    visits_withBearer rfl rfl trivial
  have isFrom := isFrom_exponentVisit "/api/v1/dashboard/apps" "u-1" (by decide) (by decide)
  have known := identify_of_isFrom (kept_plainService .empty) isFrom
  have answered := fun t => answer_of_numberedOrg (s := (plainService .empty).withDatabase (memoryOf t))
    visits known rfl exponentId_parsed exponentId_number
  refine ⟨by decide, Tables.keyed_empty, ⟨by decide, by decide, by decide, by decide⟩, ?agree,
    isFrom, ?missing, ?found⟩
  case agree => exact ⟨⟨by decide, rfl⟩, rfl, .refl _, .refl _, .refl _, .refl _⟩
  case missing =>
    have absent : ¬ Tables.empty.HasNumberedOrg (.str exponentId) := by
      rintro ⟨u, -, -, o, ho, -⟩
      cases ho
    rw [(answered .empty).2 absent]
    rfl
  case found =>
    have key : ∃ o ∈ sharedKey.orgs, o.id.any (Uuid.sameKey ⟨0x1e5⟩) = true :=
      ⟨_, List.mem_singleton.2 rfl, by decide +kernel⟩
    exact ((answered sharedKey).1 ⟨_, exponentId_parsed, exponentId_number, key⟩).1

end Service

end Runboard
