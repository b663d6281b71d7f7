import Runboard.Proofs.SupportAudit
import Runboard.Proofs.UuidSpelling

/-!
# `Runboard.Proofs.OrgSpelling`: one organization by many names

The organization of a token is named by a value, and there are many ways to write one identifier. Only
the identifier that is read of the name counts: every question to the tables has the same answer for
two names of one identifier, and for two names of none. So whoever is let in by one spelling reads the
data of the same organization by every other. What may differ is a failure that tells the name as it
was given.

## Contents

* `SameOrg`, `EqUpToName`: names of one organization, and what may differ between them;
* `Store.org_of_sameOrg` and its like: the questions;
* `checkAccess_alike`, `Page.read_alike`, `pageResult_alike`: access and pages;
* `Service.answer_of_sameOrg`: answers;
* `Service.spellings_name_org`: the whole.
-/

namespace Runboard

/-- Two values name the same organization, or neither names one. -/
def SameOrg (id id' : Json) : Prop := Uuid.ofJson? id = Uuid.ofJson? id'

/-- Two outcomes for two names are the same, or each is a failure that tells its own name. -/
def EqUpToName {α : Type} (failure : Json → α) (id id' : Json) (x x' : α) : Prop :=
  x = x' ∨ (x = failure id ∧ x' = failure id')

/-! ## Questions -/

namespace Store
variable {id id' : Json}

theorem org_of_sameOrg (same : SameOrg id id') (v : TableView) : org v id = org v id' := by
  rw [org, org, same]

theorem isMember_of_sameOrg (same : SameOrg id id') (v : TableView) (user : Json) :
    isMember v id user = isMember v id' user := by
  rw [isMember, isMember, same]

theorem workflows_of_sameOrg (same : SameOrg id id') (v : TableView) :
    workflows v id = workflows v id' := by
  rw [workflows, workflows, same]

theorem apps_of_sameOrg (same : SameOrg id id') (v : TableView) (limit offset : Option Int) :
    apps v id limit offset = apps v id' limit offset := by
  rw [apps, apps, same]

/-- The snapshot is the same, or there is none for either name. -/
theorem statistics_alike (same : SameOrg id id') (v : TableView) :
    EqUpToName (fun id => .error (.failure (.statisticsNotFound id))) id id'
      (statistics v id) (statistics v id') := by
  unfold statistics
  rw [← same]
  cases Uuid.ofJson? id with
  | none => exact .inr ⟨rfl, rfl⟩
  | some u =>
    unfold ask
    cases v.tables with
    | error fault => exact .inl rfl
    | ok t =>
      dsimp only
      cases t.statistics? u with
      | none => exact .inr ⟨rfl, rfl⟩
      | some row => exact .inl rfl

end Store

/-! ## Access and pages -/

section Callers
variable {id id' : Json}

/-- A caller with another name for the organization. -/
def Caller.naming (c : Caller) (org : Json) : Caller := { c with orgId := org }

/-- Access is given or refused alike, and audited alike; where there is no organization, each name is
told. -/
theorem checkAccess_alike (same : SameOrg id id') (v : TableView) (c : Caller) :
    EqUpToName (fun id => ⟨.error (.failure (.orgNotFound id)), [.orgMissing id]⟩) id id'
      (checkAccess v (c.naming id)) (checkAccess v (c.naming id')) := by
  have orgs := Store.org_of_sameOrg same v
  have members := Store.isMember_of_sameOrg same v c.userId
  unfold checkAccess Caller.naming
  dsimp only
  rw [← orgs, ← members]
  cases Store.org v id with
  | error fault => exact .inl rfl
  | ok found =>
    cases found with
    | none => exact .inr ⟨rfl, rfl⟩
    | some o =>
      cases Store.isMember v id c.userId with
      | error fault => exact .inl rfl
      | ok member => exact .inl (by cases member <;> rfl)

/-- A failure of a page that tells a name. -/
def unsnapped {α : Type} (id : Json) : Except Stop α := .error (.failure (.statisticsNotFound id))

theorem readSnapshot_alike (same : SameOrg id id') (v : TableView) :
    EqUpToName unsnapped id id' (Page.readSnapshot v id).result (Page.readSnapshot v id').result := by
  unfold Page.readSnapshot
  rcases Store.statistics_alike same v with equal | ⟨lost, lost'⟩
  · rw [equal]
    exact .inl rfl
  · rw [lost, lost']
    exact .inr ⟨rfl, rfl⟩

/-- What follows a part that is alike is alike, if it does not depend on the name. -/
theorem EqUpToName.bind {α β : Type} {x x' : Traced Stop α} {f f' : α → Traced Stop β}
    (h : EqUpToName unsnapped id id' x.result x'.result) (follow : ∀ a, (f a).result = (f' a).result) :
    EqUpToName unsnapped id id' (x >>= f).result (x' >>= f').result := by
  rw [Traced.result_bind, Traced.result_bind]
  rcases h with equal | ⟨lost, lost'⟩
  · rw [equal]
    cases x'.result with
    | error stop => exact .inl rfl
    | ok a => exact .inl (follow a)
  · rw [lost, lost']
    exact .inr ⟨rfl, rfl⟩

/-- A page says the same by either name, or lacks a snapshot by both. -/
theorem Page.read_alike (same : SameOrg id id') (settings : Settings) (v : TableView) (page : Page) :
    EqUpToName unsnapped id id' (page.read settings v id).result (page.read settings v id').result := by
  cases page with
  | workflows =>
    refine .inl ?_
    rw [read, read, readWorkflows, readWorkflows, Store.workflows_of_sameOrg same]
  | apps =>
    refine .inl ?_
    rw [read, read, readApps, readApps, Store.apps_of_sameOrg same]
  | apiUsage => exact (readSnapshot_alike same v).bind fun _ => rfl
  | executions => exact (readSnapshot_alike same v).bind fun _ => rfl
  | chart metric =>
    rw [read, read]
    cases Metric.ofName? metric with
    | none => exact .inl rfl
    | some m =>
      -- The record of a chart tells the name, its figures do not.
      refine (readSnapshot_alike same v).bind fun s => ?_
      rw [Traced.result_bind, Traced.result_bind]
      rfl

/-- A caller is told the same by either name of the organization, or of a failure that tells the name:
that there is no such organization, or no snapshot of it. -/
theorem pageResult_alike (same : SameOrg id id') (settings : Settings) (v : TableView) (c : Caller)
    (page : Page) :
    EqUpToName (fun id => .error (.failure (.orgNotFound id))) id id'
        (pageResult settings v (c.naming id) page) (pageResult settings v (c.naming id') page) ∨
      EqUpToName unsnapped id id'
        (pageResult settings v (c.naming id) page) (pageResult settings v (c.naming id') page) := by
  unfold pageResult
  rcases checkAccess_alike same v c with equal | ⟨lost, lost'⟩
  · rw [equal]
    cases (checkAccess v (c.naming id')).result with
    | error fault => exact .inl (.inl rfl)
    | ok given => exact .inr (Page.read_alike same settings v page)
  · rw [lost, lost']
    exact .inl (.inr ⟨rfl, rfl⟩)

end Callers

/-! ## Answers -/

namespace Service
variable {s : Service} {r r' : Request} {page : Page}

/-- The request that is answered shows in the headers of the answer only. -/
theorem replyTo_congr (s : Service) (r r' : Request) (outcome : Except Escape Response) :
    (s.replyTo r outcome).response.status = (s.replyTo r' outcome).response.status ∧
      (s.replyTo r outcome).response.body = (s.replyTo r' outcome).response.body := by
  cases outcome with
  | error escape => exact ⟨rfl, rfl⟩
  | ok response =>
    cases sendable : response.canBeSent with
    | true =>
      obtain ⟨status, body⟩ := replyTo_of_sent (s := s) (r := r) sendable
      obtain ⟨status', body'⟩ := replyTo_of_sent (s := s) (r := r') sendable
      exact ⟨status.trans status'.symm, body.trans body'.symm⟩
    | false =>
      rw [replyTo_of_unsent sendable, replyTo_of_unsent sendable]
      exact ⟨rfl, rfl⟩

/-- Whoever is told data by one name of the organization is told the same data by the other. -/
theorem answer_of_sameOrg (visits : r.Visits page) (visits' : r'.Visits page) {settings : Settings}
    {c : Caller} {id id' : Json}
    (known : (identify s.room s.cache s.now r).1.result = .ok (settings, c.naming id))
    (known' : (identify s.room s.cache s.now r').1.result = .ok (settings, c.naming id')) {t : Tables}
    (seen : s.database.view.tables = .ok t) (same : SameOrg id id')
    (success : (s.answer r).1.response.status = 200) :
    (s.answer r').1.response.status = 200 ∧
      (s.answer r').1.response.body = (s.answer r).1.response.body := by
  rw [answer_of_known visits known seen] at success ⊢
  rw [answer_of_known visits' known' seen]
  cases result : pageResult settings s.database.view (c.naming id) page with
  | error stop =>
    rw [result] at success
    exact absurd success (status_stop_ne stop)
  | ok data =>
    have result' : pageResult settings s.database.view (c.naming id') page = .ok data := by
      rcases pageResult_alike same settings s.database.view c page with
        (equal | ⟨lost, -⟩) | (equal | ⟨lost, -⟩)
      · rw [← equal, result]
      · rw [result] at lost
        cases lost
      · rw [← equal, result]
      · rw [result] at lost
        cases lost
    rw [result] at success
    rw [result']
    obtain ⟨status, body⟩ := replyTo_congr s r' r (pageOutcome (.ok data))
    exact ⟨status.trans success, body⟩

/-- Organizations are found by the identifier that is read of their name, and by nothing else of it. A
text is read as an identifier, which its canonical text names again, or as none, because what is left
of it has not 32 characters or is no numeral; there is no third case. Every spelling of an identifier
is read as the identifier. For two names of one organization, or of none, the tables answer every
question alike, access is given, refused and audited alike, and the snapshot is the same or is missing
by both; and a request that is told data by the one name is told the same data by the other. -/
theorem spellings_name_org :
    (∀ text,
      (∃ u, Uuid.read text = .ok u ∧ Uuid.ofText? text = some u ∧ u.value < 2 ^ 128 ∧
        Uuid.ofText? u.text = some u) ∨
      ∃ fault, Uuid.read text = .error fault ∧ Uuid.ofText? text = none ∧
        ((Uuid.bare text.toList).length ≠ 32 ∨
          Numeral.hexadecimal? (Uuid.bare text.toList) = none)) ∧
    (∀ u : Uuid, u.value < 2 ^ 128 → ∀ spelling : u.Spelling,
      Uuid.ofText? spelling.text = some u) ∧
    (∀ (v : TableView) (id id' : Json), SameOrg id id' →
      Store.org v id = Store.org v id' ∧
      (∀ user, Store.isMember v id user = Store.isMember v id' user) ∧
      Store.workflows v id = Store.workflows v id' ∧
      (∀ limit offset, Store.apps v id limit offset = Store.apps v id' limit offset) ∧
      EqUpToName (fun id => .error (.failure (.statisticsNotFound id))) id id'
        (Store.statistics v id) (Store.statistics v id') ∧
      ∀ c : Caller, EqUpToName (fun id => ⟨.error (.failure (.orgNotFound id)), [.orgMissing id]⟩)
        id id' (checkAccess v (c.naming id)) (checkAccess v (c.naming id'))) ∧
    ∀ (s : Service) (r r' : Request) (page : Page) (k : KeptSettings) (cache : SettingsCache)
      (c : Caller) (id id' : Json) (t : Tables), r.Visits page → r'.Visits page →
      s.cache.get = (.ok k, cache) → r.IsFrom s.room k.settings s.now (c.naming id) →
      r'.IsFrom s.room k.settings s.now (c.naming id') → s.database.view.tables = .ok t →
      SameOrg id id' →
      (s.answer r).1.response.status = 200 →
      (s.answer r').1.response.status = 200 ∧
        (s.answer r').1.response.body = (s.answer r).1.response.body := by
  refine ⟨?read, ?spelled, ?asked, ?answered⟩
  case read =>
    intro text
    rcases Uuid.read_cases text with ⟨u, found, bound⟩ | ⟨short, length⟩ | ⟨unread, numeral⟩
    · refine .inl ⟨u, found, ?_, bound, ?_⟩
      · rw [Uuid.ofText?, found]
        rfl
      · rw [Uuid.ofText?, Uuid.read_text bound]
        rfl
    · refine .inr ⟨_, short, ?_, .inl length⟩
      rw [Uuid.ofText?, short]
      rfl
    · refine .inr ⟨_, unread, ?_, .inr numeral⟩
      rw [Uuid.ofText?, unread]
      rfl
  case spelled =>
    intro u bound spelling
    rw [Uuid.ofText?, Uuid.read_spelling bound spelling]
    rfl
  case asked =>
    intro v id id' same
    exact ⟨Store.org_of_sameOrg same v, Store.isMember_of_sameOrg same v,
      Store.workflows_of_sameOrg same v, Store.apps_of_sameOrg same v,
      Store.statistics_alike same v, checkAccess_alike same v⟩
  case answered =>
    intro s r r' page k cache c id id' t visits visits' kept isFrom isFrom' seen same success
    exact answer_of_sameOrg visits visits' (identify_of_isFrom kept isFrom)
      (identify_of_isFrom kept isFrom') seen same success

/-- A spelling with the words between braces, capitals, and hyphens in places of their own. -/
def capitalSpelling : (⟨0xabc00000000000000000000000000def⟩ : Uuid).Spelling where
  outer := ['\x7b']
  words := "urn:uuid:".toList
  inner := ['\x7d', '\x7b']
  body := "ABc-00--000000000000000000000000-dE-f".toList
  tail := ['\x7d', '\x7d', '\x7d']
  braces := List.all_eq_true.1 (by decide)
  urn := .inr rfl
  digits := by decide

/-- The identifier of an organization, as a text in another spelling. -/
def acmeWords : String := "urn:uuid:\x7b0000000000000000000000000000000a\x7d"

theorem acmeWords_parsed : Uuid.ofJson? (.str acmeWords) = some ⟨0xa⟩ := by decide

/-- The spelling is read, and a member who names the organization by its words is told the same as one
who names it by its canonical text. -/
theorem spellings_name_org_acme :
    Uuid.ofText? capitalSpelling.text = some ⟨0xabc00000000000000000000000000def⟩ ∧
    Store.org (plainService acme).database.view (.str acmeWords) =
      Store.org (plainService acme).database.view (.str acmeId) ∧
    ((plainService acme).answer
      (plainVisit "/api/v1/dashboard/workflows" "u-1" acmeWords false)).1.response.status = 200 ∧
    ((plainService acme).answer
      (plainVisit "/api/v1/dashboard/workflows" "u-1" acmeWords false)).1.response.body =
    ((plainService acme).answer
      (plainVisit "/api/v1/dashboard/workflows" "u-1" acmeId false)).1.response.body := by
  obtain ⟨-, spelled, asked, answered⟩ := spellings_name_org
  have same : SameOrg (.str acmeWords) (.str acmeId) := acmeWords_parsed.trans acmeId_parsed.symm
  have same' : SameOrg (.str acmeId) (.str acmeWords) := Eq.symm same
  have visits : ∀ org, (plainVisit "/api/v1/dashboard/workflows" "u-1" org false).Visits
      .workflows := fun org => visits_withBearer rfl rfl trivial
  have isFrom : ∀ org, Text.holdsHalf org = false → org ≠ "" →
      (plainVisit "/api/v1/dashboard/workflows" "u-1" org false).IsFrom plainRoom plainSettings
        (plainService acme).now ((Token.namedCaller "u-1" "" acmeId false).naming (.str org)) := by
    intro org whole nonempty
    exact isFrom_plainVisit "/api/v1/dashboard/workflows" "u-1" org false
      ⟨Json.isJoined_of_holdsHalf (by decide), Json.isJoined_of_holdsHalf whole⟩ (by decide) nonempty
  have seen := tables_plainService acme
  have kept := kept_plainService acme
  have success : ((plainService acme).answer
      (plainVisit "/api/v1/dashboard/workflows" "u-1" acmeId false)).1.response.status = 200 := by
    have known := identify_of_isFrom kept (isFrom acmeId (by decide) (by decide))
    have authorized : (checkAccess (plainService acme).database.view
        ((Token.namedCaller "u-1" "" acmeId false).naming (.str acmeId))).result = .ok () :=
      (authorized_iff seen rfl).2 (admits_acmeMember rfl rfl)
    have texts := Page.areTexts_loadedIds keepsTexts_acme plainSettings (.str acmeId) .workflows
    rw [answer_of_known (visits acmeId) known seen, pageResult, authorized]
    simp only [Page.read, Caller.naming, Page.readWorkflows_eq seen texts]
    rfl
  refine ⟨spelled _ (by decide) capitalSpelling, (asked _ _ _ same).1, ?_⟩
  exact answered _ _ _ .workflows _ _ _ _ _ acme (visits acmeId) (visits acmeWords) kept
    (isFrom acmeId (by decide) (by decide)) (isFrom acmeWords (by decide) (by decide)) seen same' success

end Service

end Runboard
