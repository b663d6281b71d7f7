import Runboard.Proofs.AccessControl
import Runboard.Proofs.Journal

/-!
# `Runboard.Proofs.SupportAudit`: who is audited

A caller who is no member of an organization may still read it by support access, and then this is
recorded: once for each request, with the caller and with the organization under the name and the
identifier that the tables have for it. Nobody else leaves such a record. It is left before the page
is read, so it stands also where the page then fails.

A user whose text has no bytes cannot be looked for among the members, and an organization whose
identifier is stored as a number cannot be loaded. The request of such a caller ends there, and no record
is left although the access would have been given.

## Contents

* `Event.IsAudit`, `audits`: the records of support access;
* `Page.audits_read`, `audits_identify`, `Service.audits_visit_of_known`: nothing in a visit but the
  check of access is recorded so;
* `org_eq_some_iff`, `isMember_of_looked`: the two questions of the check of access;
* `Tables.Supports`, `checkAccess_of_supports`, `checkAccess_of_unsupported`: the check of access;
* `Service.Knows`, `Service.AuditsExactly`, `auditsExactly_answer`: what a request leaves;
* `Service.made?`, `StepReport.audits`: the requests of a run, and what is recorded of them;
* `Service.audits_of_run`: who is audited in a run, exactly.
-/

namespace Runboard

open Runboard.Text

/-! ## Records of support access -/

/-- The event is recorded as support access is: by the logger of access, as an ordinary event. -/
def Event.IsAudit (e : Event) : Prop := e.logger = accessLogger ∧ e.level = Level.info

instance : DecidablePred Event.IsAudit := fun _ => inferInstanceAs (Decidable (_ ∧ _))

/-- Nothing but support access is recorded in this way. -/
theorem Event.isAudit_iff {e : Event} : e.IsAudit ↔
    ∃ username userId orgName orgId, e = .audited username userId orgName orgId := by
  cases e with
  | audited username userId orgName orgId =>
    exact ⟨fun _ => ⟨username, userId, orgName, orgId, rfl⟩, fun _ => ⟨rfl, rfl⟩⟩
  | _ =>
    simp [IsAudit, logger, level, accessLogger, Level.info, Level.warning, Level.error, Level.debug]

/-- The records of support access among some events. -/
def audits (events : List Event) : List Event := events.filter fun e => decide e.IsAudit

@[simp] theorem audits_nil : audits [] = [] := rfl

@[simp] theorem audits_append (events more : List Event) :
    audits (events ++ more) = audits events ++ audits more :=
  List.filter_append ..

/-! ## Visits -/

section Bind
variable {ε α β : Type} {x : Traced ε α} {f : α → Traced ε β}

/-- A sequence leaves no record of support access if none of its parts does. -/
theorem audits_bind (first : audits x.events = []) (second : ∀ a, audits (f a).events = []) :
    audits (x >>= f).events = [] := by
  cases result : x.result with
  | error e =>
    rw [Traced.bind_of_error f result]
    exact first
  | ok a =>
    rw [Traced.bind_of_ok f result, Traced.after, audits_append, first, second]
    rfl

end Bind

namespace Page

theorem audits_orderHistory (orgId : String) (entries : List (DayEntry Amount)) :
    audits (orderHistory orgId entries).2 = [] := by
  unfold orderHistory
  split
  · dsimp only
    split
    · rfl
    · simp [audits, Event.isAudit_iff]
  · rfl

theorem audits_snapshotOf (t : Tables) (u : Uuid) (row : StatisticsRow) :
    audits (t.snapshotOf u row).2 = [] :=
  audits_orderHistory _ _

theorem audits_statistics {v : TableView} {org : Json} {found : Snapshot Amount × List Event}
    (h : Store.statistics v org = .ok found) : audits found.2 = [] := by
  unfold Store.statistics at h
  split at h
  · cases h
  · next u _ =>
    unfold Store.ask at h
    split at h
    · cases h
    · next t _ =>
      dsimp only at h
      split at h
      · cases h
      · next row _ =>
        -- What is found was loaded, and is the snapshot of the row.
        split at h
        · cases h
        · split at h
          · cases loaded : load ((t.daysOf u).flatMap DayRow.ids) with
            | error fault =>
              rw [loaded] at h
              cases h
            | ok _ =>
              rw [loaded] at h
              rw [← Except.ok.inj h]
              exact audits_snapshotOf t u row
          · cases h

theorem audits_readSnapshot (v : TableView) (org : Json) :
    audits (readSnapshot v org).events = [] := by
  unfold readSnapshot
  cases statistics : Store.statistics v org with
  | error fault => rfl
  | ok found => exact audits_statistics statistics

theorem audits_figured {α : Type} (x : Except FigureFault α) : audits (figured x).events = [] := by
  cases x <;> rfl

theorem audits_shown {α : Type} (x : Option α) : audits (shown x).events = [] := by
  cases x <;> rfl

/-- Reading a page leaves no record of support access. -/
theorem audits_read (settings : Settings) (v : TableView) (org : Json) (page : Page) :
    audits (page.read settings v org).events = [] := by
  cases page with
  | workflows => rfl
  | apps => rfl
  | apiUsage =>
    refine audits_bind (audits_readSnapshot v org) fun s => ?_
    refine audits_bind (audits_shown _) fun total => ?_
    exact audits_bind (audits_shown _) fun daily => rfl
  | executions =>
    refine audits_bind (audits_readSnapshot v org) fun s => ?_
    refine audits_bind (audits_figured _) fun figures => ?_
    exact audits_bind (audits_shown _) fun report => rfl
  | chart metric =>
    rw [read]
    split
    · rfl
    · refine audits_bind (audits_readSnapshot v org) fun s => ?_
      refine audits_bind (audits_figured _) fun figures => ?_
      refine audits_bind rfl fun _ => ?_
      exact audits_bind (audits_shown _) fun chart => rfl

end Page

/-- Finding out who a request is from leaves no record of support access. -/
theorem audits_identify (room : StackRoom) (cache : SettingsCache) (now : Instant) (r : Request) :
    audits (identify room cache now r).1.events = [] := by
  unfold identify
  split
  · rfl
  · split
    · rfl
    · next kept cache' _ =>
      refine audits_bind ?_ fun caller => rfl
      unfold callerOf
      split <;> rfl

theorem Stop.audits_events (path : String) (stop : Stop) : audits (stop.events path) = [] := by
  cases stop <;> rfl

theorem audits_pageEvents (path : String) (result : Except Stop PageData) :
    audits (pageEvents path result) = [] := by
  cases result with
  | ok data => rfl
  | error stop => exact stop.audits_events path

theorem map_event_entriesIn (context : LogContext) (events : List Event) :
    (entriesIn context events).map (·.event) = events := by
  rw [entriesIn, List.map_map]
  exact List.map_id events

namespace Service
variable {s : Service} {r : Request} {page : Page} {context : LogContext}

theorem audits_visit_of_stop {stop : Stop}
    (stopped : (identify s.room s.cache s.now r).1.result = .error stop) :
    audits ((s.visit context r page).entries.map (·.event)) = [] := by
  have unheard := audits_identify s.room s.cache s.now r
  unfold visit
  split
  · next heq =>
    rw [heq] at unheard
    rw [map_event_entriesIn, audits_append, Stop.audits_events, unheard]
    rfl
  · next heq =>
    rw [heq] at stopped
    cases stopped

/-- A visit of a known caller to tables that can be seen leaves the records that the check of access
leaves. -/
theorem audits_visit_of_known {settings : Settings} {c : Caller} {t : Tables}
    (known : (identify s.room s.cache s.now r).1.result = .ok (settings, c))
    (seen : s.database.view.tables = .ok t) :
    audits ((s.visit context r page).entries.map (·.event)) =
      audits (checkAccess s.database.view c).events := by
  have unheard := audits_identify s.room s.cache s.now r
  unfold visit
  split
  · next heq =>
    rw [heq] at known
    cases known
  · next cache heq =>
    rw [heq] at known unheard
    cases known
    have read : audits (readPage settings c page s.database cache).1.events =
        audits (checkAccess s.database.view c).events := by
      unfold readPage
      rw [Database.ready_of_view seen cache]
      dsimp only [Traced.after]
      rw [List.nil_append]
      cases access : (checkAccess s.database.view c).result with
      | error fault => rw [Traced.bind_of_error _ rfl]
      | ok =>
        rw [Traced.bind_of_ok _ rfl, Traced.after, audits_append, Page.audits_read]
        exact List.append_nil _
    dsimp only
    rw [List.map_append, map_event_entriesIn, map_event_entriesIn, audits_append, audits_append,
      audits_pageEvents, unheard, read, List.nil_append, List.append_nil]

end Service

/-! ## The check of access -/

/-- The caller reads an organization by support access: the tables have the organization, the caller
is no member of it, and the token gives support access. -/
structure Tables.Supports (t : Tables) (c : Caller) (o : Organization) : Prop where
  named : Uuid.ofJson? c.orgId = some o.id
  found : t.org? o.id = some o
  stranger : ¬ t.HasMember c.orgId c.userId
  support : c.supportAccess = true

section Check
variable {v : TableView} {t : Tables} {c : Caller} {user : String}

/-- An organization is told if it is found and its identifier is stored as a text. -/
theorem org_eq_some_iff (seen : v.tables = .ok t) {org : Json} {o : Organization} :
    Store.org v org = .ok (some o) ↔
      Uuid.ofJson? org = some o.id ∧ t.org? o.id = some o ∧ o.id.KeptAsText := by
  rw [Store.org]
  cases parsed : Uuid.ofJson? org with
  | none =>
    constructor
    · intro answered
      cases answered
    · rintro ⟨same, -⟩
      cases same
  | some u =>
    simp only [Page.ask_eq seen]
    cases found : t.org? u with
    | none =>
      constructor
      · intro answered
        cases answered
      · rintro ⟨same, found', -⟩
        obtain rfl := Option.some.inj same
        cases found.symm.trans found'
    | some o' =>
      obtain ⟨row, -, rfl⟩ := Option.map_eq_some_iff.1 found
      by_cases kept : u.KeptAsText
      · have texts : AreTexts [some u] := fun w hw => Option.some.inj (List.mem_singleton.1 hw) ▸ kept
        simp only [load_of_areTexts texts]
        constructor
        · intro answered
          obtain rfl := Option.some.inj (Except.ok.inj answered)
          exact ⟨rfl, found, kept⟩
        · rintro ⟨same, found', -⟩
          obtain rfl := Option.some.inj same
          exact congrArg (Except.ok ∘ some) (Option.some.inj (found.symm.trans found'))
      · have number : ¬ AreTexts [some u] := fun texts => kept (texts u (List.mem_singleton.2 rfl))
        obtain ⟨fault, -, stopped⟩ := load_of_not_areTexts number
        simp only [stopped]
        constructor
        · intro answered
          cases answered
        · rintro ⟨same, -, kept'⟩
          exact absurd (Option.some.inj same ▸ kept') kept

/-- A user who was looked for has bytes, and was found if there is such a member. -/
theorem isMember_of_looked (seen : v.tables = .ok t) {org : Json} {u : Uuid}
    (parsed : Uuid.ofJson? org = some u) (kept : u.KeptAsText) {member : Bool}
    (looked : Store.isMember v org (.str user) = .ok member) :
    Text.holdsHalf user = false ∧ (member = true ↔ t.HasMember org (.str user)) := by
  cases whole : Text.holdsHalf user with
  | true =>
    obtain ⟨fault, unbound⟩ := unbound_of_half whole
    rw [isMember_of_unbound seen parsed unbound] at looked
    cases looked
  | false =>
    refine ⟨rfl, ?_⟩
    rw [isMember_eq seen parsed whole] at looked
    rw [hasMember_iff parsed kept]
    cases found : t.member? u user with
    | none =>
      rw [found] at looked
      obtain rfl := Except.ok.inj looked
      exact ⟨nofun, nofun⟩
    | some row =>
      rw [found] at looked
      dsimp only at looked
      cases loaded : load [row.id] with
      | error fault =>
        rw [loaded] at looked
        cases looked
      | ok _ =>
        rw [loaded] at looked
        obtain rfl := Except.ok.inj looked
        exact ⟨fun _ => ⟨row, rfl⟩, fun _ => rfl⟩

/-- Support access is given, and recorded, to a user who can be looked for, if the organization can be
loaded. -/
theorem checkAccess_of_supports (seen : v.tables = .ok t) (named : c.userId = .str user)
    (whole : Text.holdsHalf user = false) {o : Organization} (supports : t.Supports c o)
    (kept : o.id.KeptAsText) :
    checkAccess v c = .tell [.audited c.username c.userId o.name o.id] := by
  have stranger : t.member? o.id user = none := by
    refine Option.eq_none_iff_forall_ne_some.2 fun row found => supports.stranger ?_
    rw [named]
    exact (hasMember_iff supports.named kept).2 ⟨row, found⟩
  have looked : Store.isMember v c.orgId (.str user) = .ok false := by
    rw [isMember_eq seen supports.named whole, stranger]
  rw [checkAccess, (org_eq_some_iff seen).2 ⟨supports.named, supports.found, kept⟩, named, looked]
  simp only [supportOrRefuse, supports.support, named, ↓reduceIte]

/-- No other check is recorded so, and it gives access only to members. -/
theorem checkAccess_of_unsupported (seen : v.tables = .ok t) (named : c.userId = .str user)
    (unsupported : ∀ o, t.Supports c o → Text.holdsHalf user = true ∨ ¬ o.id.KeptAsText) :
    audits (checkAccess v c).events = [] ∧
      ((checkAccess v c).result = .ok () → t.HasMember c.orgId c.userId) := by
  rw [checkAccess]
  cases org : Store.org v c.orgId with
  | error fault => exact ⟨rfl, fun granted => by cases granted⟩
  | ok answered =>
    cases answered with
    | none => exact ⟨rfl, fun granted => by cases granted⟩
    | some o =>
      obtain ⟨parsed, found, kept⟩ := (org_eq_some_iff seen).1 org
      rw [named]
      cases looked : Store.isMember v c.orgId (.str user) with
      | error fault => exact ⟨rfl, fun granted => by cases granted⟩
      | ok member =>
        obtain ⟨whole, isMember⟩ := isMember_of_looked seen parsed kept looked
        cases member with
        | true => exact ⟨rfl, fun _ => isMember.1 rfl⟩
        | false =>
          have stranger : ¬ t.HasMember c.orgId c.userId := by
            rw [named]
            exact fun known => absurd (isMember.2 known) (by decide)
          cases support : c.supportAccess with
          | true =>
            rcases unsupported o ⟨parsed, found, stranger, support⟩ with half | number
            · rw [whole] at half
              cases half
            · exact absurd kept number
          | false =>
            simp only [supportOrRefuse, support]
            exact ⟨rfl, fun granted => by cases granted⟩

end Check

/-! ## Requests -/

namespace Service

/-- The service knows, under its settings of the moment, that a request is from a caller. -/
def Knows (s : Service) (r : Request) (c : Caller) : Prop :=
  ∃ k cache, s.cache.get = (.ok k, cache) ∧ r.IsFrom s.room k.settings s.now c

section Answer
variable {s : Service} {r : Request} {page : Page} {t : Tables} {c : Caller}

theorem Knows.unique (h : s.Knows r c) {c' : Caller} (h' : s.Knows r c') : c' = c := by
  obtain ⟨k, cache, kept, isFrom⟩ := h
  obtain ⟨k', cache', kept', isFrom'⟩ := h'
  obtain ⟨same, -⟩ := Prod.mk.inj (kept.symm.trans kept')
  obtain rfl := Checked.ok.inj same
  exact isFrom.unique isFrom'

/-- Only data is answered with the status of success. -/
theorem status_stop_ne (stop : Stop) : (s.replyTo r stop.outcome).response.status ≠ 200 := by
  have unsuccessful : ∀ response : Response, response.status ≠ 200 →
      (s.replyTo r (.ok response)).response.status ≠ 200 := by
    intro response other
    cases sendable : response.canBeSent with
    | true =>
      rw [(replyTo_of_sent sendable).1]
      exact other
    | false =>
      rw [replyTo_of_unsent sendable]
      decide
  have failures : ∀ kind : Failure.Kind, kind.status ≠ 200 := by
    intro kind
    cases kind <;> decide
  cases stop with
  | failure f => exact unsuccessful _ (failures f.kind)
  | database => exact unsuccessful _ (by decide)
  | unknownMetric given => exact unsuccessful _ (show 422 ≠ 200 by decide)
  | escaped e => exact show (500 : Nat) ≠ 200 by decide

/-- A visit by support access leaves its record, and no other, and is not refused. -/
theorem answer_of_supports (shows : r.Shows s.facade.debug page)
    (seen : s.database.view.tables = .ok t) (knows : s.Knows r c) {o : Organization}
    (supports : t.Supports c o) (whole : c.userId.holdsHalf = false) (kept : o.id.KeptAsText) :
    audits ((s.answer r).2.1.map (·.event)) = [.audited c.username c.userId o.name o.id] ∧
      (s.answer r).1.response.status ≠ 401 := by
  obtain ⟨k, cache, read, isFrom⟩ := knows
  have known := identify_of_isFrom read isFrom
  obtain ⟨user, named⟩ := isFrom.userId
  obtain ⟨context, answered, left⟩ := answer_of_shows shows
  rw [named] at whole
  have access := checkAccess_of_supports seen named whole supports kept
  constructor
  · rw [left, audits_visit_of_known known seen, access]
    rfl
  · rw [answered, visit_of_known known seen, pageResult, access]
    exact status_page_ne fun stop h => Page.not_isRefusal_read seen h

/-- A visit that is not by support access of a user who can be looked for to an organization that can be
loaded leaves no such record, and tells no data to a caller who is no member. -/
theorem answer_of_unsupported (shows : r.Shows s.facade.debug page)
    (seen : s.database.view.tables = .ok t)
    (unsupported : ∀ c o, s.Knows r c → t.Supports c o →
      c.userId.holdsHalf = true ∨ ¬ o.id.KeptAsText) :
    audits ((s.answer r).2.1.map (·.event)) = [] ∧
      ∀ c, s.Knows r c → ¬ t.HasMember c.orgId c.userId →
        (s.answer r).1.response.status ≠ 200 := by
  obtain ⟨context, answered, left⟩ := answer_of_shows shows
  by_cases somebody : ∃ c, s.Knows r c
  · obtain ⟨c, knows⟩ := somebody
    obtain ⟨k, cache, kept, isFrom⟩ := id knows
    have known := identify_of_isFrom kept isFrom
    obtain ⟨user, named⟩ := isFrom.userId
    have stopped : ∀ o, t.Supports c o → Text.holdsHalf user = true ∨ ¬ o.id.KeptAsText := by
      intro o supports
      have stopped := unsupported c o knows supports
      rw [named] at stopped
      exact stopped
    obtain ⟨quiet, members⟩ := checkAccess_of_unsupported seen named stopped
    refine ⟨by rw [left, audits_visit_of_known known seen, quiet], ?_⟩
    -- The request is from this caller only, who is given access only as a member.
    intro c' knows' stranger
    obtain rfl := knows.unique knows'
    rw [answered, visit_of_known known seen, pageResult]
    cases access : (checkAccess s.database.view c').result with
    | error fault => exact status_stop_ne _
    | ok => exact absurd (members access) stranger
  · have nobody : ∀ k cache c, s.cache.get = (.ok k, cache) → ¬ r.IsFrom s.room k.settings s.now c :=
      fun k cache c kept isFrom => somebody ⟨c, k, cache, kept, isFrom⟩
    obtain ⟨stop, stopped⟩ := identify_of_nobody nobody
    refine ⟨by rw [left, audits_visit_of_stop stopped], ?_⟩
    intro c knows
    exact absurd ⟨c, knows⟩ somebody

end Answer

/-- The records of support access that a request for a page leaves are exact: one that names the
caller and the organization, as the tables have it, if the caller reads by support access, and none
otherwise. What lies between is the caller whose user has no bytes, and the organization whose identifier
is stored as a number: they leave none either. So members leave none and refused callers leave none, and
data is told to a caller who is no member only with one. -/
structure AuditsExactly (s : Service) (r : Request) (t : Tables) (reply : Reply)
    (records : List Event) : Prop where
  supported : ∀ c o, s.Knows r c → t.Supports c o → c.userId.holdsHalf = false →
    o.id.KeptAsText → records = [.audited c.username c.userId o.name o.id]
  unsupported : (∀ c o, s.Knows r c → t.Supports c o →
    c.userId.holdsHalf = true ∨ ¬ o.id.KeptAsText) → records = []
  member : ∀ c, s.Knows r c → t.HasMember c.orgId c.userId → records = []
  refused : reply.response.status = 401 → records = []
  answered : ∀ c, s.Knows r c → ¬ t.HasMember c.orgId c.userId → reply.response.status = 200 →
    records.length = 1

/-- The answer to a request for a page of tables that can be seen is audited exactly. -/
theorem auditsExactly_answer {s : Service} {r : Request} {page : Page} {t : Tables}
    (shows : r.Shows s.facade.debug page) (seen : s.database.view.tables = .ok t) :
    s.AuditsExactly r t (s.answer r).1 (audits ((s.answer r).2.1.map (·.event))) := by
  by_cases supported : ∃ c o, s.Knows r c ∧ t.Supports c o ∧ c.userId.holdsHalf = false ∧
      o.id.KeptAsText
  · obtain ⟨c, o, knows, supports, whole, kept⟩ := supported
    obtain ⟨recorded, admitted⟩ := answer_of_supports shows seen knows supports whole kept
    exact {
      supported := fun c' o' knows' supports' whole' kept' =>
        (answer_of_supports shows seen knows' supports' whole' kept').1
      unsupported := fun unsupported => by
        rcases unsupported c o knows supports with half | number
        · rw [whole] at half
          cases half
        · exact absurd kept number
      member := fun c' knows' member => by
        obtain rfl := knows.unique knows'
        exact absurd member supports.stranger
      refused := fun refused => absurd refused admitted
      answered := fun _ _ _ _ => by
        rw [recorded]
        rfl }
  · have unsupported : ∀ c o, s.Knows r c → t.Supports c o →
        c.userId.holdsHalf = true ∨ ¬ o.id.KeptAsText := by
      intro c o knows supports
      cases whole : c.userId.holdsHalf with
      | true => exact .inl rfl
      | false => exact .inr fun kept => supported ⟨c, o, knows, supports, whole, kept⟩
    obtain ⟨unrecorded, unanswered⟩ := answer_of_unsupported shows seen unsupported
    exact {
      supported := fun c o knows supports whole kept =>
        absurd ⟨c, o, knows, supports, whole, kept⟩ supported
      unsupported := fun _ => unrecorded
      member := fun _ _ _ => unrecorded
      refused := fun _ => unrecorded
      answered := fun c knows stranger success => absurd success (unanswered c knows stranger) }

/-! ## Runs -/

/-- The request that a step makes, and the service that it is made of. A request with a token that
is ordered is made only if the token is. -/
def made? (s : Service) : ServiceStep → Option (Service × Request)
  | .request r none => some (s, r)
  | .request r (some order) =>
    match TokenSession.create { cache := s.cache, room := s.room, now := s.now } order with
    | (.ok token, session) => some ({ s with cache := session.cache }, withBearer r token)
    | (.error _, _) => none
  | _ => none

theorem step_of_made {s s' : Service} {x : ServiceStep} {r : Request}
    (made : s.made? x = some (s', r)) : s.step x = s'.request r ∧ s'.setup = s.setup := by
  unfold made? at made
  split at made
  · obtain ⟨rfl, rfl⟩ := Prod.mk.inj (Option.some.inj made)
    exact ⟨rfl, rfl⟩
  · next r' order =>
    split at made
    · next token session created =>
      obtain ⟨rfl, rfl⟩ := Prod.mk.inj (Option.some.inj made)
      refine ⟨?_, rfl⟩
      show s.requestWith r' (some order) = _
      rw [requestWith, created]
    · cases made
  · cases made

end Service

/-- The records of support access in the report of a step. -/
def StepReport.audits (report : StepReport) : List Event :=
  Runboard.audits (report.recorded.map (·.event))

namespace Service

/-- A journal that hears the ordinary events of access keeps every record of support access. -/
theorem audits_recorded {s : Service} (hears : s.Hears) (entries : List Entry) :
    audits ((s.recorded entries).map (·.event)) = audits (entries.map (·.event)) := by
  rw [audits, audits, List.filter_map, List.filter_map, recorded, List.filter_filter]
  refine congrArg (List.map _) (List.filter_congr fun e _ => ?_)
  by_cases audit : e.event.IsAudit
  · have heard : s.setup.enabled e.event.logger e.event.level = true := by
      rw [audit.1, audit.2]
      exact hears
    simp [audit, heard]
  · simp [audit]

/-- The report of a step that makes a request has the answer and the records of the request. -/
theorem report_of_made {s s' : Service} (hears : s.Hears) {x : ServiceStep} {r : Request}
    (made : s.made? x = some (s', r)) :
    (s.report x).1.answer = .ok (.reply (s'.answer r).1) ∧
      (s.report x).1.audits = audits ((s'.answer r).2.1.map (·.event)) := by
  obtain ⟨step, setup⟩ := step_of_made made
  have heard : (s'.request r).2.Hears := by
    show s'.setup.enabled accessLogger Level.info = true
    rw [setup]
    exact hears
  unfold report
  rw [step]
  exact ⟨rfl, audits_recorded heard _⟩

/-- In a run of a service that hears, every request for a page of tables that can be seen is audited
exactly, and a request that is shown no page leaves no record of support access. -/
theorem audits_of_run {s : Service} (hears : s.Hears) (before after : List ServiceStep)
    {x : ServiceStep} {s' : Service} {r : Request}
    (made : (s.run before).2.made? x = some (s', r)) :
    ∃ report reply, (s.run (before ++ x :: after)).1[before.length]? = some report ∧
      report.answer = .ok (.reply reply) ∧
      (∀ page t, r.Shows s'.facade.debug page → s'.database.view.tables = .ok t →
        s'.AuditsExactly r t reply report.audits) ∧
      ((∀ page, ¬ r.Shows s'.facade.debug page) → report.audits = []) := by
  obtain ⟨answered, recorded⟩ := report_of_made (hears_run hears before) made
  refine ⟨_, _, report_of_run s before after x, answered, ?_, ?_⟩
  · intro page t shows seen
    rw [recorded]
    exact auditsExactly_answer shows seen
  · intro hidden
    rw [recorded, entries_of_shows_nothing hidden]
    rfl

theorem supports_acme {user : String} (stranger : user ≠ "u-1") :
    acme.Supports (Token.namedCaller user "" acmeId true) ⟨⟨0xa⟩, "Acme"⟩ where
  named := acmeId_parsed
  found := (Tables.org?_eq acmeId_keptAsText).trans rfl
  stranger := by
    rintro ⟨u, -, m, hm, -, same⟩
    obtain rfl := List.mem_singleton.1 hm
    exact stranger (Json.str.inj same).symm
  support := rfl

theorem hears_plainService (t : Tables) : (plainService t).Hears := by
  show (freshSetup.configured "production" Level.info).enabled accessLogger Level.info = true
  decide

/-- A visit by support access is recorded in its place. -/
theorem audits_of_run_support :
    ∃ report, ((plainService acme).run
        ([.ask (.org (.str acmeId))] ++
          .request (plainVisit "/api/v1/dashboard/apps" "u-2" acmeId true) none ::
          [.shutDown])).1[1]? = some report ∧
      report.audits = [.audited (.str "u-2") (.str "u-2") "Acme" ⟨0xa⟩] := by
  have isFrom := isFrom_acmeVisit "/api/v1/dashboard/apps" "u-2" true (by decide) (by decide)
  have visits : (plainVisit "/api/v1/dashboard/apps" "u-2" acmeId true).Visits .apps :=
    visits_withBearer rfl rfl trivial
  have before : ((plainService acme).run [.ask (.org (.str acmeId))]).2 = plainService acme := rfl
  obtain ⟨report, reply, place, -, pages, -⟩ := audits_of_run (hears_plainService acme)
    [.ask (.org (.str acmeId))] [.shutDown]
    (x := .request (plainVisit "/api/v1/dashboard/apps" "u-2" acmeId true) none)
    (congrArg (made? · _) before)
  have seen := congrArg TableView.tables (view_plainService acme)
  have audited := (pages .apps acme (visits.shows _) seen).supported _ _
    ⟨{ settings := plainSettings }, _, rfl, isFrom⟩ (supports_acme (by decide)) (by decide)
    acmeId_keptAsText
  exact ⟨report, place, audited⟩

/-- A visit by support access of a user who is half a character. -/
def halfSupportVisit : Request :=
  plainVisit "/api/v1/dashboard/apps" (String.singleton (ofHalf 0xd800)) acmeId true

/-- A user who is half a character has support access and is no member, and yet no record of the
visit is left. -/
theorem not_audited_halfSupportVisit :
    ∃ c, halfSupportVisit.Visits .apps ∧ (plainService acme).Hears ∧
      (plainService acme).database.view.tables = .ok acme ∧
      (plainService acme).Knows halfSupportVisit c ∧ acme.Supports c ⟨⟨0xa⟩, "Acme"⟩ ∧
      ((plainService acme).report (.request halfSupportVisit none)).1.audits = [] ∧
      ((plainService acme).answer halfSupportVisit).1.response = .internalError := by
  have joined : Json.IsJoined (String.singleton (ofHalf 0xd800)).toList := by
    rw [String.toList_singleton]
    exact .singleton _
  have isFrom : halfSupportVisit.IsFrom plainRoom plainSettings (plainService acme).now
      (Token.namedCaller (String.singleton (ofHalf 0xd800)) "" acmeId true) :=
    isFrom_plainVisit "/api/v1/dashboard/apps" _ acmeId true
      ⟨joined, Json.isJoined_of_holdsHalf (by decide)⟩ (by decide) (by decide)
  have visits : halfSupportVisit.Visits .apps := visits_withBearer rfl rfl trivial
  have seen := congrArg TableView.tables (view_plainService acme)
  have kept : (plainService acme).cache.get =
      (.ok { settings := plainSettings }, (plainService acme).cache) := rfl
  have supports := @supports_acme (String.singleton (ofHalf 0xd800)) (by decide)
  have half : (Json.str (String.singleton (ofHalf 0xd800))).holdsHalf = true := by decide
  have chokes : acme.Chokes (Token.namedCaller (String.singleton (ofHalf 0xd800)) "" acmeId
      true) := .inl ⟨⟨_, acmeId_parsed, _, List.mem_singleton.2 rfl, rfl⟩, half⟩
  have knows : (plainService acme).Knows halfSupportVisit _ := ⟨_, _, kept, isFrom⟩
  have unsupported : ∀ c o, (plainService acme).Knows halfSupportVisit c → acme.Supports c o →
      c.userId.holdsHalf = true ∨ ¬ o.id.KeptAsText := by
    intro c o knows' _
    obtain rfl := knows.unique knows'
    exact .inl half
  refine ⟨_, visits, hears_plainService acme, seen, knows, supports, ?_, ?_⟩
  · rw [(report_of_made (hears_plainService acme) rfl).2]
    exact (answer_of_unsupported (visits.shows _) seen unsupported).1
  · exact (answer_of_chokes visits (identify_of_isFrom kept isFrom) seen rfl chokes).1

end Service

end Runboard
