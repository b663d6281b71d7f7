import Runboard.Proofs.OrgNames
import Runboard.Proofs.ReportAnswer
import Runboard.Proofs.Stranded

/-!
# `Runboard.Proofs.Envelope`: answers that have a form

A visit to a page is answered in one of two forms, by data or by a reason, whatever the state of the
database: it may not be opened yet, there may be no engine for its address, its tables may be missing,
and the organization may have no counters. The exceptions are the visits that are stranded, and these
are exactly those that the database, the texts of the caller or the page strand.

The reasons that name an organization can be told, although they repeat what the token says: whatever
names an identifier has bytes.

## Contents

* `Reply.IsEnvelope`, `Reply.IsBare`: answers with a form and without one;
* `Service.envelope_of_data`, `envelope_of_failure`, `bare_of_escaped`, `bare_of_half`: ends of visits;
* `Service.bare_of_strands`, `envelope_of_not_strands`, `bare_of_caller`, `envelope_of_caller`: visits of
  callers;
* `Engine.Foreseen`, `Tables.AreWhole`, `Service.IsOrdinary`, `IsOrdinary.not_strands`: services in which
  no visit is stranded;
* `Service.envelope_iff`: which visits are answered in a form.
-/

namespace Runboard

open Runboard.Text

/-! ## Forms of answers -/

/-- The answer tells data, and no reason. -/
def Reply.TellsData (y : Reply) : Prop :=
  y.response.status = 200 ∧
    ∃ data, y.response.body = .json (.obj [("success", .bool true), ("data", data)])

/-- The answer tells a reason that has words, and no data. -/
def Reply.TellsReason (y : Reply) : Prop :=
  (y.response.status = 401 ∨ y.response.status = 500) ∧ ∃ reason, reason ≠ "" ∧
    y.response.body = .json (.obj [("success", .bool false), ("reason", .str reason)])

/-- No fault has escaped, and the answer tells either data or a reason. -/
def Reply.IsEnvelope (y : Reply) : Prop := y.escape.isNone = true ∧ (y.TellsData ∨ y.TellsReason)

/-- A fault has escaped, and the answer tells nothing. -/
def Reply.IsBare (y : Reply) : Prop := y.escape.isSome = true ∧ y.response = .internalError

theorem Reply.IsBare.not_isEnvelope {y : Reply} (h : y.IsBare) : ¬ y.IsEnvelope := by
  intro envelope
  have escaped := h.1
  rw [← Option.not_isNone, envelope.1] at escaped
  cases escaped

/-- A failure is the caller's or the service's. -/
theorem Failure.status_eq (f : Failure) : f.status = 401 ∨ f.status = 500 := by
  cases f with
  | general reason => exact .inr rfl
  | authentication reason => exact .inl rfl
  | access reason => exact .inl rfl
  | orgNotFound org => exact .inl rfl
  | statisticsNotFound org => exact .inr rfl

/-- What a page shows are integers under names, and those have bytes. -/
theorem holdsHalf_data (data : PageData) : (dataEnvelope data.json).holdsHalf = false := by
  cases data with
  | executions report => exact holdsHalf_report report
  | _ => rfl

namespace Service

section Forms
variable {s : Service} {r : Request}

theorem escape_of_sent {response : Response} (whole : response.canBeSent = true) :
    (s.replyTo r (.ok response)).escape.isNone = true := by
  have passed : (Except.ok response).bind (sent (originHeaders s.facade.origins r)) =
      .ok (response.withHeaders (originHeaders s.facade.origins r)) := if_pos whole
  rw [replyTo, passed]
  rfl

theorem envelope_of_data (data : PageData) : (s.replyTo r (pageOutcome (.ok data))).IsEnvelope := by
  have whole := holdsHalf_data data
  obtain ⟨status, body⟩ := replyTo_data (s := s) (r := r) whole
  refine ⟨escape_of_sent ?_, .inl ⟨status, data.json, body⟩⟩
  show (!(dataEnvelope data.json).holdsHalf) = true
  rw [whole]
  rfl

/-- A reason that has words and bytes is told in its form. -/
theorem envelope_of_reason {status : Nat} {reason : String} (failed : status = 401 ∨ status = 500)
    (words : reason ≠ "") (whole : holdsHalf reason = false) :
    (s.replyTo r (.ok (.json status (Failure.envelopeOf (.str reason))))).IsEnvelope := by
  have sendable : (Response.json status (Failure.envelopeOf (.str reason))).canBeSent = true := by
    show (!(Failure.envelopeOf (.str reason)).holdsHalf) = true
    rw [holdsHalf_envelopeOf, whole]
    rfl
  obtain ⟨same, body⟩ := replyTo_of_sent (s := s) (r := r) sendable
  refine ⟨escape_of_sent sendable, .inr ⟨?_, reason, words, body⟩⟩
  rw [same]
  exact failed

theorem envelope_of_failure {f : Failure} {reason : String} (stated : f.reason = .str reason)
    (words : reason ≠ "") (whole : holdsHalf reason = false) :
    (s.replyTo r (Stop.failure f).outcome).IsEnvelope := by
  have outcome : (Stop.failure f).outcome =
      .ok (.json f.status (Failure.envelopeOf (.str reason))) := by
    rw [Stop.outcome, Failure.envelope, stated]
  rw [outcome]
  exact envelope_of_reason f.status_eq words whole

/-- That an organization is missing is told by what names it. -/
theorem envelope_of_missing {org : Json} (whole : holdsHalf org.display = false) :
    (s.replyTo r (Stop.failure (.orgNotFound org)).outcome).IsEnvelope := by
  refine envelope_of_failure (f := .orgNotFound org) rfl ?_ ?_
  · rw [String.append_assoc]
    exact append_ne_empty (by decide) _
  · rw [holdsHalf_missing]
    exact whole

theorem envelope_of_database : (s.replyTo r Stop.database.outcome).IsEnvelope :=
  envelope_of_reason (.inr rfl) (by decide) (by decide)

theorem bare_of_escaped (e : Escape) : (s.replyTo r (Stop.escaped e).outcome).IsBare := ⟨rfl, rfl⟩

theorem bare_of_half {f : Failure} {reason : String} (stated : f.reason = .str reason)
    (half : holdsHalf reason = true) : (s.replyTo r (Stop.failure f).outcome).IsBare := by
  rw [replyTo_of_halfFailure stated half]
  exact ⟨rfl, rfl⟩

end Forms

/-! ## Visits of callers -/

section Ends
variable {s : Service} {r : Request} {v : TableView} {settings : Settings} {c : Caller}
  {page : Page} {user : String}

/-- A check of access that has to load a number ends in a fault that nothing answers. -/
theorem bare_of_number {t : Tables} (seen : v.tables = .ok t) (named : c.userId = .str user)
    (number : t.LoadsNumber c) :
    (s.replyTo r (pageOutcome (pageResult settings v c page))).IsBare := by
  obtain ⟨fault, escape, stopped, escaped⟩ := checkAccess_of_number seen named number
  rw [pageResult, stopped]
  simp only [escaped]
  exact bare_of_escaped escape

theorem bare_of_strands (known : page.IsKnown) (named : c.userId = .str user)
    (strands : v.Strands settings c page) :
    (s.replyTo r (pageOutcome (pageResult settings v c page))).IsBare := by
  cases strands with
  | org nameless half =>
    rw [pageResult, checkAccess_of_nameless nameless]
    refine bare_of_half (f := .orgNotFound c.orgId) rfl ?_
    rw [holdsHalf_missing]
    exact half
  | connection present refused =>
    rw [pageResult, checkAccess_of_unseen present refused]
    exact bare_of_escaped _
  | @user t seen present half =>
    rw [named] at half
    by_cases number : t.HasNumberedOrg c.orgId
    · exact bare_of_number seen named (.inl number)
    · obtain ⟨fault, unread⟩ := checkAccess_of_half seen present number named half
      rw [pageResult, unread]
      exact bare_of_escaped _
  | stored seen number => exact bare_of_number seen named number
  | @page t seen admitted whole strands =>
    rw [named] at whole
    by_cases number : t.LoadsNumber c
    · exact bare_of_number seen named number
    rcases checkAccess_of_whole seen admitted.1 named whole number with ⟨-, given⟩ | ⟨refused, -⟩
    · obtain ⟨fault, stopped⟩ := Page.result_of_strands seen known strands
      rw [pageResult, given]
      simp only [stopped]
      exact bare_of_escaped fault
    · exact absurd admitted refused

theorem envelope_of_not_strands (known : page.IsKnown) (named : c.userId = .str user)
    (spared : ¬ v.Strands settings c page) :
    (s.replyTo r (pageOutcome (pageResult settings v c page))).IsEnvelope := by
  cases parsed : Uuid.ofJson? c.orgId with
  | none =>
    have whole : holdsHalf c.orgId.display = false :=
      Bool.of_not_eq_true fun half => spared (.org parsed half)
    rw [pageResult, checkAccess_of_nameless parsed]
    exact envelope_of_missing whole
  | some u =>
    -- What names an identifier can be told.
    have whole := Uuid.whole_of_ofJson? parsed
    cases seen : v.tables with
    | error fault =>
      rw [pageResult, checkAccess_of_unseen parsed seen]
      cases fault with
      | connect fault => exact absurd (.connection parsed seen) spared
      | unreachable => exact envelope_of_database
    | ok t =>
      have clear : ¬ t.LoadsNumber c := fun number => spared (.stored seen number)
      by_cases present : t.HasOrg c.orgId
      · have bytes : holdsHalf user = false :=
          Bool.of_not_eq_true fun half => spared (.user seen present (named ▸ half))
        rcases checkAccess_of_whole seen present named bytes clear with ⟨admitted, given⟩ | ⟨-, given⟩
        · have spared : ¬ page.Strands settings v t c.orgId :=
            fun strands => spared (.page seen admitted (named ▸ bytes) strands)
          rw [pageResult, given]
          rcases Page.result_of_not_strands seen known spared with ⟨data, given⟩ | uncounted
          · simp only [given]
            exact envelope_of_data data
          · simp only [uncounted]
            refine envelope_of_failure (f := .statisticsNotFound c.orgId) rfl
              (append_ne_empty (by decide) _) ?_
            rw [holdsHalf_append, whole]
            decide
        · rw [pageResult, given]
          exact envelope_of_failure (f := accessFailure) rfl (by decide) (by decide)
      · rw [pageResult, checkAccess_of_missing seen present fun number => clear (.inl number)]
        exact envelope_of_missing whole

end Ends

section Callers
variable {s : Service} {r : Request} {page : Page} {k : KeptSettings} {cache : SettingsCache}
  {c : Caller}

/-- A visit of a caller comes to what is read of the page under the settings of the moment. -/
theorem answer_of_caller (visits : r.Visits page) (kept : s.cache.get = (.ok k, cache))
    (isFrom : r.IsFrom s.room k.settings s.now c) :
    (s.answer r).1 = s.replyTo r (pageOutcome
      (readPage k.settings c page s.database (identify s.room s.cache s.now r).2).1.result) := by
  obtain ⟨context, answered⟩ := answer_of_visits (s := s) visits
  rw [answered, outcome_visit (identify_of_isFrom kept isFrom)]

theorem bare_of_caller (visits : r.Visits page) (known : page.IsKnown)
    (kept : s.cache.get = (.ok k, cache)) (isFrom : r.IsFrom s.room k.settings s.now c)
    (strands : s.Strands k.settings c page) : (s.answer r).1.IsBare := by
  have ready := s.database.ready_found (get_identify s.room kept s.now r)
  obtain ⟨user, named⟩ := isFrom.userId
  rw [answer_of_caller visits kept isFrom]
  cases strands with
  | opening unmade foreign =>
    rw [unmade] at ready
    rw [readPage, ready]
    show (s.replyTo r (Stop.ofOpen (.engine _)).outcome).IsBare
    simp only [Stop.ofOpen, foreign, Bool.false_eq_true, ↓reduceIte]
    exact bare_of_escaped _
  | visit found strands =>
    rw [found] at ready
    obtain ⟨events, after, ready⟩ := ready
    rw [result_readPage ready]
    exact bare_of_strands known named strands

theorem envelope_of_caller (visits : r.Visits page) (known : page.IsKnown)
    (kept : s.cache.get = (.ok k, cache)) (isFrom : r.IsFrom s.room k.settings s.now c)
    (spared : ¬ s.Strands k.settings c page) : (s.answer r).1.IsEnvelope := by
  have ready := s.database.ready_found (get_identify s.room kept s.now r)
  obtain ⟨user, named⟩ := isFrom.userId
  rw [answer_of_caller visits kept isFrom]
  cases found : s.database.found k.settings.engineUrl with
  | error fault =>
    have own : fault.isDatabaseError = true :=
      Bool.of_not_eq_false fun foreign => spared (.opening found foreign)
    rw [found] at ready
    rw [readPage, ready]
    show (s.replyTo r (Stop.ofOpen (.engine fault)).outcome).IsEnvelope
    simp only [Stop.ofOpen, own, ↓reduceIte]
    exact envelope_of_database
  | ok d =>
    rw [found] at ready
    obtain ⟨events, after, ready⟩ := ready
    rw [result_readPage ready]
    exact envelope_of_not_strands known named fun strands => spared (.visit found strands)

end Callers

end Service

/-! ## Ordinary services -/

/-- The connections of the engine are not refused, and leave days as they are. -/
def Engine.IsOrdinary (e : Engine) : Prop :=
  e.connection.fault? = none ∧ e.connection.convertsDays = false

/-- The addresses that are foreseen: one of which an ordinary engine is made, as for a database in
memory; a text that is no address; and an address of an unknown dialect. -/
inductive Engine.Foreseen (url : String) : Prop
  | made {e : Engine} (made : Engine.make url = .ok e) (ordinary : e.IsOrdinary)
  | notAddress (unparsed : Address.parse? url = none)
  | unknown {a : Address} {port : Option Int} (parsed : Address.parse? url = some a)
      (numbered : Engine.portNumber a = .ok port) (unknown : driverSupport a.driver = .error .unknown)

/-- All counters of the tables are integers. -/
structure Tables.AreWhole (t : Tables) : Prop where
  statistics : ∀ row ∈ t.statistics, ∃ today month, row.Counts today month
  days : ∀ r ∈ t.days, ∃ c : Counters, r.counters = c.ofWhole

/-- A database whose engine is ordinary, if it has one, whose counters are integers, and whose identifiers
are stored as texts. -/
structure Database.IsOrdinary (d : Database) : Prop where
  engine : ∀ e, d.engine = some e → e.IsOrdinary
  counters : ∀ t, d.tables = some t → t.AreWhole
  texts : ∀ t, d.tables = some t → t.KeepsTexts

/-- A service with an ordinary database, under settings with an address that is foreseen, a limit of 64
bits, and positive lengths. -/
structure Service.IsOrdinary (s : Service) (settings : Settings) : Prop where
  database : s.database.IsOrdinary
  address : Engine.Foreseen settings.engineUrl
  limit : fitsWord settings.maxAppCount = true
  week : 0 < settings.weekLength
  month : 0 < settings.monthLength

/-- No engine is made for a foreseen address, for a reason of the database layer, or an ordinary
one. -/
theorem Engine.make_of_foreseen {url : String} (h : Engine.Foreseen url) :
    (∃ fault, make url = .error fault ∧ fault.isDatabaseError = true) ∨
      ∃ e, make url = .ok e ∧ e.IsOrdinary := by
  cases h with
  | made made ordinary => exact .inr ⟨_, made, ordinary⟩
  | notAddress unparsed =>
    rw [make, unparsed]
    exact .inl ⟨_, rfl, rfl⟩
  | unknown parsed numbered unknown =>
    refine .inl ?_
    rw [make, parsed]
    simp only [numbered, unknown]
    split
    · exact ⟨_, rfl, rfl⟩
    · exact ⟨_, rfl, rfl⟩

namespace Database

variable {d d' : Database}

theorem isOrdinary_opened {e : Engine} (h : e.IsOrdinary) : (opened e).IsOrdinary where
  engine := by
    intro e' same
    rw [← Option.some.inj same]
    exact h
  counters := by
    intro t none
    cases none
  texts := by
    intro t none
    cases none

theorem isOrdinary_closed : closed.IsOrdinary where
  engine := by
    intro e none
    cases none
  counters := by
    intro t none
    cases none
  texts := by
    intro t none
    cases none

/-- An ordinary database does not refuse the connection. -/
theorem IsOrdinary.not_connect (h : d.IsOrdinary) (fault : ConnectFault) :
    d.view.tables ≠ .error (.connect fault) := by
  intro refused
  cases engine : d.engine with
  | none =>
    simp only [view, reach, engine] at refused
    cases refused
  | some e =>
    simp only [view, reach, engine, (h.engine e engine).1] at refused
    cases storage : e.connection.storage with
    | elsewhere =>
      rw [storage] at refused
      cases refused
    | memory readOnly =>
      rw [storage] at refused
      cases tables : d.tables <;>
        · rw [tables] at refused
          cases refused

theorem IsOrdinary.readsDays (h : d.IsOrdinary) : d.view.readsDays = true := by
  show d.engine.all _ = true
  cases engine : d.engine with
  | none => rfl
  | some e =>
    rw [Option.all_some, (h.engine e engine).2]
    rfl

/-- At a foreseen address an ordinary database is found as one, or is not opened for a reason of the
database layer. -/
theorem IsOrdinary.found (h : d.IsOrdinary) {url : String} (address : Engine.Foreseen url) :
    (∀ fault, d.found url = .error fault → fault.isDatabaseError = true) ∧
      ∀ d', d.found url = .ok d' → d'.IsOrdinary := by
  unfold Database.found
  split
  · refine ⟨fun _ opened => ?_, fun d' opened => ?_⟩
    · cases opened
    · rw [← Except.ok.inj opened]
      exact h
  · rcases Engine.make_of_foreseen address with ⟨fault, unmade, own⟩ | ⟨e, made, ordinary⟩
    · rw [unmade]
      refine ⟨fun fault' same => ?_, fun d' opened => ?_⟩
      · rw [← Except.error.inj same]
        exact own
      · cases opened
    · rw [made]
      refine ⟨fun fault failed => ?_, fun d' found => ?_⟩
      · cases failed
      · rw [← Except.ok.inj found]
        exact isOrdinary_opened ordinary

end Database

namespace Page

/-- Integers are summed and shown, in windows of any length. -/
theorem figures?_of_whole {settings : Settings} {t : Tables} (whole : t.AreWhole)
    (week : 0 < settings.weekLength) (month : 0 < settings.monthLength) {org : Json}
    {s : Snapshot Amount} (found : (Uuid.ofJson? org).bind (snapshotFor? t) = some s) {page : Page}
    (shows : page.ShowsFigures) (known : page.IsKnown) :
    page.figures? settings s ≠ none := by
  obtain ⟨u, -, snapshot⟩ := Option.bind_eq_some_iff.1 found
  obtain ⟨row, counted, -⟩ := Option.map_eq_some_iff.1 snapshot
  obtain ⟨today, months, counts⟩ := whole.statistics row (List.mem_of_find?_eq_some counted)
  have days : ∀ r ∈ t.daysOf u, r.counters = (Service.wholeOf r).ofWhole := by
    intro r hr
    obtain ⟨c, same⟩ := whole.days r (List.mem_filter.1 hr).1
    rw [Service.wholeOf, same, Counters.mapM_ofWhole, Option.getD_some]
  obtain ⟨s', snapshot', -⟩ := snapshotFor?_of_counts counted counts days
  obtain rfl := Option.some.inj (snapshot.symm.trans snapshot')
  cases page with
  | workflows => exact shows.elim
  | apps => exact shows.elim
  | apiUsage => exact Option.some_ne_none _
  | executions =>
    rw [figures?, reportFigures_ofWhole, report, dailySeries_eq s' month]
    exact Option.some_ne_none _
  | chart metric =>
    obtain ⟨m, named⟩ := Option.ne_none_iff_exists'.1 known
    rw [figures?, named]
    simp only [Option.bind_eq_bind, Option.bind_some]
    rw [chartFigures_ofWhole, chart_eq s' m week]
    exact Option.some_ne_none _

end Page

namespace Service

variable {s : Service} {settings : Settings} {c : Caller} {page : Page}

/-- An ordinary service has a prepared answer to every caller whose texts have bytes. -/
theorem IsOrdinary.not_strands (h : s.IsOrdinary settings) (known : page.IsKnown)
    (user : c.userId.holdsHalf = false) (org : holdsHalf c.orgId.display = false) :
    ¬ s.Strands settings c page := by
  obtain ⟨unmade, opened⟩ := h.database.found h.address
  intro strands
  cases strands with
  | opening failed foreign => exact absurd (unmade _ failed) (Bool.eq_false_iff.1 foreign)
  | visit found strands =>
    have ordinary := opened _ found
    cases strands with
    | org nameless half => exact absurd half (Bool.eq_false_iff.1 org)
    | connection named refused => exact ordinary.not_connect _ refused
    | user seen present half => exact absurd half (Bool.eq_false_iff.1 user)
    | stored seen number =>
      have texts := ordinary.texts _ (Database.tables_of_view seen)
      exact Tables.not_loadsNumber texts.orgs texts.members c number
    | page seen admitted whole strands =>
      cases strands with
      | limit large => exact absurd h.limit (Bool.eq_false_iff.1 large)
      | stored number =>
        exact number (Page.areTexts_loadedIds (ordinary.texts _ (Database.tables_of_view seen)) _ _ _)
      | days shows found unread completed =>
        exact absurd ordinary.readsDays (Bool.eq_false_iff.1 unread)
      | figures shows found unshown =>
        exact Page.figures?_of_whole (ordinary.counters _ (Database.tables_of_view seen)) h.week
          h.month found shows known unshown

variable {r : Request}

/-- A visit to a page is answered by an envelope exactly if it is not from a caller whose visit is
stranded; the answer to such a caller is bare. No visit to an ordinary service is stranded but for a
caller with half a character in the user or in the organization: whether or not there is an engine, or
one can be made, whether or not there are tables, whatever integers they hold, and whatever identifiers
that are stored as texts. -/
theorem envelope_iff (visits : r.Visits page) (known : page.IsKnown) {k : KeptSettings}
    {cache : SettingsCache} (kept : s.cache.get = (.ok k, cache))
    (readable : r.IsReadable s.room k.settings s.now) :
    ((s.answer r).1.IsEnvelope ↔
      ¬ ∃ c, r.IsFrom s.room k.settings s.now c ∧ s.Strands k.settings c page) ∧
    ((∃ c, r.IsFrom s.room k.settings s.now c ∧ s.Strands k.settings c page) →
      (s.answer r).1.IsBare) ∧
    (s.IsOrdinary k.settings →
      (∀ c, r.IsFrom s.room k.settings s.now c →
        c.userId.holdsHalf = false ∧ holdsHalf c.orgId.display = false) →
      (s.answer r).1.IsEnvelope) := by
  have envelope : (¬ ∃ c, r.IsFrom s.room k.settings s.now c ∧ s.Strands k.settings c page) →
      (s.answer r).1.IsEnvelope := by
    intro spared
    by_cases somebody : ∃ c, r.IsFrom s.room k.settings s.now c
    · obtain ⟨c, isFrom⟩ := somebody
      exact envelope_of_caller visits known kept isFrom fun strands => spared ⟨c, isFrom, strands⟩
    · obtain ⟨reason, words, whole, answered⟩ := answer_of_nobody visits kept readable somebody
      rw [answered]
      exact envelope_of_failure rfl words whole
  have bare : (∃ c, r.IsFrom s.room k.settings s.now c ∧ s.Strands k.settings c page) →
      (s.answer r).1.IsBare := by
    rintro ⟨c, isFrom, strands⟩
    exact bare_of_caller visits known kept isFrom strands
  refine ⟨⟨fun enveloped stranded => (bare stranded).not_isEnvelope enveloped, envelope⟩, bare, ?_⟩
  intro ordinary texts
  refine envelope ?_
  rintro ⟨c, isFrom, strands⟩
  obtain ⟨user, org⟩ := texts c isFrom
  exact ordinary.not_strands known user org strands

/-- A database in memory without counters is ordinary. -/
theorem isOrdinary_inMemory {t : Tables} (statistics : t.statistics = []) (days : t.days = [])
    (texts : t.KeepsTexts) :
    (Database.inMemory.withTables (some t)).IsOrdinary where
  engine := by
    obtain ⟨e, there, ordinary⟩ : ∃ e, Database.inMemory.engine = some e ∧ e.IsOrdinary :=
      ⟨_, rfl, rfl, rfl⟩
    intro e' same
    rw [← Option.some.inj (there.symm.trans same)]
    exact ordinary
  counters := by
    intro t' same
    obtain rfl := Option.some.inj same
    exact ⟨by simp [statistics], by simp [days]⟩
  texts := by
    intro t' same
    exact Option.some.inj same ▸ texts

/-- The usage of an organization without counters is answered by an envelope, to a member and where the
database is not open yet. -/
theorem envelope_iff_acme :
    ((plainService acme).answer
      (plainVisit "/api/v1/dashboard/api-usage" "u-1" acmeId false)).1.IsEnvelope ∧
    (((plainService acme).withDatabase .closed).answer
      (plainVisit "/api/v1/dashboard/api-usage" "u-1" acmeId false)).1.IsEnvelope := by
  have isFrom := isFrom_acmeVisit "/api/v1/dashboard/api-usage" "u-1" false (by decide) (by decide)
  have visits : (plainVisit "/api/v1/dashboard/api-usage" "u-1" acmeId false).Visits .apiUsage :=
    visits_withBearer rfl rfl trivial
  obtain ⟨e, made, engine⟩ : ∃ e, Engine.make plainSettings.engineUrl = .ok e ∧ e.IsOrdinary :=
    ⟨_, rfl, rfl, rfl⟩
  have enveloped : ∀ d : Database, d.IsOrdinary → (((plainService acme).withDatabase d).answer
      (plainVisit "/api/v1/dashboard/api-usage" "u-1" acmeId false)).1.IsEnvelope := by
    intro d database
    have ordinary : ((plainService acme).withDatabase d).IsOrdinary plainSettings :=
      { database := database
        address := .made made engine
        limit := by decide
        week := by decide
        month := by decide }
    refine (envelope_iff (s := (plainService acme).withDatabase d) visits trivial
      (k := { settings := plainSettings }) rfl isFrom.isReadable).2.2 ordinary fun c from' => ?_
    obtain rfl := isFrom.unique from'
    exact ⟨by decide, by decide⟩
  exact ⟨enveloped _ (isOrdinary_inMemory rfl rfl keepsTexts_acme), enveloped _ Database.isOrdinary_closed⟩

/-- A service with an organization and a member in memory, under an environment with a limit for
apps. -/
def limitService (limit : String) : Service :=
  { plainService acme with
    cache :=
      { environment := [("DATABASE_URL", "sqlite+aiosqlite:///:memory:"),
          ("SECRET_KEY", plainSettings.secretKey), ("MAX_APP_COUNT", limit)]
        secrets := plainSecrets } }

/-- A limit of more than 64 bits is positive and accepted, and a member who visits the apps is answered
by a bare error. -/
theorem not_envelope_limitService : ∃ k cache,
    (limitService "9223372036854775808").cache.get = (.ok k, cache) ∧
      k.settings.maxAppCount = 9223372036854775808 ∧
      (plainVisit "/api/v1/dashboard/apps" "u-1" acmeId false).Visits .apps ∧
      (∃ c, (plainVisit "/api/v1/dashboard/apps" "u-1" acmeId false).IsFrom plainRoom k.settings
        (limitService "9223372036854775808").now c) ∧
      ((limitService "9223372036854775808").answer
        (plainVisit "/api/v1/dashboard/apps" "u-1" acmeId false)).1.IsBare ∧
      ¬ ((limitService "9223372036854775808").answer
        (plainVisit "/api/v1/dashboard/apps" "u-1" acmeId false)).1.IsEnvelope := by
  obtain ⟨k, cache, kept, secret, limit⟩ : ∃ k cache,
      (limitService "9223372036854775808").cache.get = (.ok k, cache) ∧
      k.settings.secretKey = plainSettings.secretKey ∧
      k.settings.maxAppCount = 9223372036854775808 := ⟨_, _, rfl, rfl, rfl⟩
  have visits : (plainVisit "/api/v1/dashboard/apps" "u-1" acmeId false).Visits .apps :=
    visits_withBearer rfl rfl trivial
  obtain ⟨token, header, named⟩ := isFrom_acmeVisit "/api/v1/dashboard/apps" "u-1" false (by decide)
    (by decide)
  have isFrom : (plainVisit "/api/v1/dashboard/apps" "u-1" acmeId false).IsFrom plainRoom k.settings
      (limitService "9223372036854775808").now (Token.namedCaller "u-1" "" acmeId false) :=
    ⟨token, header, secret ▸ named⟩
  have admitted := (admits_acmeMember (t := acme) rfl rfl).1
  have strands : (limitService "9223372036854775808").Strands k.settings
      (Token.namedCaller "u-1" "" acmeId false) .apps := by
    refine .visit (d := (plainService acme).database) rfl ?_
    refine .page (t := acme) rfl admitted (by decide) (.limit ?_)
    rw [limit]
    decide
  have bare := bare_of_caller visits trivial kept isFrom strands
  exact ⟨k, cache, kept, limit, visits, ⟨_, isFrom⟩, bare, bare.not_isEnvelope⟩

end Service

end Runboard
