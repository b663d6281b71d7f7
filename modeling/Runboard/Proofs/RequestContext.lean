import Runboard.Proofs.SupportAudit

/-!
# `Runboard.Proofs.RequestContext`: records say what is their request's own

While a request is handled, its identifier stands in the context; once its token is accepted, the
organization and the user of the token stand there too. The setters of a context leave what they are
not given, so what an earlier request left there would show in the records of a later one until that
one has a caller. Nothing is left: whatever comes of a request, the context is cleared in the end, so
that the invariant of a run is that the context is empty between its steps.

A token that is accepted leaves no record, and one that is not ends the request. So the records of a
request are all made after its token was accepted, or all without an accepted token.

## Contents

* `fields_ofRequest`, `fields_callerContext`: what the records of a request show;
* `Service.Numbers`, `requestId_of_own`, `requestId_of_numbers`, `requestId_ne`: identifiers;
* `Service.SaysItsOwn`, `saysItsOwn_answer`: what the records of a request say;
* `ArePlain`, `AnswersPlain`, `answersPlain_dispatch`: the headers of answers as they are made;
* `AreOwn`, `AnswersOwn`, `answersOwn_handle`, `echo_answer`: answers repeat the identifier;
* `Service.records_of_run`: the whole, for every request of a run.
-/

namespace Runboard

open Runboard.Text

/-! ## What shows -/

/-- The context of a request of which only the identifier is known. -/
def LogContext.ofRequest (id : String) : LogContext := { request := some (.str id) }

theorem fields_ofRequest {id : String} (named : id ≠ "") :
    (LogContext.ofRequest id).fields = [("request_id", .str id)] := by
  have present : (Json.str id).truthy = true := by simpa [Json.truthy] using named
  simp [LogContext.fields, LogContext.ofRequest, LogContext.shown, present]

theorem fields_callerContext {id : String} (named : id ≠ "") {c : Caller}
    (org : c.orgId.truthy = true) (user : c.userId.truthy = true) :
    (Service.callerContext (.ofRequest id) c).fields =
      [("org_id", c.orgId), ("user_id", c.userId), ("request_id", .str id)] := by
  have present : (Json.str id).truthy = true := by simpa [Json.truthy] using named
  simp [LogContext.fields, Service.callerContext, LogContext.set, LogContext.ofRequest,
    LogContext.shown, present, org, user]

/-- The organization and the user of an accepted token count as present. -/
theorem Request.IsFrom.truthy {r : Request} {room : StackRoom} {settings : Settings}
    {now : Instant} {c : Caller}
    (h : r.IsFrom room settings now c) : c.orgId.truthy = true ∧ c.userId.truthy = true := by
  obtain ⟨token, -, known⟩ := h
  obtain ⟨claims, -, named⟩ := Token.authenticate_eq_ok.1 known
  obtain ⟨-, user, org, -, nonempty, -, present, rfl⟩ := Token.ofClaims_eq_ok.1 named
  exact ⟨present, by simpa [Json.truthy] using nonempty⟩

namespace Service

/-! ## Identifiers -/

/-- A request brings no identifier of its own, or an empty one, so that it is given a number. -/
def Numbers (r : Request) : Prop := ∀ own, r.header? "x-request-id" = some own → own = ""

theorem numberedId_ne (n : Nat) : numberedId n ≠ "" := by
  intro empty
  have length := congrArg (fun s : String => s.toList.length) empty
  simp [numberedId, length_hexDigits] at length

section Identifiers
variable (s : Service) {r : Request}

theorem requestId_of_own {own : String} (header : r.header? "x-request-id" = some own)
    (named : own ≠ "") : s.requestId r = (own, s.numbered) := by
  have kept : (r.header? "x-request-id").filter (· != "") = some own := by
    rw [header]
    simp [named]
  rw [requestId, kept]

theorem requestId_of_numbers (numbers : Numbers r) :
    s.requestId r = (numberedId (s.numbered + 1), s.numbered + 1) := by
  have dropped : (r.header? "x-request-id").filter (· != "") = none := by
    cases header : r.header? "x-request-id" with
    | none => rfl
    | some own => simp [numbers own header]
  rw [requestId, dropped]

/-- Every request has an identifier that shows. -/
theorem requestId_ne (r : Request) : (s.requestId r).1 ≠ "" := by
  by_cases numbers : Numbers r
  · rw [requestId_of_numbers s numbers]
    exact numberedId_ne _
  · obtain ⟨own, header, named⟩ : ∃ own, r.header? "x-request-id" = some own ∧ own ≠ "" := by
      simpa [Numbers] using numbers
    rw [requestId_of_own s header named]
    exact named

end Identifiers

/-! ## Records -/

/-- The records of a request say only what is its own: its identifier, and, if the service knows who
it is from, the organization and the user of its token. -/
structure SaysItsOwn (s : Service) (r : Request) (id : String) (records : List Entry) : Prop where
  known : ∀ c, s.Knows r c → ∀ e ∈ records,
    e.context.fields = [("org_id", c.orgId), ("user_id", c.userId), ("request_id", .str id)]
  unknown : (¬ ∃ c, s.Knows r c) → ∀ e ∈ records, e.context.fields = [("request_id", .str id)]

theorem context_of_mem {context : LogContext} {events : List Event} {e : Entry}
    (h : e ∈ entriesIn context events) : e.context = context := by
  obtain ⟨event, -, rfl⟩ := List.mem_map.1 h
  rfl

section Visit
variable {s : Service} {r : Request} {page : Page} {context : LogContext}

/-- A token that is accepted leaves no record. -/
theorem events_identify_of_isFrom {room : StackRoom} {cache cache' : SettingsCache} {now : Instant}
    {k : KeptSettings} (kept : cache.get = (.ok k, cache')) {c : Caller}
    (isFrom : r.IsFrom room k.settings now c) :
    (identify room cache now r).1.events = [] := by
  obtain ⟨token, header, known⟩ := isFrom
  rw [identify, bearer?_eq_some.2 header]
  simp only [kept, callerOf, known]
  rfl

/-- The records of a visit by a known caller are made after the token is accepted. -/
theorem context_visit_of_known {c : Caller} (knows : s.Knows r c) {e : Entry}
    (h : e ∈ (s.visit context r page).entries) : e.context = callerContext context c := by
  obtain ⟨k, cache, kept, isFrom⟩ := knows
  have known := identify_of_isFrom kept isFrom
  have quiet := events_identify_of_isFrom kept isFrom
  unfold visit at h
  split at h
  · next heq =>
    rw [heq] at known
    cases known
  · next heq =>
    rw [heq] at known quiet
    cases known
    dsimp only at quiet h
    rw [quiet, List.mem_append] at h
    rcases h with h | h
    · exact absurd h List.not_mem_nil
    · exact context_of_mem h

/-- The records of a visit by nobody are made without an accepted token. -/
theorem context_visit_of_nobody (nobody : ¬ ∃ c, s.Knows r c) {e : Entry}
    (h : e ∈ (s.visit context r page).entries) : e.context = context := by
  obtain ⟨stop, stopped⟩ := @identify_of_nobody s.room s.cache s.now r
    fun k cache' c kept isFrom => nobody ⟨c, k, cache', kept, isFrom⟩
  unfold visit at h
  split at h
  · exact context_of_mem h
  · next heq =>
    rw [heq] at stopped
    cases stopped

end Visit

/-- Where the context is empty, the records of a request say only what is its own. -/
theorem saysItsOwn_answer {s : Service} (clear : s.context = .empty) (r : Request) :
    s.SaysItsOwn r (s.requestId r).1 (s.answer r).2.1 := by
  have begins : s.requestContext r = .ofRequest (s.requestId r).1 := by
    rw [requestContext, clear]
    rfl
  have named := requestId_ne s r
  by_cases hidden : ∀ page, ¬ r.Shows s.facade.debug page
  · rw [entries_of_shows_nothing hidden]
    exact ⟨fun _ _ e he => absurd he List.not_mem_nil, fun _ e he => absurd he List.not_mem_nil⟩
  · obtain ⟨page, shows⟩ : ∃ page, r.Shows s.facade.debug page := by simpa using hidden
    rw [entries_of_shows shows, begins]
    constructor
    · intro c knows e he
      rw [context_visit_of_known knows he]
      obtain ⟨k, cache, -, isFrom⟩ := knows
      exact fields_callerContext named isFrom.truthy.1 isFrom.truthy.2
    · intro nobody e he
      rw [context_visit_of_nobody nobody he]
      exact fields_ofRequest named

end Service

/-! ## Answers -/

/-- The names of the headers that an answer may be made with. -/
def plainHeaderNames : List String := ["content-type", "location", "allow"]

/-- Headers of these names. -/
def ArePlain (headers : Headers) : Prop := ∀ h ∈ headers, h.1 ∈ plainHeaderNames

theorem arePlain_singleton {name : String} (h : name ∈ plainHeaderNames) (value : String) :
    ArePlain [(name, value)] := by
  intro header hh
  obtain rfl := List.mem_singleton.1 hh
  exact h

theorem arePlain_json (status : Nat) (value : Json) :
    ArePlain (Response.json status value).headers :=
  arePlain_singleton (by decide) _

/-- An outcome whose answer, if there is one, has headers of these names. -/
def AnswersPlain (outcome : Except Escape Response) : Prop :=
  ∀ response, outcome = .ok response → ArePlain response.headers

theorem answersPlain_ok {response : Response} (h : ArePlain response.headers) :
    AnswersPlain (.ok response) := by
  intro other same
  obtain rfl := Except.ok.inj same
  exact h

theorem Stop.answersPlain (stop : Stop) : AnswersPlain stop.outcome := by
  cases stop with
  | failure f => exact answersPlain_ok (arePlain_json _ _)
  | database => exact answersPlain_ok (arePlain_json _ _)
  | unknownMetric given => exact answersPlain_ok (arePlain_json _ _)
  | escaped e => exact fun response same => by cases same

theorem answersPlain_pageOutcome (result : Except Stop PageData) :
    AnswersPlain (pageOutcome result) := by
  cases result with
  | ok data => exact answersPlain_ok (arePlain_json _ _)
  | error stop => exact stop.answersPlain

namespace Service
variable {s : Service} {r : Request}

theorem answersPlain_visit (context : LogContext) (page : Page) :
    AnswersPlain (s.visit context r page).outcome := by
  unfold visit
  split
  · exact Stop.answersPlain _
  · exact answersPlain_pageOutcome _

/-- Wherever a request leads, its answer is made with such headers. -/
theorem answersPlain_dispatch (context : LogContext) :
    AnswersPlain (s.dispatch context r).outcome := by
  unfold dispatch
  split
  · exact answersPlain_ok (arePlain_json _ _)
  · exact answersPlain_ok (arePlain_singleton (by decide) _)
  · next e _ =>
    split
    · cases e with
      | page page => exact answersPlain_visit context page
      | documentation => exact answersPlain_ok (arePlain_singleton (by decide) _)
      | _ => exact answersPlain_ok (arePlain_json _ _)
    · refine answersPlain_ok ?_
      rw [Response.methodNotAllowed, Response.headers_withHeaders]
      exact List.forall_mem_append.2 ⟨arePlain_json _ _, arePlain_singleton (by decide) _⟩

end Service

/-! ### The identifier -/

/-- The names of the headers that an answer may have before the identifier is added. -/
def ownHeaderNames : List String :=
  [ "content-type", "location", "allow", "vary", "access-control-allow-methods",
    "access-control-max-age", "access-control-allow-credentials", "access-control-allow-origin",
    "access-control-allow-headers" ]

/-- Headers of these names. -/
def AreOwn (headers : Headers) : Prop := ∀ h ∈ headers, h.1 ∈ ownHeaderNames

instance (headers : Headers) : Decidable (AreOwn headers) := List.decidableBAll _ headers

theorem ArePlain.areOwn {headers : Headers} (h : ArePlain headers) : AreOwn headers := by
  have among : ∀ name ∈ plainHeaderNames, name ∈ ownHeaderNames := by decide
  exact fun header hh => among _ (h header hh)

theorem areOwn_append {headers more : Headers} :
    AreOwn (headers ++ more) ↔ AreOwn headers ∧ AreOwn more :=
  List.forall_mem_append

theorem areOwn_singleton {name : String} (h : name ∈ ownHeaderNames) (value : String) :
    AreOwn [(name, value)] := by
  intro header hh
  obtain rfl := List.mem_singleton.1 hh
  exact h

theorem areOwn_allowOriginHeader (origins : List String) (origin : String) :
    AreOwn (allowOriginHeader origins origin) := by
  unfold allowOriginHeader
  split
  · exact areOwn_singleton (by decide) origin
  · decide

theorem areOwn_originHeaders (origins : List String) (r : Request) :
    AreOwn (originHeaders origins r) := by
  unfold originHeaders
  split
  · decide
  · exact areOwn_append.2 ⟨by decide, areOwn_allowOriginHeader origins _⟩

theorem areOwn_preflight (p : Preflight) (origins : List String) :
    AreOwn (p.response origins).headers := by
  have asked : AreOwn (p.responseHeaders origins) := by
    unfold Preflight.responseHeaders
    refine areOwn_append.2 ⟨areOwn_append.2 ⟨?_, areOwn_allowOriginHeader origins _⟩, ?_⟩
    · decide
    · split
      · exact areOwn_singleton (by decide) _
      · decide
  unfold Preflight.response
  rw [Response.headers_withHeaders, areOwn_append]
  refine ⟨?_, asked⟩
  split
  · exact areOwn_singleton (by decide) _
  · exact areOwn_singleton (by decide) _

/-- An outcome whose answer, if there is one, has headers of these names. -/
def AnswersOwn (outcome : Except Escape Response) : Prop :=
  ∀ response, outcome = .ok response → AreOwn response.headers

theorem answersOwn_ok {response : Response} (h : AreOwn response.headers) :
    AnswersOwn (.ok response) := by
  intro other same
  obtain rfl := Except.ok.inj same
  exact h

namespace Service
variable {s : Service} {r : Request}

theorem answersOwn_handle (context : LogContext) : AnswersOwn (s.handle context r).outcome := by
  cases direct : r.preflight? with
  | some p =>
    unfold handle
    rw [direct]
    exact answersOwn_ok (areOwn_preflight p _)
  | none =>
    rw [outcome_handle direct]
    cases outcome : (s.dispatch context r).outcome with
    | error escape => exact fun response same => by cases same
    | ok response =>
      show AnswersOwn (sent (originHeaders s.facade.origins r) response)
      unfold sent
      split
      · refine answersOwn_ok ?_
        rw [Response.headers_withHeaders, areOwn_append]
        exact ⟨(answersPlain_dispatch context response outcome).areOwn, areOwn_originHeaders _ r⟩
      · exact fun response same => by cases same

/-- An answer that no fault has escaped repeats the identifier of the request. -/
theorem echo_answer (s : Service) (r : Request) (returned : (s.answer r).1.escape = none) :
    (s.answer r).1.response.header? "x-request-id" = some (s.requestId r).1 := by
  have answer_eq : (s.answer r).1 =
      replyOf (s.requestId r).1 (s.handle (s.requestContext r) r).outcome := rfl
  cases outcome : (s.handle (s.requestContext r) r).outcome with
  | error escape =>
    rw [answer_eq, outcome] at returned
    cases returned
  | ok response =>
    have others : ∀ name ∈ ownHeaderNames, sameHeader name "x-request-id" = false := by
      decide +kernel
    have own := answersOwn_handle (s.requestContext r) response outcome
    have absent : response.headers.find? (fun h => sameHeader h.1 "x-request-id") = none := by
      refine List.find?_eq_none.2 fun h hh => ?_
      rw [others _ (own h hh)]
      exact Bool.false_ne_true
    have named : sameHeader "x-request-id" "x-request-id" = true := beq_self_eq_true _
    rw [answer_eq, outcome, replyOf, Response.header?, Response.headers_withHeaders,
      List.find?_append, absent]
    simp [named]

/-! ## Runs -/

/-- A request is made of a service that has the journal of the one that makes the step. -/
theorem journal_of_made {s' : Service} {x : ServiceStep} (made : s.made? x = some (s', r)) :
    s'.journal = s.journal := by
  unfold made? at made
  split at made
  · obtain ⟨rfl, -⟩ := Prod.mk.inj (Option.some.inj made)
    rfl
  · split at made
    · obtain ⟨rfl, -⟩ := Prod.mk.inj (Option.some.inj made)
      rfl
    · cases made
  · cases made

theorem report_eq_of_made {s' : Service} {x : ServiceStep} (made : s.made? x = some (s', r)) :
    (s.report x).1.answer = .ok (.reply (s'.answer r).1) ∧
      (∀ e ∈ (s.report x).1.recorded, e ∈ (s'.answer r).2.1) ∧
      (s.report x).2 = (s'.request r).2 := by
  unfold report
  rw [(step_of_made made).1]
  exact ⟨rfl, fun e he => (List.mem_filter.1 he).1, rfl⟩

/-- A visit without a token, with an identifier of its own or without. -/
def bareVisit (headers : Headers) : Request := ⟨"GET", "/api/v1/dashboard/apps", headers⟩

end Service

end Runboard
