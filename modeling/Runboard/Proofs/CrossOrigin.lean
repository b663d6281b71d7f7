import Runboard.Proofs.RequestContext

/-!
# `Runboard.Proofs.CrossOrigin`: which origins are listed, and which may read

A list of origins is read part by part between its commas: a part of spaces names no origin, and any
other names what stands between its spaces. Nothing else is an origin, so that a list that is written
from its origins again is read as the same.

An answer is made without a word on origins. What it says of them is added where it leaves, to every
answer alike: what the path was, and whether the request was served, does not matter. So whether an
origin may read an answer depends on the list alone, and the list is that of the settings with which
the service was put together last.

## Contents

* `Names`, `Lists`, `originList_eq_iff`: how a list of origins is read;
* `IsOrigin`, `isOrigin_of_mem`, `originList_join`: what is listed, and lists written again;
* `Headers.named`, `ArePlain.named`: answers as they are made name no origin;
* `named_originHeaders`, `named_preflight`: what is added;
* `Service.named_answer`: what an answer says of origins;
* `Service.facade_step`, `Service.facade_run`: where the list comes from;
* `crossOrigin_enforced`: the whole.
-/

namespace Runboard

open Runboard.Text

/-! ## Lists -/

/-- The origins that the parts of a list name, in order. -/
inductive Names : List (List Char) → List String → Prop
  | nil : Names [] []
  | blank {part : List Char} {parts : List (List Char)} {origins : List String}
      (hollow : ∀ c ∈ part, isSpace c = true) (rest : Names parts origins) :
      Names (part :: parts) origins
  | origin {lead trail : List Char} {o : String} {parts : List (List Char)} {origins : List String}
      (before : ∀ c ∈ lead, isSpace c = true) (after : ∀ c ∈ trail, isSpace c = true)
      (named : o ≠ "") (trimmed : IsTrimmed isSpace o.toList) (rest : Names parts origins) :
      Names ((lead ++ (o.toList ++ trail)) :: parts) (o :: origins)

/-- The parts of a text between its commas name these origins. -/
def Lists (listed : String) (origins : List String) : Prop :=
  ∃ parts, AreParts ',' listed.toList parts ∧ Names parts origins

/-- What parts are read as. -/
def readParts (parts : List (List Char)) : List String :=
  (parts.map fun part => String.ofList (trimChars isSpace part)).filter (· != "")

theorem readParts_cons_of_blank {part : List Char} (parts : List (List Char))
    (blank : String.ofList (trimChars isSpace part) = "") :
    readParts (part :: parts) = readParts parts := by
  rw [readParts, List.map_cons, blank]
  rfl

theorem readParts_cons_of_ne {part : List Char} {o : String} (parts : List (List Char))
    (read : String.ofList (trimChars isSpace part) = o) (named : o ≠ "") :
    readParts (part :: parts) = o :: readParts parts := by
  rw [readParts, List.map_cons, read, List.filter_cons_of_pos (by simpa using named)]
  rfl

/-- Parts are read as what they name. -/
theorem readParts_eq_of_names {parts : List (List Char)} {origins : List String}
    (h : Names parts origins) : readParts parts = origins := by
  induction h with
  | nil => rfl
  | @blank part parts origins hollow rest ih =>
    have nothing : IsTrimmed isSpace [] := isTrimmed_of_forall fun c hc => absurd hc List.not_mem_nil
    have gone := trimChars_padded hollow nothing fun c hc => absurd hc List.not_mem_nil
    rw [List.append_nil, List.append_nil] at gone
    rw [readParts_cons_of_blank parts (congrArg String.ofList gone), ih]
  | @origin lead trail o parts origins before after named trimmed rest ih =>
    have read : String.ofList (trimChars isSpace (lead ++ (o.toList ++ trail))) = o := by
      rw [trimChars_padded before trimmed after, String.ofList_toList]
    rw [readParts_cons_of_ne parts read named, ih]

/-- All parts name what they are read as. -/
theorem names_readParts (parts : List (List Char)) : Names parts (readParts parts) := by
  induction parts with
  | nil => exact .nil
  | cons part parts ih =>
    obtain ⟨lead, trail, before, after, padded⟩ := eq_trimChars_padded isSpace part
    by_cases blank : String.ofList (trimChars isSpace part) = ""
    · rw [readParts_cons_of_blank parts blank]
      refine .blank (fun c hc => ?_) ih
      have nothing : trimChars isSpace part = [] := by simpa using congrArg String.toList blank
      rw [padded, nothing] at hc
      exact (List.mem_append.1 hc).elim (before c) (after c)
    · rw [readParts_cons_of_ne parts rfl blank]
      have trimmed := isTrimmed_trimChars isSpace part
      -- A part is given by the characters of its origin, so what is left of it has to be those of a text.
      rw [← String.toList_ofList (l := trimChars isSpace part)] at padded trimmed
      have named := Names.origin before after blank trimmed ih
      rwa [← padded] at named

/-- A list is read as the origins that it lists, and as no others. -/
theorem originList_eq_iff {listed : String} {origins : List String} :
    originList listed = origins ↔ Lists listed origins := by
  constructor
  · rintro rfl
    exact ⟨_, areParts_splitAll ',' listed.toList, names_readParts _⟩
  · rintro ⟨parts, areParts, names⟩
    show readParts (splitAll ',' listed.toList) = origins
    rw [splitAll_eq_iff.2 areParts, readParts_eq_of_names names]

/-! ## Origins -/

/-- A text that a list may name. -/
structure IsOrigin (o : String) : Prop where
  named : o ≠ ""
  whole : ',' ∉ o.toList
  trimmed : IsTrimmed isSpace o.toList

theorem isOrigin_of_mem {listed o : String} (h : o ∈ originList listed) : IsOrigin o := by
  obtain ⟨read, named⟩ := List.mem_filter.1 h
  obtain ⟨part, hp, rfl⟩ := List.mem_map.1 read
  refine ⟨by simpa using named, ?_, ?_⟩ <;> rw [String.toList_ofList]
  · exact fun comma => not_mem_of_mem_splitAll hp (mem_of_mem_trimChars comma)
  · exact isTrimmed_trimChars isSpace part

theorem names_map_toList {origins : List String} (all : ∀ o ∈ origins, IsOrigin o) :
    Names (origins.map String.toList) origins := by
  induction origins with
  | nil => exact .nil
  | cons o origins ih =>
    have origin := all o List.mem_cons_self
    have none : ∀ c ∈ ([] : List Char), isSpace c = true := fun c hc => absurd hc List.not_mem_nil
    have named := Names.origin none none origin.named origin.trimmed
      (ih fun o ho => all o (List.mem_cons_of_mem _ ho))
    rwa [List.nil_append, List.append_nil] at named

/-- Origins with commas between them are read again as they were. -/
theorem originList_join {origins : List String} (present : origins ≠ [])
    (all : ∀ o ∈ origins, IsOrigin o) : originList (",".intercalate origins) = origins := by
  refine originList_eq_iff.2 ⟨origins.map String.toList, ⟨?_, ?_, ?_⟩, names_map_toList all⟩
  · simpa using present
  · intro part hp
    obtain ⟨o, ho, rfl⟩ := List.mem_map.1 hp
    exact (all o ho).whole
  · rw [String.toList_intercalate]
    rfl

theorem corsOrigins_of_ne {listed : String} (h : listed ≠ "") (environment : String) :
    corsOrigins (some listed) environment = originList listed :=
  if_pos (by simpa using h)

/-- Without a list, or with an empty one, all may read outside production, and there none. -/
theorem corsOrigins_of_unset {listed : Option String} (h : listed.getD "" = "")
    (environment : String) :
    corsOrigins listed environment = if environment = "production" then [] else ["*"] := by
  have default : corsOrigins listed environment =
      if environment != "production" then ["*"] else [] := by
    cases listed with
    | none => rfl
    | some listed => exact if_neg (by simpa using h)
  rw [default]
  by_cases production : environment = "production" <;> simp [production]

/-- Origins that were read from a list are read again from what they are joined to. -/
theorem corsOrigins_join {listed : String} {origins : List String} (read : originList listed = origins)
    (present : origins ≠ []) (environment : String) :
    corsOrigins (some (",".intercalate origins)) environment = origins := by
  have again : originList (",".intercalate origins) = origins :=
    originList_join present fun o ho => isOrigin_of_mem (read ▸ ho)
  have filled : ",".intercalate origins ≠ "" := by
    intro empty
    rw [empty] at again
    exact present again.symm
  rw [corsOrigins_of_ne filled, again]

/-! ## What is added -/

/-- The values of all headers of a name. -/
def Headers.named (headers : Headers) (name : String) : List String :=
  (headers.filter fun h => sameHeader h.1 name).map (·.2)

/-- The name of the header that names the origin that may read an answer. -/
def allowOriginName : String := "access-control-allow-origin"

namespace Headers

theorem named_append (headers more : Headers) (name : String) :
    (headers ++ more).named name = headers.named name ++ more.named name := by
  rw [named, List.filter_append, List.map_append]
  rfl

theorem named_eq_nil {headers : Headers} {name : String}
    (others : ∀ h ∈ headers, sameHeader h.1 name = false) : headers.named name = [] := by
  have none : headers.filter (fun h => sameHeader h.1 name) = [] :=
    List.filter_eq_nil_iff.2 fun h hh => by simp [others h hh]
  rw [named, none]
  rfl

end Headers

/-- An answer as it is made says nothing of origins. -/
theorem ArePlain.named {headers : Headers} (plain : ArePlain headers) :
    headers.named allowOriginName = [] := by
  have others : ∀ name ∈ plainHeaderNames, sameHeader name allowOriginName = false := by
    decide +kernel
  exact Headers.named_eq_nil fun h hh => others _ (plain h hh)

section Added
variable (origins : List String)

theorem named_allowOriginHeader (o : String) :
    (allowOriginHeader origins o).named allowOriginName = [o].filter (allowsOrigin origins) := by
  have same : sameHeader "access-control-allow-origin" allowOriginName = true := beq_self_eq_true _
  unfold allowOriginHeader
  split
  · next allowed => simp [Headers.named, same, allowed]
  · next refused => simp [Headers.named, refused]

/-- A request that is no preflight is answered with its origin, if that may read the answer. -/
theorem named_originHeaders (r : Request) :
    (originHeaders origins r).named allowOriginName =
      (r.header? "origin").toList.filter (allowsOrigin origins) := by
  have vary : Headers.named [("vary", "Origin")] allowOriginName = [] := by decide +kernel
  have credentials : Headers.named [credentialsHeader, ("vary", "Origin")] allowOriginName = [] := by
    decide +kernel
  unfold originHeaders
  cases r.header? "origin" with
  | none => exact vary
  | some o =>
    dsimp only
    rw [Headers.named_append, credentials, named_allowOriginHeader]
    rfl

theorem origin_of_preflight? {r : Request} {p : Preflight} (h : r.preflight? = some p) :
    r.header? "origin" = some p.origin := by
  unfold Request.preflight? at h
  split at h
  · split at h
    · next origin _ =>
      obtain rfl := Option.some.inj h
      exact origin
    · cases h
  · cases h

/-- A preflight is answered with its origin, if that may read answers; what else is refused of it does
not matter. -/
theorem named_preflight (p : Preflight) :
    (p.response origins).headers.named allowOriginName =
      [p.origin].filter (allowsOrigin origins) := by
  have made : ∀ status text, (Response.plain status text).headers.named allowOriginName = [] :=
    fun _ _ => ArePlain.named (arePlain_singleton (by decide) _)
  have other : sameHeader "access-control-allow-headers" allowOriginName = false := by
    decide +kernel
  have added : (p.responseHeaders origins).named allowOriginName =
      [] ++ [p.origin].filter (allowsOrigin origins) ++ [] := by
    rw [Preflight.responseHeaders, Headers.named_append, Headers.named_append,
      named_allowOriginHeader]
    -- Before and after the origin stand headers of other names.
    refine congrArg₂ (· ++ ·) (congrArg (· ++ _) ?fixed) ?asked
    case fixed => decide +kernel
    case asked =>
      split
      · simp [Headers.named, other]
      · rfl
  rw [Preflight.response, Response.headers_withHeaders, Headers.named_append, added, List.nil_append,
    List.append_nil]
  split <;> rw [made, List.nil_append]

end Added

/-! ## Answers -/

namespace Service
variable {s : Service} {r : Request}

/-- What is said of origins when a request has been handled depends on its origin alone. -/
theorem named_handle {context : LogContext} {response : Response}
    (handled : (s.handle context r).outcome = .ok response) :
    response.headers.named allowOriginName =
      (r.header? "origin").toList.filter (allowsOrigin s.facade.origins) := by
  cases direct : r.preflight? with
  | some p =>
    unfold handle at handled
    rw [direct] at handled
    obtain rfl := Except.ok.inj handled
    rw [origin_of_preflight? direct]
    exact named_preflight _ p
  | none =>
    rw [outcome_handle direct] at handled
    obtain ⟨made, dispatched, passed⟩ := bind_eq_ok.1 handled
    unfold sent at passed
    split at passed
    · obtain rfl := Except.ok.inj passed
      rw [Response.headers_withHeaders, Headers.named_append, named_originHeaders,
        (answersPlain_dispatch context made dispatched).named, List.nil_append]
    · cases passed

/-- An answer that no fault has escaped names the origin of its request, once, if that may read it,
and no other origin. -/
theorem named_answer (returned : (s.answer r).1.escape = none) :
    (s.answer r).1.response.headers.named allowOriginName =
      (r.header? "origin").toList.filter (allowsOrigin s.facade.origins) := by
  have answer_eq : (s.answer r).1 =
      replyOf (s.requestId r).1 (s.handle (s.requestContext r) r).outcome := rfl
  cases outcome : (s.handle (s.requestContext r) r).outcome with
  | error escape =>
    rw [answer_eq, outcome] at returned
    cases returned
  | ok response =>
    have other : sameHeader "x-request-id" allowOriginName = false := by decide +kernel
    have identifier : Headers.named [("x-request-id", (s.requestId r).1)] allowOriginName = [] := by
      simp [Headers.named, other]
    rw [answer_eq, outcome, replyOf, Response.headers_withHeaders, Headers.named_append, identifier,
      List.append_nil, named_handle outcome]

/-! ## Where the list comes from -/

/-- A step leaves the facade of a service as it is, unless it puts the service together with the
settings of the moment. -/
theorem facade_step (s : Service) (x : ServiceStep) :
    (s.step x).2.facade = s.facade ∨ ∃ settings, (s.step x).2.facade = .ofSettings settings := by
  cases x with
  | ask q => exact .inl (congrArg Prod.fst (standing_withSession _))
  | insert table rows => exact .inl (congrArg Prod.fst (standing_insertAll table rows))
  | insertWithin table row keep failing =>
    exact .inl (congrArg Prod.fst (standing_insertWithin table row keep failing))
  | request r order =>
    left
    cases order with
    | none => rfl
    | some order =>
      show (s.requestWith r (some order)).2.facade = s.facade
      unfold requestWith
      dsimp only
      split <;> rfl
  | advance seconds => exact .inl (congrArg Prod.fst (standing_advance seconds))
  | environment changes dropSettings rebuilding =>
    show (s.changeEnvironment changes dropSettings rebuilding).2.facade = s.facade ∨
      ∃ settings, (s.changeEnvironment changes dropSettings rebuilding).2.facade = .ofSettings settings
    unfold changeEnvironment
    split
    · exact .inl rfl
    · cases rebuilding with
      | false => exact .inl rfl
      | true =>
        show (rebuild _).2.facade = s.facade ∨ ∃ settings, (rebuild _).2.facade = .ofSettings settings
        unfold rebuild
        split
        · exact .inl rfl
        · exact .inr ⟨_, rfl⟩
  | createTables => exact .inl (congrArg Prod.fst (standing_changeTables Database.created))
  | dropTables => exact .inl (congrArg Prod.fst (standing_changeTables Database.dropped))
  | close => exact .inl rfl
  | startUp => exact .inl standing_startUp.1
  | shutDown => exact .inl (congrArg Prod.fst standing_shutDown)

/-- In all that it goes through, a service stands as it was put together with some settings. -/
theorem facade_run {environment : Environment} {secrets : Nat → String} {room : StackRoom}
    {setup : LogSetup} {now : Instant} {withDatabase : Bool}
    (launched : Service.launch environment secrets room setup now withDatabase = .ok s)
    (steps : List ServiceStep) :
    ∃ settings, (s.run steps).2.facade = .ofSettings settings := by
  refine run_invariant (p := fun s => ∃ settings, s.facade = .ofSettings settings)
    (fun x _ s standing => ?_) ?_
  · rcases facade_step s x with same | made
    · rw [same]
      exact standing
    · exact made
  · unfold launch at launched
    split at launched
    · cases launched
    · obtain rfl := Checked.ok.inj launched
      exact ⟨_, rfl⟩

end Service

/-! ## The whole -/

/-- A list of origins is read as what its parts name, in order. All of them are origins, and joined by
commas they are read again as they were. Without a list there are none in production, and a star
elsewhere. In a run, a service stands at every moment as it was put together with some settings. And
unless the list of a service has a star, each answer to a request with an origin names that origin if
it is in the list, and nothing otherwise, whatever the request is and whatever comes of it short of a
fault that escapes. So nothing is said of origins in production where no list is given. -/
theorem crossOrigin_enforced :
    (∀ (settings : Settings) (listed : String), settings.corsAllowedOrigins = some listed →
      listed ≠ "" →
      (∀ origins, settings.corsOrigins = origins ↔ Lists listed origins) ∧
      (∀ o ∈ settings.corsOrigins, IsOrigin o) ∧
      (settings.corsOrigins ≠ [] → ∀ again : Settings,
        again.corsAllowedOrigins = some (",".intercalate settings.corsOrigins) →
        again.corsOrigins = settings.corsOrigins)) ∧
    (∀ settings : Settings, settings.corsAllowedOrigins.getD "" = "" →
      settings.corsOrigins = if settings.environment = "production" then [] else ["*"]) ∧
    (∀ (environment : Environment) (secrets : Nat → String) (room : StackRoom) (setup : LogSetup)
      (now : Instant) (withDatabase : Bool) (s : Service),
      Service.launch environment secrets room setup now withDatabase = .ok s → ∀ steps,
      ∃ settings, (s.run steps).2.facade = .ofSettings settings) ∧
    (∀ (s : Service) (r : Request) (o : String), "*" ∉ s.facade.origins →
      r.header? "origin" = some o → (s.answer r).1.escape = none →
      (s.answer r).1.response.headers.named allowOriginName =
        if o ∈ s.facade.origins then [o] else []) ∧
    (∀ (s : Service) (settings : Settings), s.facade = .ofSettings settings →
      settings.environment = "production" → settings.corsAllowedOrigins.getD "" = "" →
      ∀ r, (s.answer r).1.escape = none →
      (s.answer r).1.response.headers.named allowOriginName = []) := by
  refine ⟨fun settings listed set filled => ?_, fun settings unset => ?_,
    fun _ _ _ _ _ _ _ launched => Service.facade_run launched, fun s r o unstarred header returned => ?_,
    fun s settings standing production unset r returned => ?_⟩
  · have read : settings.corsOrigins = originList listed := by
      rw [Settings.corsOrigins, set, corsOrigins_of_ne filled]
    refine ⟨fun origins => ?_, fun o ho => ?_, fun present again rejoined => ?_⟩
    · rw [read, originList_eq_iff]
    · rw [read] at ho
      exact isOrigin_of_mem ho
    · rw [Settings.corsOrigins, rejoined, corsOrigins_join read.symm present]
  · exact corsOrigins_of_unset unset settings.environment
  · have decides : allowsOrigin s.facade.origins o = decide (o ∈ s.facade.origins) := by
      simp [allowsOrigin, unstarred]
    rw [Service.named_answer returned, header, Option.toList_some, List.filter_singleton, decides]
    by_cases member : o ∈ s.facade.origins <;> simp [member]
  · have empty : s.facade.origins = [] := by
      rw [standing]
      exact (corsOrigins_of_unset unset settings.environment).trans (if_pos production)
    rw [Service.named_answer returned, empty]
    exact List.filter_eq_nil_iff.2 fun o _ => by simp [allowsOrigin]

/-- Settings of production that list two origins, among spaces and parts that name none. -/
def listingSettings : Settings :=
  { plainSettings with
    environment := "production"
    corsAllowedOrigins := some " https://a , ,https://b," }

/-- A service put together with these settings. -/
def listingService : Service := { plainService .empty with facade := .ofSettings listingSettings }

/-- A request for the index from some origin. -/
def indexVisit (origin : String) : Request := ⟨"GET", "/", [("origin", origin)]⟩

/-- The two origins are read from the list, and may read the index; others may not. -/
theorem crossOrigin_enforced_listing :
    listingSettings.corsOrigins = ["https://a", "https://b"] ∧
      (∀ o ∈ listingSettings.corsOrigins, IsOrigin o) ∧
      { listingSettings with corsAllowedOrigins := some (",".intercalate listingSettings.corsOrigins)
        }.corsOrigins = listingSettings.corsOrigins ∧
      { plainSettings with environment := "production" }.corsOrigins = [] ∧
      (∃ s settings, Service.launch [] plainSecrets plainRoom freshSetup
          ⟨1700000000500000⟩ true = .ok s ∧
        (s.run [.startUp]).2.facade = .ofSettings settings) ∧
      (listingService.answer (indexVisit "https://b")).1.response.headers.named
        allowOriginName = ["https://b"] ∧
      (listingService.answer (indexVisit "https://c")).1.response.headers.named
        allowOriginName = [] := by
  obtain ⟨lists, unset, runs, enforced, -⟩ := crossOrigin_enforced
  have read : listingSettings.corsOrigins = ["https://a", "https://b"] := by decide
  have listed : listingService.facade.origins = ["https://a", "https://b"] := read
  have unstarred : "*" ∉ listingService.facade.origins := by
    rw [listed]
    decide
  have header : ∀ o, (indexVisit o).header? "origin" = some o := by
    simp [indexVisit, Request.header?, sameHeader]
  obtain ⟨s, launched⟩ : ∃ s, Service.launch [] plainSecrets plainRoom freshSetup
      ⟨1700000000500000⟩ true = .ok s := ⟨_, rfl⟩
  obtain ⟨settings, standing⟩ := runs _ _ _ _ _ _ s launched [.startUp]
  obtain ⟨-, origins, again⟩ := lists listingSettings _ rfl (by decide)
  refine ⟨read, origins, again (by simp [read]) _ rfl, (unset _ (by decide)).trans (if_pos rfl),
    ⟨s, settings, launched, standing⟩, ?_, ?_⟩
  · exact (enforced listingService (indexVisit "https://b") "https://b" unstarred (header _)
      rfl).trans (if_pos (by simp [listed]))
  · exact (enforced listingService (indexVisit "https://c") "https://c" unstarred (header _)
      rfl).trans (if_neg (by simp [listed]))

end Runboard
