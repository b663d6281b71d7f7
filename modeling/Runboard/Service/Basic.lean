import Runboard.Http.Origin
import Runboard.Log.Setup
import Runboard.Service.PageData

/-!
# `Runboard.Service.Basic`: the service and its answers

The service shows its name, its version and its environment as they were when it was put together,
and allows the origins of that time; what is read later, it reads from the settings of the moment.
Every request has an identifier, its own or a number of the service, which its answer repeats and
which is set in the context of the records while the request is handled. Once the caller is known, the
caller and the organization are set too. At the end of a request, whatever came of it, the context is
cleared. A request that meets a fault without a prepared answer is answered by a bare error.

## Contents

* `Facade`, `Facade.ofSettings`: what is fixed when the service is put together;
* `Lifespan`, `Service`, `Service.launch`: the state of the service;
* `Entry`, `Reply`: what a request brings about;
* `Service.visit`, `Service.dispatch`, `Service.answer`: answering a request.
-/

namespace Runboard

/-! ## State -/

/-- What is fixed when the service is put together. -/
structure Facade where
  name : String
  version : String
  environment : String
  debug : Bool
  origins : List String
  deriving DecidableEq, Repr

/-- The facade of a service with some settings. -/
def Facade.ofSettings (s : Settings) : Facade :=
  { name := s.appName
    version := s.appVersion
    environment := s.environment
    debug := s.debug
    origins := s.corsOrigins }

/-- Whether the service has been started up. -/
inductive Lifespan where
  | before
  /-- It runs with the settings of its start. -/
  | running (settings : Settings)
  /-- It was shut down, or its start failed. -/
  | after

/-- The state of the service. -/
structure Service where
  cache : SettingsCache
  room : StackRoom
  facade : Facade
  database : Database
  now : Instant
  setup : LogSetup
  /-- What records say about their request at the moment. -/
  context : LogContext := .empty
  /-- The number of requests without an identifier of their own. -/
  numbered : Nat := 0
  life : Lifespan := .before

/-- A service in an environment, with the secrets that it will draw, the room of its stack, the loggers
as it finds them, and a database in memory or none yet. -/
def Service.launch (environment : Environment) (secrets : Nat → String) (room : StackRoom)
    (setup : LogSetup) (now : Instant) (withDatabase : Bool) : Checked SettingFault Service :=
  match ({ environment := environment, secrets := secrets } : SettingsCache).get with
  | (.faults faults, _) => .faults faults
  | (.ok kept, cache) =>
    .ok {
      cache := cache
      room := room
      facade := .ofSettings kept.settings
      database := if withDatabase then .inMemory else .closed
      now := now
      setup := setup }

/-! ## Effects -/

/-- An event with the context in which it was recorded. -/
structure Entry where
  event : Event
  context : LogContext

/-- Events in one context. -/
def entriesIn (context : LogContext) (events : List Event) : List Entry :=
  events.map fun e => ⟨e, context⟩

/-- What answers a request: a response, perhaps because of a fault that nothing else answers. -/
structure Reply where
  response : Response
  escape : Option Escape := none

/-- What comes of a request before its answer leaves the service. -/
structure Handled where
  outcome : Except Escape Response
  entries : List Entry := []
  cache : SettingsCache
  database : Database

/-! ## Pages -/

/-- The reason that is told when the database failed. -/
def databaseReason : String := "Failed reading organization data"

/-- The answer to a request for a chart of an unknown metric. -/
def unknownMetricResponse (given : String) : Response :=
  .json 422 (.obj [("detail", .arr [.obj [
    ("type", .str "enum"),
    ("loc", .arr [.str "path", .str "metric"]),
    ("msg", .str "Input should be 'workflow' or 'app'"),
    ("input", .str given),
    ("ctx", .obj [("expected", .str "'workflow' or 'app'")])]])])

namespace Stop

/-- What is answered at the end of a request that is not served. -/
def outcome : Stop → Except Escape Response
  | .failure f => .ok (.json f.status f.envelope)
  | .database => .ok (.json 500 (Failure.envelopeOf (.str databaseReason)))
  | .unknownMetric given => .ok (unknownMetricResponse given)
  | .escaped e => .error e

/-- What is recorded at the end of a request that is not served. -/
def events (path : String) : Stop → List Event
  | .database => [.databaseFailed path]
  | _ => []

end Stop

/-- What is answered with some data or without. -/
def pageOutcome : Except Stop PageData → Except Escape Response
  | .ok data => .ok (.json 200 (dataEnvelope data.json))
  | .error stop => stop.outcome

/-- What is recorded when data cannot be told. -/
def pageEvents (path : String) : Except Stop PageData → List Event
  | .ok _ => []
  | .error stop => stop.events path

/-- What a caller reads of a page, through a database that is opened if it has to be. -/
def readPage (settings : Settings) (caller : Caller) (page : Page) (d : Database)
    (cache : SettingsCache) : Traced Stop PageData × Database × SettingsCache :=
  match d.ready cache with
  | (.error fault, d, cache) => (.fail (.ofOpen fault), d, cache)
  | (.ok events, d, cache) =>
    let access := checkAccess d.view caller
    (Traced.after events (do
      (⟨access.result.mapError Stop.ofStore, access.events⟩ : Traced Stop Unit)
      page.read settings d.view caller.orgId), d, cache)

namespace Service

/-- The context of a request whose caller is known. -/
def callerContext (context : LogContext) (c : Caller) : LogContext :=
  context.set { org := some c.orgId, user := some c.userId }

/-- What comes of a request for a page. -/
def visit (s : Service) (context : LogContext) (r : Request) (page : Page) : Handled :=
  match identify s.room s.cache s.now r with
  | (⟨.error stop, events⟩, cache) =>
    { outcome := stop.outcome
      entries := entriesIn context (events ++ stop.events r.shownPath)
      cache := cache
      database := s.database }
  | (⟨.ok (settings, caller), events⟩, cache) =>
    let (read, d, cache) := readPage settings caller page s.database cache
    { outcome := pageOutcome read.result
      entries := entriesIn context events ++
        entriesIn (callerContext context caller)
          (read.events ++ pageEvents r.shownPath read.result)
      cache := cache
      database := d }

/-! ## Other endpoints -/

/-- What the service tells of itself. -/
def indexBody (f : Facade) : Json :=
  .obj [ ("service", .str f.name), ("version", .str f.version),
    ("environment", .str f.environment),
    ("endpoints", .obj [("health", .str "/health"), ("dashboard", .str Endpoint.dashboardPath)]) ]

/-- What the service tells of its health. -/
def healthBody (f : Facade) (now : Instant) : Json :=
  .obj [ ("status", .str "healthy"), ("service", .str f.name), ("version", .str f.version),
    ("environment", .str f.environment), ("timestamp", .str now.iso) ]

/-- A response that leaves the service as it is, and nothing to be recorded. -/
def respond (s : Service) (r : Response) : Handled :=
  { outcome := .ok r, cache := s.cache, database := s.database }

/-- What comes of a request to an endpoint. -/
def serve (s : Service) (context : LogContext) (r : Request) : Endpoint → Handled
  | .description => s.respond (.json 200 .null)
  | .documentation => s.respond .page
  | .index => s.respond (.json 200 (indexBody s.facade))
  | .health => s.respond (.json 200 (healthBody s.facade s.now))
  | .sampleSuccess =>
    s.respond (.json 200 (dataEnvelope (.str "this field can be any type")))
  | .sampleFailure =>
    s.respond (.json 200 (Failure.envelopeOf (.str "failed because something happened")))
  | .page page => s.visit context r page

/-- What comes of a request, by its path and method. -/
def dispatch (s : Service) (context : LogContext) (r : Request) : Handled :=
  match destinationOf s.facade.debug r.path with
  | .nowhere => s.respond .notFound
  | .elsewhere path => s.respond (.redirect (locationOf (r.header? "host") path r.query))
  | .endpoint e =>
    if e.methods.contains r.method then s.serve context r e
    else s.respond (.methodNotAllowed e.methods)

/-! ## Answering -/

/-- A number as an identifier of a request. -/
def numberedId (n : Nat) : String := String.ofList (Text.hexDigits 32 n)

/-- The identifier of a request, with the number of requests without one after it. -/
def requestId (s : Service) (r : Request) : String × Nat :=
  match (r.header? "x-request-id").filter (· != "") with
  | some id => (id, s.numbered)
  | none => (numberedId (s.numbered + 1), s.numbered + 1)

/-- The answer that leaves the service: it repeats the identifier, unless a fault has escaped. -/
def replyOf (id : String) : Except Escape Response → Reply
  | .ok response => { response := response.withHeaders [("x-request-id", id)] }
  | .error escape => { response := .internalError, escape := some escape }

/-- A response with further headers, if it can be sent. -/
def sent (headers : Headers) (r : Response) : Except Escape Response :=
  if r.canBeSent then .ok (r.withHeaders headers) else .error .halfText

/-- What comes of a request from wherever it comes. A preflight goes no further. -/
def handle (s : Service) (context : LogContext) (r : Request) : Handled :=
  match r.preflight? with
  | some p => s.respond (p.response s.facade.origins)
  | none =>
    let h := s.dispatch context r
    { h with outcome := h.outcome.bind (sent (originHeaders s.facade.origins r)) }

/-- Answers a request: sets its identifier in the context, handles it, and clears the context. -/
def answer (s : Service) (r : Request) : Reply × List Entry × Service :=
  let (id, numbered) := s.requestId r
  let h := s.handle (s.context.set { request := some (.str id) }) r
  (replyOf id h.outcome, h.entries,
    { s with cache := h.cache, database := h.database, context := .empty, numbered := numbered })

end Service

end Runboard
