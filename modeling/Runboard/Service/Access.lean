import Runboard.Http.Request
import Runboard.Log.Traced
import Runboard.Settings.Cache
import Runboard.Store.Database
import Runboard.Token.Caller

/-!
# `Runboard.Service.Access`: who may read what

A request for a protected page carries a bearer token. The caller that the token names may read the
organization of the token as a member of it, or by support access, which is audited. An organization
that does not exist cannot be read by anybody.

## Contents

* `Escape`, `Stop`: why a request is not served;
* `Request.bearer?`, `identify`: the caller of a request;
* `checkAccess`: whether a caller may read the organization.
-/

namespace Runboard

/-- A fault for which no answer is prepared. -/
inductive Escape where
  | opening (fault : OpenFault)
  | connect (fault : ConnectFault)
  | token (fault : Token.Fault)
  | bind (fault : BindFault)
  /-- An identifier of a row is stored as a number. -/
  | storedId (fault : Uuid.GivenFault)
  /-- A day of a history is not read as a text. -/
  | dayKind
  | figures (fault : FigureFault)
  /-- An answer holds half a character. -/
  | halfText

/-- Why a request is not served. -/
inductive Stop where
  /-- The caller is told of a failure. -/
  | failure (failure : Failure)
  /-- The database failed. -/
  | database
  /-- A text names no metric. -/
  | unknownMetric (given : String)
  | escaped (escape : Escape)

namespace Stop

/-- The end of a request whose question has no answer. -/
def ofStore : StoreFault → Stop
  | .table .unreachable => .database
  | .table (.connect fault) => .escaped (.connect fault)
  | .bind fault => if fault.isDatabaseError then .database else .escaped (.bind fault)
  | .storedId fault => .escaped (.storedId fault)
  | .dayKind => .escaped .dayKind
  | .failure f => .failure f

/-- The end of a request for which the database cannot be opened. -/
def ofOpen : OpenFault → Stop
  | .settings faults => .escaped (.opening (.settings faults))
  | .engine fault =>
    if fault.isDatabaseError then .database else .escaped (.opening (.engine fault))

end Stop

/-! ## Callers -/

/-- What stands before a bearer token. -/
def bearerLead : List Char := "Bearer ".toList

/-- The bearer token of a request. -/
def Request.bearer? (r : Request) : Option String :=
  match r.header? "authorization" with
  | none => none
  | some value =>
    if bearerLead.isPrefixOf value.toList then
      some (String.ofList (value.toList.drop bearerLead.length))
    else none

/-- The failure of a request without a bearer token. -/
def bearerFailure : Failure := .authentication (.str "Missing or invalid Authorization header")

/-- The caller that a token names to a service with some settings. -/
def callerOf (room : StackRoom) (settings : Settings) (now : Instant) (path token : String) :
    Traced Stop Caller :=
  match Token.authenticate room settings.secretKey now token with
  | .ok caller => pure caller
  | .error (.refused f) => ⟨.error (.failure f), [.authenticationFailed path f.message]⟩
  | .error (.faulty fault) => .fail (.escaped (.token fault))

/-- The caller of a request, with the settings that were in force. -/
def identify (room : StackRoom) (cache : SettingsCache) (now : Instant) (r : Request) :
    Traced Stop (Settings × Caller) × SettingsCache :=
  match r.bearer? with
  | none => (⟨.error (.failure bearerFailure), [.missingBearer r.shownPath]⟩, cache)
  | some token =>
    match cache.get with
    | (.faults faults, cache) => (.fail (.escaped (.opening (.settings faults))), cache)
    | (.ok kept, cache) =>
      (do
        let caller ← callerOf room kept.settings now r.shownPath token
        return (kept.settings, caller), cache)

/-! ## Access -/

/-- The failure of a caller who is no member and has no support access. -/
def accessFailure : Failure :=
  .access (.str "User attempting to access an organization they're not a part of")

/-- Lets a caller who is no member read an organization by support access, or not at all. -/
def supportOrRefuse (c : Caller) (o : Organization) : Traced StoreFault Unit :=
  if c.supportAccess then .tell [.audited c.username c.userId o.name o.id]
  else ⟨.error (.failure accessFailure), [.notMember c.userId o.id]⟩

/-- Checks that a caller may read the organization of the token. -/
def checkAccess (v : TableView) (c : Caller) : Traced StoreFault Unit :=
  match Store.org v c.orgId with
  | .error fault => .fail fault
  | .ok none => ⟨.error (.failure (.orgNotFound c.orgId)), [.orgMissing c.orgId]⟩
  | .ok (some o) =>
    match Store.isMember v c.orgId c.userId with
    | .error fault => .fail fault
    | .ok true => pure ()
    | .ok false => supportOrRefuse c o

end Runboard
