import Runboard.Settings.Cache
import Runboard.Token.Caller
import Runboard.Token.Issue

/-!
# `Runboard.Token.Session`: tokens under changing settings

Tokens are made and checked with the secret and the lifetime of the current settings, at the time of
a clock. A session makes tokens, lets time pass, changes the secret, and checks tokens that it made
or was given.

## Contents

* `TokenSession`: settings, the room of the stack, clock and the tokens made so far;
* `TokenProblem`: what may go wrong;
* `TokenSession.create`, `TokenSession.decode`, `TokenSession.authenticate`;
* `TokenStep`, `TokenAnswer`, `TokenSession.step`, `TokenSession.run`: sessions.
-/

namespace Runboard

/-- The state of a session in which tokens are made and checked. -/
structure TokenSession where
  cache : SettingsCache
  room : StackRoom
  now : Instant
  issued : List String := []

/-- What may go wrong with tokens. -/
inductive TokenProblem where
  /-- There is no token at the place that was asked for. -/
  | noToken
  | shift (fault : ShiftFault)
  | variable (fault : VariableFault)
  | settings (faults : List SettingFault)
  | issue (fault : IssueFault)
  | token (fault : Token.Fault)
  | authentication (error : AuthenticationError)

/-- Whom a token is made for, and how many microseconds it is to hold; without a span, the settings
say how long. -/
structure TokenOrder where
  who : Identity
  span : Option Int := none

/-- Makes a token under some settings. -/
def TokenOrder.fill (o : TokenOrder) (s : Settings) (now : Instant) : Except IssueFault String :=
  Token.issue s.secretKey now o.who (o.span.getD (minutesSpan s.tokenMinutes))

namespace TokenSession

/-- Makes a token and keeps it. A given span is looked at before the settings. -/
def create (d : TokenSession) (o : TokenOrder) : Except TokenProblem String × TokenSession :=
  match checkSpan (o.span.getD 0) with
  | .error fault => (.error (.issue (.lifetime fault)), d)
  | .ok () =>
    match d.cache.get with
    | (.faults fs, cache) => (.error (.settings fs), { d with cache := cache })
    | (.ok k, cache) =>
      match o.fill k.settings d.now with
      | .error fault => (.error (.issue fault), { d with cache := cache })
      | .ok token => (.ok token, { d with cache := cache, issued := d.issued ++ [token] })

/-- The claims of a token. -/
def decode (d : TokenSession) (token : String) :
    Except TokenProblem (List (String × Json)) × TokenSession :=
  match d.cache.get with
  | (.faults fs, cache) => (.error (.settings fs), { d with cache := cache })
  | (.ok k, cache) =>
    (match Token.verify d.room k.settings.secretKey d.now token with
      | .error fault => .error (.token fault)
      | .ok claims => .ok claims,
      { d with cache := cache })

/-- The caller of a token. -/
def authenticate (d : TokenSession) (token : String) : Except TokenProblem Caller × TokenSession :=
  match d.cache.get with
  | (.faults fs, cache) => (.error (.settings fs), { d with cache := cache })
  | (.ok k, cache) =>
    (match Token.authenticate d.room k.settings.secretKey d.now token with
      | .error e => .error (.authentication e)
      | .ok caller => .ok caller,
      { d with cache := cache })

end TokenSession

/-! ## Sessions -/

/-- A token made in the session, by its place, or a given one. Below zero, places are counted from
the last token. -/
inductive TokenSource where
  | issued (place : Int)
  | given (token : String)

/-- A step of a session. -/
inductive TokenStep where
  | create (order : TokenOrder)
  | advance (seconds : Int)
  | secret (value : Json)
  | decode (source : TokenSource)
  | authenticate (source : TokenSource)

/-- What a step answers. -/
inductive TokenAnswer where
  | nothing
  | problem (problem : TokenProblem)
  | token (result : Except TokenProblem String)
  | claims (result : Except TokenProblem (List (String × Json)))
  | caller (result : Except TokenProblem Caller)

namespace TokenSession

/-- The token that a source names. -/
def lookUp? (d : TokenSession) : TokenSource → Option String
  | .issued place =>
    let fromStart := if place < 0 then place + d.issued.length else place
    if fromStart < 0 then none else d.issued[fromStart.toNat]?
  | .given token => some token

/-- Makes a step. A new secret takes effect at once. -/
def step (d : TokenSession) : TokenStep → TokenAnswer × TokenSession
  | .create order => let (r, d) := d.create order; (.token r, d)
  | .advance seconds =>
    match d.now.shift (seconds * 1000000) with
    | .error fault => (.problem (.shift fault), d)
    | .ok now => (.nothing, { d with now := now })
  | .secret value =>
    match d.cache.setVariables [("SECRET_KEY", some value)] with
    | (some fault, _) => (.problem (.variable fault), d)
    | (none, cache) => (.nothing, { d with cache := cache.drop })
  | .decode source =>
    match d.lookUp? source with
    | none => (.problem .noToken, d)
    | some token => let (r, d) := d.decode token; (.claims r, d)
  | .authenticate source =>
    match d.lookUp? source with
    | none => (.problem .noToken, d)
    | some token => let (r, d) := d.authenticate token; (.caller r, d)

/-- Makes the steps of a session in turn. -/
def run (d : TokenSession) : List TokenStep → List TokenAnswer × TokenSession
  | [] => ([], d)
  | s :: rest =>
    let (a, d) := d.step s
    let (as, d) := run d rest
    (a :: as, d)

end TokenSession

end Runboard
