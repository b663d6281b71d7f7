import Runboard.Http.Response

/-!
# `Runboard.Http.Origin`: requests from other origins

A browser tells the origin of the page that makes a request. The answer says whether that origin may
read it; an origin may if it is listed, or if the list has a star. Before an unusual request the
browser asks first: such a preflight is answered without looking at the path, and refused with the
names of what is refused. Private networks are never opened.

## Contents

* `allowsOrigin`: which origins may read answers;
* `Preflight`, `Request.preflight?`, `Preflight.refusals`, `Preflight.response`: preflights;
* `originHeaders`: what is added to all other answers.
-/

namespace Runboard

/-- Whether an origin may read the answers. -/
def allowsOrigin (origins : List String) (origin : String) : Bool :=
  origins.contains "*" || origins.contains origin

/-- The methods that a page of another origin may use. -/
def crossOriginMethods : List String :=
  ["DELETE", "GET", "HEAD", "OPTIONS", "PATCH", "POST", "PUT", "QUERY"]

/-- The header that names the origin that may read an answer. -/
def allowOriginHeader (origins : List String) (origin : String) : Headers :=
  if allowsOrigin origins origin then [("access-control-allow-origin", origin)] else []

/-- The header by which an answer allows credentials. -/
def credentialsHeader : String × String := ("access-control-allow-credentials", "true")

/-! ## Preflights -/

/-- A preflight: its origin and the method that it asks for. -/
structure Preflight where
  origin : String
  method : String
  headers : Option String
  privateNetwork : Option String
  deriving DecidableEq, Repr

/-- The preflight that a request is. -/
def Request.preflight? (r : Request) : Option Preflight :=
  if r.method = "OPTIONS" then
    match r.header? "origin", r.header? "access-control-request-method" with
    | some origin, some method =>
      some {
        origin := origin
        method := method
        headers := r.header? "access-control-request-headers"
        privateNetwork := r.header? "access-control-request-private-network" }
    | _, _ => none
  else none

/-- What is refused of a preflight. -/
def Preflight.refusals (p : Preflight) (origins : List String) : List String :=
  (if allowsOrigin origins p.origin then [] else ["origin"]) ++
    (if crossOriginMethods.contains p.method then [] else ["method"]) ++
    (if p.privateNetwork.isSome then ["private-network"] else [])

/-- The headers of the answer to a preflight. -/
def Preflight.responseHeaders (p : Preflight) (origins : List String) : Headers :=
  [ ("vary", "Origin, Access-Control-Request-Method, Access-Control-Request-Headers, " ++
      "Access-Control-Request-Private-Network"),
    ("access-control-allow-methods", ", ".intercalate crossOriginMethods),
    ("access-control-max-age", "600"),
    credentialsHeader ] ++
    allowOriginHeader origins p.origin ++
    match p.headers with
    | some names => [("access-control-allow-headers", names)]
    | none => []

/-- The answer to a preflight. -/
def Preflight.response (p : Preflight) (origins : List String) : Response :=
  (match p.refusals origins with
    | [] => Response.plain 200 "OK"
    | refusals => Response.plain 400 ("Disallowed CORS " ++ ", ".intercalate refusals)).withHeaders
      (p.responseHeaders origins)

/-! ## Other requests -/

/-- The headers that are added to the answer of a request that is no preflight. -/
def originHeaders (origins : List String) (r : Request) : Headers :=
  match r.header? "origin" with
  | none => [("vary", "Origin")]
  | some origin => [credentialsHeader, ("vary", "Origin")] ++ allowOriginHeader origins origin

end Runboard
