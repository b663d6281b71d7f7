import Runboard.Http.Request

/-!
# `Runboard.Service.Endpoint`: what paths lead to

Every endpoint has a path of its own, except that the last part of a chart's path names its metric.
The pages that describe the service exist only while it is debugged, but the description that they
read always does. A line break at the very end of a path is overlooked. A path that leads nowhere
may lead somewhere with its slashes at the end removed, or with one added.

## Contents

* `Page`, `Endpoint`, `Endpoint.methods`: what there is to visit;
* `Endpoint.ofPath?`: the endpoint of a path;
* `Destination`, `destinationOf`: where a path leads;
* `locationOf`: the address that a redirection names.
-/

namespace Runboard

open Runboard.Text

/-! ## Endpoints -/

/-- The protected pages of the dashboard. -/
inductive Page where
  | workflows
  | apps
  | apiUsage
  | executions
  /-- A chart of the metric that a text names. -/
  | chart (metric : String)
  deriving DecidableEq, Repr

/-- What there is to visit. -/
inductive Endpoint where
  | description
  | documentation
  | index
  | health
  | sampleSuccess
  | sampleFailure
  | page (page : Page)
  deriving DecidableEq, Repr

namespace Endpoint

/-- The methods that an endpoint takes. -/
def methods : Endpoint → List String
  | .description => ["GET", "HEAD"]
  | .documentation => ["GET", "HEAD"]
  | _ => ["GET"]

/-- What all paths of the dashboard begin with. -/
def dashboardPath : String := "/api/v1/dashboard"

/-- The endpoints with paths of their own. -/
def fixedPaths (debug : Bool) : List (String × Endpoint) :=
  [("/openapi.json", .description)] ++
    (if debug then
      [ ("/docs", .documentation), ("/docs/oauth2-redirect", .documentation),
        ("/redoc", .documentation) ]
    else []) ++
    [ (dashboardPath ++ "/test/success", .sampleSuccess),
      (dashboardPath ++ "/test/failure", .sampleFailure),
      (dashboardPath ++ "/workflows", .page .workflows),
      (dashboardPath ++ "/apps", .page .apps),
      (dashboardPath ++ "/api-usage", .page .apiUsage),
      (dashboardPath ++ "/workflow-executions", .page .executions),
      ("/", .index),
      ("/health", .health) ]

/-- What the paths of charts begin with. -/
def chartPath : String := dashboardPath ++ "/charts/"

/-- The metric that a path names: a last part that is not empty. -/
def chartMetric? (path : List Char) : Option String :=
  if chartPath.toList.isPrefixOf path then
    let metric := path.drop chartPath.length
    if metric.isEmpty || metric.contains '/' then none else some (String.ofList metric)
  else none

/-- Whether a path is a given one, but for a line break at its end. -/
def isPath (given : String) (path : List Char) : Bool :=
  path == given.toList || path == given.toList ++ ['\n']

/-- The endpoint of a path. -/
def ofPath? (debug : Bool) (path : List Char) : Option Endpoint :=
  match (fixedPaths debug).find? fun e => isPath e.1 path with
  | some e => some e.2
  | none => (chartMetric? path).map fun metric => .page (.chart metric)

end Endpoint

/-! ## Destinations -/

/-- Where a path leads. -/
inductive Destination where
  | endpoint (endpoint : Endpoint)
  | elsewhere (path : List Char)
  | nowhere
  deriving DecidableEq, Repr

/-- A path without the slashes at its end, or with one if there are none. -/
def otherSlash (path : List Char) : List Char :=
  if path.getLast? = some '/' then (path.reverse.dropWhile (· == '/')).reverse
  else path ++ ['/']

/-- Where a path leads. -/
def destinationOf (debug : Bool) (path : List Char) : Destination :=
  match Endpoint.ofPath? debug path with
  | some e => .endpoint e
  | none =>
    if path ≠ ['/'] ∧ (Endpoint.ofPath? debug (otherSlash path)).isSome then
      .elsewhere (otherSlash path)
    else .nowhere

/-- The characters that stand in an address as they are. -/
def isAddressMark (c : Char) : Bool := ":/%#?=@[]!$&'()*+,;".toList.contains c

/-- The address of a path with a query, if that is not empty, on the host that the `Host` header of a
request names; without the header only the path stands. -/
def locationOf (host : Option String) (path query : List Char) : String :=
  let origin := match host with | some host => "http://".toList ++ host.toList | none => []
  String.ofList (percentEncode isAddressMark
    (origin ++ escapePath path ++ if query.isEmpty then [] else '?' :: query))

end Runboard
