import Runboard.Json.Literal

/-!
# `Runboard.Error`: failures that are answered

Failures of the service that a caller is told about. Each has a kind, which fixes the status of the
answer, and a message. The kinds form a tree: a missing organization is a case of refused access,
and all are cases of the general failure.

## Contents

* `Failure.Kind`, `Failure.Kind.lineage`, `Failure.Kind.status`: the kinds;
* `Failure`, `Failure.reason`, `Failure.message`, `Failure.status`: failures;
* `Failure.envelope`: the body of the answer.
-/

namespace Runboard

namespace Failure

/-- The kinds of failure. -/
inductive Kind where
  | general
  | authentication
  | access
  | orgNotFound
  | statisticsNotFound
  deriving DecidableEq, Repr, Inhabited

/-- The status of the answer: a refused caller has 401, every other failure is the service's. -/
def Kind.status : Kind → Nat
  | .authentication => 401
  | .access => 401
  | .orgNotFound => 401
  | .general => 500
  | .statisticsNotFound => 500

/-- A kind with the kinds that it is a case of, up to the general one. -/
def Kind.lineage : Kind → List Kind
  | .general => [.general]
  | .authentication => [.authentication, .general]
  | .access => [.access, .general]
  | .orgNotFound => [.orgNotFound, .access, .general]
  | .statisticsNotFound => [.statisticsNotFound, .general]

end Failure

/-- A failure with what it tells: a reason of any type, which is nearly always a text, or an
organization, which is named as it was given. -/
inductive Failure where
  | general (reason : Json)
  | authentication (reason : Json)
  | access (reason : Json)
  | orgNotFound (org : Json)
  | statisticsNotFound (org : Json)
  deriving Inhabited

namespace Failure

/-- The kind of a failure. -/
def kind : Failure → Kind
  | .general _ => .general
  | .authentication _ => .authentication
  | .access _ => .access
  | .orgNotFound _ => .orgNotFound
  | .statisticsNotFound _ => .statisticsNotFound

/-- The status of the answer. -/
def status (f : Failure) : Nat := f.kind.status

/-- What a failure tells. -/
def reason : Failure → Json
  | .general reason => reason
  | .authentication reason => reason
  | .access reason => reason
  | .orgNotFound org => .str ("Organization " ++ org.display ++ " not found")
  | .statisticsNotFound org => .str ("No statistics found for organization " ++ org.display)

/-- What a failure tells, as a text. -/
def message (f : Failure) : String := f.reason.display

/-- The organization that a failure names. -/
def org? : Failure → Option Json
  | .orgNotFound org => some org
  | .statisticsNotFound org => some org
  | _ => none

/-- The body of an answer that tells a reason. -/
def envelopeOf (reason : Json) : Json :=
  .obj [("success", .bool false), ("reason", reason)]

/-- The body of the answer. -/
def envelope (f : Failure) : Json := envelopeOf f.reason

end Failure

end Runboard
