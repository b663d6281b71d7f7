import Runboard.Json.Basic
import Runboard.Number.Numeral
import Runboard.Time.Instant

/-!
# `Runboard.Token.Claims`: the registered claims of a token

A token may say when it was issued, from when and until when it holds, and for whom it is meant. The
times are whole seconds. A claim that is absent is not checked; one that is present must have the
right form, and a token that is meant for an audience is refused.

## Contents

* `TimeClaim`, `ClaimFault`: the claims about time and what may be wrong with a claim;
* `claimSeconds`: the seconds of a claim about time;
* `checkClaims`: all checks, in their order.
-/

namespace Runboard

/-- The claims about time. -/
inductive TimeClaim where
  | issuedAt
  | notBefore
  | expiration
  deriving DecidableEq, Repr

/-- The name of a claim in a token. -/
def TimeClaim.name : TimeClaim → String
  | .issuedAt => "iat"
  | .notBefore => "nbf"
  | .expiration => "exp"

/-- The words for a claim in messages. -/
def TimeClaim.title : TimeClaim → String
  | .issuedAt => "Issued At"
  | .notBefore => "Not Before"
  | .expiration => "Expiration Time"

/-- What is wrong with a claim. -/
inductive ClaimFault where
  | notInteger (claim : TimeClaim)
  /-- A claim about time is infinite. -/
  | infiniteTime
  /-- A claim about time is of a kind that has no seconds. -/
  | timelessKind (kind : String)
  | notYetValid
  | expired
  | audienceForm
  | audience
  | subjectForm
  | tokenIdForm
  | accessTokenHash
  deriving DecidableEq, Repr

/-- How a faulty claim is reported. -/
def ClaimFault.message : ClaimFault → String
  | .notInteger claim => claim.title ++ " claim (" ++ claim.name ++ ") must be an integer."
  | .infiniteTime => "cannot convert float infinity to integer"
  | .timelessKind kind =>
    "int() argument must be a string, a bytes-like object or a real number, not '" ++ kind ++ "'"
  | .notYetValid => "The token is not yet valid (nbf)"
  | .expired => "Signature has expired."
  | .audienceForm => "Invalid claim format in token"
  | .audience => "Invalid audience"
  | .subjectForm => "Subject must be a string."
  | .tokenIdForm => "JWT ID must be a string."
  | .accessTokenHash => "No access_token provided to compare against at_hash claim."

/-! ## Times -/

/-- The seconds of a claim about time: of an integer, of a numeral, of a truth value, or the integer
part of a double. -/
def claimSeconds (claim : TimeClaim) : Json → Except ClaimFault Int
  | .int n => .ok n
  | .bool b => .ok (if b then 1 else 0)
  | .str s =>
    match Numeral.lenient s with
    | .ok n => .ok n
    | .error _ => .error (.notInteger claim)
  | .float .nan => .error (.notInteger claim)
  | .float (.infinite _) => .error .infiniteTime
  | .float (.finite negative m e) =>
    .ok (((Binary64.finite negative m e).truncate?).getD 0)
  | v => .error (.timelessKind v.kind)

/-- Checks a claim about time, if it is present, by a condition on its seconds. -/
def checkTime (claims : List (String × Json)) (claim : TimeClaim) (holds : Int → Bool)
    (otherwise : ClaimFault) : Except ClaimFault Unit :=
  match Fields.get? claims claim.name with
  | none => .ok ()
  | some v =>
    match claimSeconds claim v with
    | .error fault => .error fault
    | .ok s => if holds s then .ok () else .error otherwise

/-! ## The other claims -/

/-- Whether a value is a text. -/
def isText : Json → Bool
  | .str _ => true
  | _ => false

/-- Refuses every audience, by its form or because none is expected. -/
def checkAudience (claims : List (String × Json)) : Except ClaimFault Unit :=
  match Fields.get? claims "aud" with
  | none => .ok ()
  | some (.str _) => .error .audience
  | some (.arr items) => .error (if items.all isText then .audience else .audienceForm)
  | some _ => .error .audienceForm

/-- A claim that must be a text if it is present. -/
def checkText (claims : List (String × Json)) (name : String) (otherwise : ClaimFault) :
    Except ClaimFault Unit :=
  match Fields.get? claims name with
  | none => .ok ()
  | some v => if isText v then .ok () else .error otherwise

/-- Refuses the claim that ties a token to another one. -/
def checkAccessTokenHash (claims : List (String × Json)) : Except ClaimFault Unit :=
  match Fields.get? claims "at_hash" with
  | none => .ok ()
  | some _ => .error .accessTokenHash

/-- All checks of the registered claims at a moment, in their order. -/
def checkClaims (now : Int) (claims : List (String × Json)) : Except ClaimFault Unit := do
  checkTime claims .issuedAt (fun _ => true) (.notInteger .issuedAt)
  checkTime claims .notBefore (fun s => decide (s ≤ now)) .notYetValid
  checkTime claims .expiration (fun s => decide (now ≤ s)) .expired
  checkAudience claims
  checkText claims "sub" .subjectForm
  checkText claims "jti" .tokenIdForm
  checkAccessTokenHash claims

end Runboard
