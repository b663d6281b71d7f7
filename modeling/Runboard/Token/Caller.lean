import Runboard.Error
import Runboard.Token.Basic

/-!
# `Runboard.Token.Caller`: who is calling

A token that is verified and is an access token names a caller: a user and the organization that
the user works in. The user must be named and so must the organization; a missing user name is
replaced by the user's id.

## Contents

* `Caller`: a resolved identity;
* `AuthenticationError`: a refusal, or a fault that is not the token's;
* `Caller.ofClaims`, `Token.authenticate`.
-/

namespace Runboard

/-- A caller, as a token names it. -/
structure Caller where
  userId : Json
  username : Json
  orgId : Json
  supportAccess : Bool

/-- Why a caller is not authenticated: the token is refused, or reading it failed in another way. -/
inductive AuthenticationError where
  | refused (failure : Failure)
  | faulty (fault : Token.Fault)

/-- The refusal with a reason. -/
def AuthenticationError.refusal (reason : String) : AuthenticationError :=
  .refused (.authentication (.str reason))

/-- The value of a claim that counts as present. -/
def presentClaim? (claims : List (String × Json)) (name : String) : Option Json :=
  match Fields.get? claims name with
  | some v => if v.truthy then some v else none
  | none => none

/-- Whether the claims are those of an access token. -/
def isAccess (claims : List (String × Json)) : Bool :=
  match Fields.get? claims "type" with
  | some (.str s) => s == "access"
  | _ => false

/-- The caller that verified claims name. -/
def Caller.ofClaims (claims : List (String × Json)) : Except AuthenticationError Caller :=
  if !isAccess claims then .error (.refusal "Token is not an access token")
  else
    match presentClaim? claims "sub", presentClaim? claims "org" with
    | some (.str user), some org =>
      .ok {
        userId := .str user
        username := (presentClaim? claims "username").getD (.str user)
        orgId := org
        supportAccess := (presentClaim? claims "support_access").isSome }
    | _, _ => .error (.refusal "Token is missing user or organization")

/-- The caller of a token. -/
def Token.authenticate (room : StackRoom) (secret : String) (now : Instant) (token : String) :
    Except AuthenticationError Caller :=
  match Token.verify room secret now token with
  | .error fault =>
    if fault.isRefusal then .error (.refusal ("Invalid token: " ++ fault.message))
    else .error (.faulty fault)
  | .ok claims => Caller.ofClaims claims

end Runboard
