import Runboard.Json.Printer
import Runboard.Token.Basic

/-!
# `Runboard.Token.Issue`: making a token

A token for a caller carries the caller's identity and organization, the second of its making and
the second of its end, and is signed with the secret itself.

## Contents

* `Identity`: whom a token is made for;
* `IssueFault`: why no token can be made;
* `Token.claimsFor`, `Token.sign`, `Token.issue`.
-/

namespace Runboard

open Runboard.Text

/-- Whom a token is made for. The values are carried as they are given. -/
structure Identity where
  userId : Json
  username : Json
  orgId : Json
  supportAccess : Json := .bool false

/-- Why no token can be made. -/
inductive IssueFault where
  /-- The lifetime cannot be, or ends outside the calendar. -/
  | lifetime (fault : ShiftFault)
  | key (fault : KeyFault)

/-- How an unmade token is reported. -/
def IssueFault.message : IssueFault → String
  | .lifetime fault => fault.message
  | .key fault => fault.message

/-- The microseconds of some minutes. -/
def minutesSpan (minutes : Int) : Int := minutes * 60000000

namespace Token

/-- The header of every token. -/
def header : Json := .obj [("alg", .str algorithmName), ("typ", .str "JWT")]

/-- The claims of a token. -/
def claimsFor (who : Identity) (issued expires : Int) : List (String × Json) :=
  [ ("sub", who.userId), ("username", who.username), ("org", who.orgId),
    ("support_access", who.supportAccess), ("type", .str "access"), ("iat", .int issued),
    ("exp", .int expires) ]

/-- A value as a segment of a token. -/
def segment (v : Json) : List Char :=
  encodeBase64Url (encodeUtf8 (Json.renderChars .compact v))

/-- The text of a token that is signed. -/
def signedText (claims : List (String × Json)) : List Char :=
  segment header ++ '.' :: segment (.obj claims)

/-- The token of some claims under a key. -/
def sign (key : List UInt8) (claims : List (String × Json)) : String :=
  let text := signedText claims
  String.ofList (text ++ '.' :: encodeBase64Url (hmacSha256 key (encodeUtf8 text)))

/-- A token made at a moment for a span of microseconds. -/
def issue (secret : String) (now : Instant) (who : Identity) (delta : Int) :
    Except IssueFault String :=
  match now.shift delta with
  | .error fault => .error (.lifetime fault)
  | .ok expires =>
    match textKey secret with
    | .error fault => .error (.key fault)
    | .ok key => .ok (sign key (claimsFor who now.seconds expires.seconds))

end Token

end Runboard
