import Runboard.Text.Split
import Runboard.Token.Claims
import Runboard.Token.Key

/-!
# `Runboard.Token.Basic`: reading a token

A token is three segments of base64 with points between them: a header, the claims, and the
signature of the first two. It is read in a fixed order, and the first fault decides: the split and
the header, the claims and the signature as bytes, the algorithm, the signature, the claims as an
object, and last what they say.

## Contents

* `Token.Fault`, `Token.Fault.message`: why a token is refused;
* `Token.Parts`, `Token.parts`: the segments of a token;
* `Token.checkSignature`, `Token.claims`, `Token.verify`: the stages and the whole.
-/

namespace Runboard

open Runboard.Text

namespace Token

/-! ## Faults -/

/-- Why a token is refused. -/
inductive Fault where
  /-- The token has no bytes. -/
  | unencodable (fault : EncodeFault)
  | segments
  | headerText
  | headerForm
  | claimsPadding
  | signaturePadding
  | noAlgorithm
  | algorithm
  | key (fault : KeyFault)
  | signature
  | claimsText
  | claimsForm
  | claim (fault : ClaimFault)
  /-- The header or the claims are nested too deep. -/
  | tooDeep (bracket : Json.Bracket)

/-- How a refused token is reported. What the reader of `JSON` or of UTF-8 reports of a segment that it
cannot read is not modelled; the message ends before it. -/
def Fault.message : Fault → String
  | .unencodable fault => fault.message
  | .segments => "Not enough segments"
  | .headerText => "Invalid header string: "
  | .headerForm => "Invalid header string: must be a json object"
  | .claimsPadding => "Invalid payload padding"
  | .signaturePadding => "Invalid crypto padding"
  | .noAlgorithm => "No algorithm was specified in the JWS header."
  | .algorithm => "The specified alg value is not allowed"
  | .key fault => fault.message
  | .signature => "Signature verification failed."
  | .claimsText => "Invalid payload string: "
  | .claimsForm => "Invalid payload string: must be a json object"
  | .claim fault => fault.message
  | .tooDeep bracket =>
    "maximum recursion depth exceeded while decoding a JSON " ++ bracket.name ++
      " from a unicode string"

/-- Whether a fault is one of the token. A token without bytes, a faulty key, an infinite time, a
claim about time that has no seconds, and too deep nesting are not reported as faults of the
token. -/
def Fault.isRefusal : Fault → Bool
  | .unencodable _ => false
  | .key _ => false
  | .claim .infiniteTime => false
  | .claim (.timelessKind _) => false
  | .tooDeep _ => false
  | _ => true

/-! ## Segments -/

/-- The only algorithm of signatures. -/
def algorithmName : String := "HS256"

/-- A token taken apart: the header's fields, the bytes of the claims, the text that is signed, and
the signature. -/
structure Parts where
  header : List (String × Json)
  claims : List UInt8
  signed : List Char
  signature : List UInt8

/-- What some bytes are as a JSON text. -/
def readBytes (room : Nat) (bytes : List UInt8) : Json.Reading :=
  match decodeUtf8? bytes with
  | some cs => Json.read room (Json.NumberReader.bounded Numeral.maxDigits) cs
  | none => .malformed

/-- The fields of the object that some bytes are. -/
def fieldsOf (room : Nat) (bytes : List UInt8) (textFault formFault : Fault) :
    Except Fault (List (String × Json)) :=
  match readBytes room bytes with
  | .tooDeep bracket => .error (.tooDeep bracket)
  | .malformed => .error textFault
  | .value (.obj fields) => .ok fields
  | .value _ => .error formFault

/-- The header of a token, from its segment. -/
def headerOf (room : StackRoom) (segment : List Char) : Except Fault (List (String × Json)) :=
  match decodeBase64 segment with
  | .error _ => .error .segments
  | .ok bytes => fieldsOf room.header bytes .headerText .headerForm

/-- A token taken apart. -/
def parts (room : StackRoom) (token : String) : Except Fault Parts :=
  match encodeFault? token.toList, splitLast '.' token.toList with
  | some fault, _ => .error (.unencodable fault)
  | none, none => .error .segments
  | none, some (signed, signature) =>
    match splitFirst '.' signed with
    | none => .error .segments
    | some (header, claims) =>
      match headerOf room header with
      | .error fault => .error fault
      | .ok fields =>
        match decodeBase64 claims with
        | .error _ => .error .claimsPadding
        | .ok claimBytes =>
          match decodeBase64 signature with
          | .error _ => .error .signaturePadding
          | .ok signatureBytes => .ok ⟨fields, claimBytes, signed, signatureBytes⟩

/-! ## Checks -/

/-- Checks the algorithm that a header names. -/
def checkAlgorithm (header : List (String × Json)) : Except Fault Unit :=
  match Fields.get? header "alg" with
  | none => .error .noAlgorithm
  | some alg =>
    if !alg.truthy then .error .noAlgorithm
    else
      match alg with
      | .str name => if name = algorithmName then .ok () else .error .algorithm
      | _ => .error .algorithm

/-- Checks a signature against the keys of a secret. -/
def checkSignature (room : StackRoom) (secret : String) (p : Parts) : Except Fault Unit :=
  match candidates room secret with
  | .error fault => .error (.key fault)
  | .ok keys =>
    match anyKeySigns (encodeUtf8 p.signed) p.signature keys with
    | .error fault => .error (.key fault)
    | .ok true => .ok ()
    | .ok false => .error .signature

/-- The claims of some bytes. -/
def claimsOf (room : StackRoom) (bytes : List UInt8) : Except Fault (List (String × Json)) :=
  fieldsOf room.claims bytes .claimsText .claimsForm

/-- The claims of a token that is signed with a secret and holds at a moment. -/
def verify (room : StackRoom) (secret : String) (now : Instant) (token : String) :
    Except Fault (List (String × Json)) :=
  match parts room token with
  | .error fault => .error fault
  | .ok p =>
    match checkAlgorithm p.header with
    | .error fault => .error fault
    | .ok () =>
      match checkSignature room secret p with
      | .error fault => .error fault
      | .ok () =>
        match claimsOf room p.claims with
        | .error fault => .error fault
        | .ok claims =>
          match checkClaims now.seconds claims with
          | .error fault => .error (.claim fault)
          | .ok () => .ok claims

end Token

end Runboard
