import Runboard.Digest.Hmac
import Runboard.Json.Literal
import Runboard.Json.Nesting
import Runboard.Text.Base64

/-!
# `Runboard.Token.Key`: the keys of a secret

A secret is a text. For signing, the text itself is the key. For checking, a secret that is a JSON
text stands for one or several keys: a list for its items, an object with `keys` for those, an
object with `kty` for the key it describes, any other object for its values. Numerals in such a
text stand for themselves. A text that looks like an asymmetric key is never used as a secret.

## Contents

* `isPem`, `isSsh`, `looksAsymmetric`: texts that are no shared secret;
* `KeyFault`, `keyBytes`: the key of one candidate;
* `StackRoom`, `candidates`: the candidates of a secret, and the room for reading it;
* `anyKeySigns`: whether a signature is that of one of the candidates.
-/

namespace Runboard

open Runboard.Text

/-! ## Texts that are no shared secret -/

/-- The kinds of block that a PEM text may begin. -/
def pemKinds : List String :=
  [ "CERTIFICATE", "TRUSTED CERTIFICATE", "PRIVATE KEY", "PUBLIC KEY", "ENCRYPTED PRIVATE KEY",
    "OPENSSH PRIVATE KEY", "DSA PRIVATE KEY", "RSA PRIVATE KEY", "RSA PUBLIC KEY",
    "EC PRIVATE KEY", "DH PARAMETERS", "NEW CERTIFICATE REQUEST", "CERTIFICATE REQUEST",
    "SSH2 PUBLIC KEY", "SSH2 ENCRYPTED PRIVATE KEY", "X509 CRL" ]

/-- The names of the formats of SSH keys. -/
def sshFormats : List String :=
  [ "ssh-ed25519", "ssh-rsa", "ssh-dss", "ecdsa-sha2-nistp256", "ecdsa-sha2-nistp384",
    "ecdsa-sha2-nistp521" ]

/-- What remains of a text after a word at its start. -/
def afterStart? (word : String) (cs : List Char) : Option (List Char) :=
  if word.toList.isPrefixOf cs then some (cs.drop word.length) else none

/-- What remains of a text after a hyphen or a blank at its start. -/
def afterDash? : List Char → Option (List Char)
  | '-' :: cs => some cs
  | ' ' :: cs => some cs
  | _ => none

/-- Whether a PEM marker stands at the start of a text. -/
def startsWithPem (cs : List Char) : Bool :=
  match (afterStart? "----" cs).bind afterDash? |>.bind (afterStart? "BEGIN ") with
  | none => false
  | some rest =>
    pemKinds.any fun kind =>
      ((afterStart? kind rest).bind afterDash? |>.bind (afterStart? "----")).isSome

/-- Whether some end part of a text has a property. -/
def anyTail (p : List Char → Bool) : List Char → Bool
  | [] => p []
  | c :: cs => p (c :: cs) || anyTail p cs

/-- Whether a text holds a PEM marker. -/
def isPem (cs : List Char) : Bool := anyTail startsWithPem cs

/-- The ASCII white space. -/
def isAsciiSpace (c : Char) : Bool :=
  c == ' ' || (0x09 ≤ c.toNat && c.toNat ≤ 0x0d)

/-- Whether a text is a word that names an SSH certificate, a blank, and another word. -/
def isSshCertificate (cs : List Char) : Bool :=
  let word := cs.takeWhile (!isAsciiSpace ·)
  let rest := cs.dropWhile (!isAsciiSpace ·)
  let after := rest.dropWhile fun c => c == ' ' || c == '\t'
  "-cert-v01@openssh.com".toList.isSuffixOf word && after.length < rest.length &&
    match after with
    | [] => false
    | c :: _ => !isAsciiSpace c

/-- Whether a text holds the name of an SSH key format or is an SSH certificate. -/
def isSsh (cs : List Char) : Bool :=
  sshFormats.any (fun name => anyTail (name.toList.isPrefixOf ·) cs) || isSshCertificate cs

/-- Whether a text looks like an asymmetric key or a certificate. -/
def looksAsymmetric (cs : List Char) : Bool := isPem cs || isSsh cs

/-! ## Candidates -/

/-- Why a candidate is no key. -/
inductive KeyFault where
  | asymmetric
  | notText
  | wrongType (received : Json)
  /-- The key material is no text; `kind` names what it is. -/
  | noMaterial (kind : String)
  | badMaterial (fault : Base64.Fault)
  /-- The value under `keys` is no collection. -/
  | notCollection (kind : String)
  /-- The text of the key has no bytes. -/
  | unencodable (fault : EncodeFault)

/-- How a faulty candidate is reported. -/
def KeyFault.message : KeyFault → String
  | .asymmetric =>
    "The specified key is an asymmetric key or x509 certificate and should not be used as an " ++
      "HMAC secret."
  | .notText => "Expecting a string- or bytes-formatted key."
  | .wrongType received =>
    "Incorrect key type. Expected: 'oct', Received: " ++ received.display
  | .noMaterial kind => "'" ++ kind ++ "' object has no attribute 'encode'"
  | .badMaterial fault => fault.message
  | .notCollection kind => "'" ++ kind ++ "' object is not iterable"
  | .unencodable fault => fault.message

/-- The key that a text is. -/
def textKey (s : String) : Except KeyFault (List UInt8) :=
  match encodeWhole s.toList with
  | .error fault => .error (.unencodable fault)
  | .ok bytes => if looksAsymmetric s.toList then .error .asymmetric else .ok bytes

/-- The key that an object describes. -/
def describedKey (fields : List (String × Json)) : Except KeyFault (List UInt8) :=
  match Fields.get? fields "kty" with
  | some (.str "oct") =>
    match Fields.get? fields "k" with
    | some (.str k) =>
      match encodeFault? k.toList, decodeBase64 k.toList with
      | some fault, _ => .error (.unencodable fault)
      | none, .ok bytes => .ok bytes
      | none, .error fault => .error (.badMaterial fault)
    | some v => .error (.noMaterial v.kind)
    | none => .error (.noMaterial Json.null.kind)
  | some v => .error (.wrongType v)
  | none => .error (.wrongType .null)

/-- The key of a candidate. -/
def keyBytes : Json → Except KeyFault (List UInt8)
  | .str s => textKey s
  | .obj fields => describedKey fields
  | _ => .error .notText

/-- The members of a collection: the items of a list, the characters of a text, the names of an
object. -/
def members : Json → Except KeyFault (List Json)
  | .arr items => .ok items
  | .str s => .ok (s.toList.map fun c => .str (String.singleton c))
  | .obj fields => .ok (fields.map fun f => .str f.1)
  | v => .error (.notCollection v.kind)

/-- The brackets inside the outermost one for which `json.loads` has room on the stack, where it reads a
secret, the header of a token and its claims. The stack is that of the interpreter, less the calls that
lead there, so the three differ. -/
structure StackRoom where
  key : Nat
  header : Nat
  claims : Nat

/-- The candidates of a secret. -/
def candidates (room : StackRoom) (secret : String) : Except KeyFault (List Json) :=
  match Json.read room.key Json.NumberReader.verbatim secret.toList with
  | .malformed => .ok [.str secret]
  | .tooDeep _ => .ok [.str secret]
  | .value (.obj fields) =>
    match Fields.get? fields "keys" with
    | some v => members v
    | none =>
      if (Fields.get? fields "kty").isSome || fields.isEmpty then .ok [.obj fields]
      else .ok (fields.map (·.2))
  | .value (.arr items) => .ok items
  | .value v => .ok [v]

/-! ## Signatures -/

/-- Whether a signature is that of one of the candidates, tried in order; a faulty candidate counts
only when it is reached. -/
def anyKeySigns (message signature : List UInt8) : List Json → Except KeyFault Bool
  | [] => .ok false
  | v :: rest =>
    match keyBytes v with
    | .error fault => .error fault
    | .ok key =>
      if hmacSha256 key message = signature then .ok true
      else anyKeySigns message signature rest

/-- Whether a secret is the plain text of a key: no JSON text and no asymmetric key. -/
def isPlainSecret (room : StackRoom) (secret : String) : Bool :=
  secret != "" && !(Json.read room.key Json.NumberReader.verbatim secret.toList).isValue &&
    !looksAsymmetric secret.toList

end Runboard
