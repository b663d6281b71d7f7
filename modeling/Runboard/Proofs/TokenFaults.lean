import Runboard.Proofs.AccessControl

/-!
# `Runboard.Proofs.TokenFaults`: tokens that are neither accepted nor refused

A token that is not accepted is to be refused, with a reason that its sender is told. But reading
may also break off with a fault that is none of the token's, and then nobody answers. Five kinds of
tokens do that, and no others: tokens that hold half a character, tokens whose header or whose
claims are nested too deep, tokens that reach a faulty key of the secret, and tokens with a time
that has no seconds. Claims are looked at only after the signature, so where they are at fault the
token is one that the secret has signed.

Each stage of reading gets a lemma that says at what it breaks off, and the stages are put together
in their order.

## Contents

* `IsTimeless`, `TimeDerails`, `failsWith_checkClaims`: claims about time that have no seconds;
* `Token.Trips`: signatures that come to a faulty key of the secret;
* `Token.Derails`, `Token.failsWith_verify`: the tokens at which reading breaks off;
* `Service.answer_of_unaccepted`: what becomes of a visit with a token that is not accepted.
-/

namespace Runboard

open Runboard.Text

/-! ## Claims about time -/

/-- The value is of a kind that has no seconds, or infinite. -/
def IsTimeless : Json → Prop
  | .null | .arr _ | .obj _ | .float (.infinite _) => True
  | _ => False

/-- The fault is none of the claim's. -/
def ClaimFault.IsForeign (fault : ClaimFault) : Prop := (Token.Fault.claim fault).isRefusal = false

/-- A claim about time is present, and its value has no seconds. -/
def LacksSeconds (claims : List (String × Json)) (claim : TimeClaim) : Prop :=
  ∃ v, Fields.get? claims claim.name = some v ∧ IsTimeless v

/-- The claims about time, looked at in their order, come to one without seconds before one that
does not hold. -/
def TimeDerails (now : Int) (claims : List (String × Json)) : Prop :=
  LacksSeconds claims .issuedAt ∨
    Token.TimeHolds claims .issuedAt (fun _ => True) ∧
      (LacksSeconds claims .notBefore ∨
        Token.TimeHolds claims .notBefore (fun n => n ≤ now) ∧ LacksSeconds claims .expiration)

section Times
variable {claims : List (String × Json)}

theorem failsWith_claimSeconds {claim : TimeClaim} {v : Json} :
    FailsWith ClaimFault.IsForeign (claimSeconds claim v) ↔ IsTimeless v := by
  cases v with
  | str s =>
    cases read : Numeral.lenient s <;>
      simp [claimSeconds, read, IsTimeless, ClaimFault.IsForeign, Token.Fault.isRefusal]
  | float x =>
    cases x <;> simp [claimSeconds, IsTimeless, ClaimFault.IsForeign, Token.Fault.isRefusal]
  | _ => simp [claimSeconds, IsTimeless, ClaimFault.IsForeign, Token.Fault.isRefusal]

/-- A check of a claim about time breaks off only at a claim without seconds. -/
theorem failsWith_checkTime {claim : TimeClaim} {holds : Int → Bool} {otherwise : ClaimFault}
    (own : ¬ otherwise.IsForeign) :
    FailsWith ClaimFault.IsForeign (checkTime claims claim holds otherwise) ↔
      LacksSeconds claims claim := by
  unfold checkTime LacksSeconds
  cases Fields.get? claims claim.name with
  | none => simp
  | some v =>
    simp only [Option.some.injEq, exists_eq_left', ← @failsWith_claimSeconds claim]
    cases claimSeconds claim v with
    | error fault => simp
    | ok n => cases held : holds n <;> simp [held, own]

theorem not_failsWith_checkAudience :
    ¬ FailsWith ClaimFault.IsForeign (checkAudience claims) := by
  unfold checkAudience
  split
  · exact not_failsWith_ok
  · simp [ClaimFault.IsForeign, Token.Fault.isRefusal]
  · next items _ =>
    cases items.all isText <;> simp [ClaimFault.IsForeign, Token.Fault.isRefusal]
  · simp [ClaimFault.IsForeign, Token.Fault.isRefusal]

theorem not_failsWith_checkText {name : String} {otherwise : ClaimFault}
    (own : ¬ otherwise.IsForeign) :
    ¬ FailsWith ClaimFault.IsForeign (checkText claims name otherwise) := by
  unfold checkText
  split
  · exact not_failsWith_ok
  · split
    · exact not_failsWith_ok
    · exact fun fails => own (failsWith_error.1 fails)

theorem not_failsWith_checkAccessTokenHash :
    ¬ FailsWith ClaimFault.IsForeign (checkAccessTokenHash claims) := by
  unfold checkAccessTokenHash
  split <;> simp [ClaimFault.IsForeign, Token.Fault.isRefusal]

/-- The checks of the claims break off only at the times. -/
theorem failsWith_checkClaims {now : Int} :
    FailsWith ClaimFault.IsForeign (checkClaims now claims) ↔ TimeDerails now claims := by
  have own : ∀ fault ∈ [ClaimFault.notInteger .issuedAt, .notYetValid, .expired, .subjectForm,
      .tokenIdForm], ¬ fault.IsForeign := by
    simp [ClaimFault.IsForeign, Token.Fault.isRefusal]
  simp only [List.forall_mem_cons] at own
  obtain ⟨issued, early, late, subject, tokenId, -⟩ := own
  have passed : checkTime claims .issuedAt (fun _ => true) (.notInteger .issuedAt) = .ok () ↔
      Token.TimeHolds claims .issuedAt fun _ => True := by
    simpa using @Token.checkTime_eq_ok claims .issuedAt (fun _ => True) _ (.notInteger .issuedAt)
  unfold checkClaims TimeDerails
  simp only [failsWith_then, failsWith_checkTime issued, failsWith_checkTime early,
    failsWith_checkTime late, passed, Token.checkTime_eq_ok, not_failsWith_checkAudience,
    not_failsWith_checkText subject, not_failsWith_checkText tokenId,
    not_failsWith_checkAccessTokenHash, and_false, or_false]

end Times

namespace Token

/-! ## Keys -/

section Keys
variable {message signature : List UInt8} {keys : List Json} {fault : KeyFault}

/-- The keys are faulty for a signature if one of them is, and none before it has made it. -/
theorem anyKeySigns_eq_error :
    anyKeySigns message signature keys = .error fault ↔ ∃ before v after,
      keys = before ++ v :: after ∧
      (∀ w ∈ before, ∃ key, keyBytes w = .ok key ∧ hmacSha256 key message ≠ signature) ∧
      keyBytes v = .error fault := by
  induction keys with
  | nil => simp [anyKeySigns]
  | cons w rest ih =>
    rw [anyKeySigns]
    constructor
    · intro failed
      cases made : keyBytes w with
      | error fault' =>
        rw [made] at failed
        cases failed
        exact ⟨[], w, rest, rfl, by simp, made⟩
      | ok key =>
        rw [made] at failed
        by_cases signs : hmacSha256 key message = signature
        · simp [signs] at failed
        · simp only [signs, ↓reduceIte] at failed
          obtain ⟨before, v, after, rfl, fine, faulty⟩ := ih.1 failed
          exact ⟨w :: before, v, after, rfl, List.forall_mem_cons.2 ⟨⟨key, made, signs⟩, fine⟩,
            faulty⟩
    · rintro ⟨before, v, after, split, fine, faulty⟩
      cases before with
      | nil =>
        obtain ⟨rfl, rfl⟩ := List.cons.inj split
        rw [faulty]
      | cons w' before =>
        obtain ⟨rfl, rfl⟩ := List.cons.inj split
        obtain ⟨⟨key, made, other⟩, fine⟩ := List.forall_mem_cons.1 fine
        simp only [made, other, ↓reduceIte]
        exact ih.2 ⟨before, v, after, rfl, fine, faulty⟩

end Keys

/-- The signature of a token comes to a faulty key of the secret before one that has made it, or
the secret has no keys to be tried. -/
def KeyRaises (room : StackRoom) (secret : String) (p : Parts) : Prop :=
  (∃ fault, candidates room secret = .error fault) ∨ ∃ before v after fault,
    candidates room secret = .ok (before ++ v :: after) ∧
    (∀ w ∈ before, ∃ key, keyBytes w = .ok key ∧
      hmacSha256 key (encodeUtf8 p.signed) ≠ p.signature) ∧
    keyBytes v = .error fault

/-- The fault is none of the token's. -/
def Fault.IsForeign (fault : Fault) : Prop := fault.isRefusal = false

section Signatures
variable {room : StackRoom} {secret : String} {p : Parts}

theorem failsWith_checkSignature :
    FailsWith Fault.IsForeign (checkSignature room secret p) ↔ KeyRaises room secret p := by
  unfold checkSignature KeyRaises
  cases candidates room secret with
  | error fault => simp [Fault.IsForeign, Fault.isRefusal]
  | ok keys =>
    have faulty : (∃ fault, anyKeySigns (encodeUtf8 p.signed) p.signature keys = .error fault) ↔
        ∃ before v after fault, keys = before ++ v :: after ∧
          (∀ w ∈ before, ∃ key, keyBytes w = .ok key ∧
            hmacSha256 key (encodeUtf8 p.signed) ≠ p.signature) ∧
          keyBytes v = .error fault := by
      simp only [anyKeySigns_eq_error]
      constructor
      · rintro ⟨fault, before, v, after, found⟩
        exact ⟨before, v, after, fault, found⟩
      · rintro ⟨before, v, after, fault, found⟩
        exact ⟨fault, before, v, after, found⟩
    simp only [reduceCtorEq, exists_false, false_or, Except.ok.injEq, ← faulty]
    cases anyKeySigns (encodeUtf8 p.signed) p.signature keys with
    | error fault => simp [Fault.IsForeign, Fault.isRefusal]
    | ok signed => cases signed <;> simp [Fault.IsForeign, Fault.isRefusal]

end Signatures

/-! ## Tokens -/

/-- Reading a token breaks off with a fault that is none of the token's. -/
inductive Derails (room : StackRoom) (secret : String) (now : Instant) (token : String) : Prop
  /-- The token has no bytes, since it holds half a character. -/
  | half (half : holdsHalf token = true)
  /-- The header is nested too deep. -/
  | header {header claims signature : List Char} {bytes : List UInt8} {bracket : Json.Bracket}
      (whole : holdsHalf token = false) (split : Splits token header claims signature)
      (decoded : decodeBase64 header = .ok bytes)
      (deep : readBytes room.header bytes = .tooDeep bracket)
  /-- The signature comes to a faulty key of the secret. -/
  | key {p : Parts} (taken : parts room token = .ok p)
      (algorithm : Fields.get? p.header "alg" = some (.str algorithmName))
      (raises : KeyRaises room secret p)
  /-- The claims, which the secret has signed, are nested too deep. -/
  | claims {p : Parts} {bracket : Json.Bracket} (taken : parts room token = .ok p)
      (algorithm : Fields.get? p.header "alg" = some (.str algorithmName))
      (signed : Accepts room secret p) (deep : readBytes room.claims p.claims = .tooDeep bracket)
  /-- The claims, which the secret has signed, have a time without seconds. -/
  | time {p : Parts} {body : List (String × Json)} (taken : parts room token = .ok p)
      (algorithm : Fields.get? p.header "alg" = some (.str algorithmName))
      (signed : Accepts room secret p) (read : readBytes room.claims p.claims = .value (.obj body))
      (timeless : TimeDerails now.seconds body)

section Reading
variable {room : StackRoom} {secret token : String} {now : Instant}

theorem failsWith_fieldsOf {depth : Nat} {bytes : List UInt8} {textFault formFault : Fault}
    (text : ¬ textFault.IsForeign) (form : ¬ formFault.IsForeign) :
    FailsWith Fault.IsForeign (fieldsOf depth bytes textFault formFault) ↔
      ∃ bracket, readBytes depth bytes = .tooDeep bracket := by
  unfold fieldsOf
  cases readBytes depth bytes with
  | tooDeep bracket => simp [Fault.IsForeign, Fault.isRefusal]
  | malformed => simp [text]
  | value v => cases v <;> simp [form]

theorem failsWith_headerOf {segment : List Char} :
    FailsWith Fault.IsForeign (headerOf room segment) ↔
      ∃ bytes bracket, decodeBase64 segment = .ok bytes ∧
        readBytes room.header bytes = .tooDeep bracket := by
  unfold headerOf
  cases decodeBase64 segment with
  | error fault => simp [Fault.IsForeign, Fault.isRefusal]
  | ok bytes =>
    have own : ¬ Fault.headerText.IsForeign ∧ ¬ Fault.headerForm.IsForeign := by
      simp [Fault.IsForeign, Fault.isRefusal]
    simp [failsWith_fieldsOf own.1 own.2]

/-- Taking a token apart breaks off at half a character, or at the header. -/
theorem failsWith_parts : FailsWith Fault.IsForeign (parts room token) ↔
    holdsHalf token = true ∨ holdsHalf token = false ∧
      ∃ header claims signature bytes bracket, Splits token header claims signature ∧
        decodeBase64 header = .ok bytes ∧ readBytes room.header bytes = .tooDeep bracket := by
  cases whole : holdsHalf token with
  | true =>
    obtain ⟨fault, unread⟩ := parts_of_half whole
    rw [unread]
    simp [Fault.IsForeign, Fault.isRefusal]
  | false =>
    simp only [Bool.false_eq_true, false_or, true_and]
    by_cases split : ∃ header claims signature, Splits token header claims signature
    · obtain ⟨header, claims, signature, split⟩ := split
      -- After the header, all that can be wrong is the padding of the other segments.
      have padding : ∀ segment : List Char, ∀ fault : Fault, ¬ fault.IsForeign →
          ¬ FailsWith Fault.IsForeign ((decodeBase64 segment).mapError fun _ => fault) := by
        intro segment fault own
        rw [failsWith_mapError]
        rintro ⟨-, -, foreign⟩
        exact own foreign
      rw [parts_of_splits whole split]
      simp only [failsWith_bind, failsWith_headerOf]
      constructor
      · rintro (⟨bytes, bracket, decoded, deep⟩ | ⟨_, -, fails | ⟨_, -, fails | ⟨_, -, fails⟩⟩⟩)
        · exact ⟨header, claims, signature, bytes, bracket, split, decoded, deep⟩
        · exact absurd fails (padding _ _ (by simp [Fault.IsForeign, Fault.isRefusal]))
        · exact absurd fails (padding _ _ (by simp [Fault.IsForeign, Fault.isRefusal]))
        · exact absurd fails not_failsWith_ok
      · rintro ⟨header', claims', signature', bytes, bracket, split', decoded, deep⟩
        obtain ⟨rfl, -⟩ := split.unique split'
        exact .inl ⟨bytes, bracket, decoded, deep⟩
    · simp only [not_exists] at split
      rw [parts_of_not_splits whole split]
      constructor
      · intro fails
        simp [Fault.IsForeign, Fault.isRefusal] at fails
      · rintro ⟨header, claims, signature, -, -, split', -⟩
        exact absurd split' (split header claims signature)

theorem not_failsWith_checkAlgorithm {header : List (String × Json)} :
    ¬ FailsWith Fault.IsForeign (checkAlgorithm header) := by
  unfold checkAlgorithm
  split
  · simp [Fault.IsForeign, Fault.isRefusal]
  · split
    · simp [Fault.IsForeign, Fault.isRefusal]
    · split
      · split <;> simp [Fault.IsForeign, Fault.isRefusal]
      · simp [Fault.IsForeign, Fault.isRefusal]

/-- Reading breaks off at the tokens that derail it, and at no others. -/
theorem failsWith_verify :
    FailsWith Fault.IsForeign (verify room secret now token) ↔ Derails room secret now token := by
  have own : ¬ Fault.claimsText.IsForeign ∧ ¬ Fault.claimsForm.IsForeign := by
    simp [Fault.IsForeign, Fault.isRefusal]
  have claimsFail : ∀ bytes, FailsWith Fault.IsForeign (claimsOf room bytes) ↔
      ∃ bracket, readBytes room.claims bytes = .tooDeep bracket :=
    fun bytes => failsWith_fieldsOf own.1 own.2
  have timesFail : ∀ claims, FailsWith Fault.IsForeign
      ((checkClaims now.seconds claims).mapError Fault.claim) ↔ TimeDerails now.seconds claims :=
    fun claims => failsWith_mapError.trans failsWith_checkClaims
  have ended : ∀ claims, ¬ FailsWith Fault.IsForeign
      (pure claims : Except Fault (List (String × Json))) := fun _ => not_failsWith_ok
  rw [verify_eq, failsWith_bind]
  simp only [failsWith_then]
  simp only [failsWith_bind, failsWith_parts, not_failsWith_checkAlgorithm, false_or,
    failsWith_checkSignature, claimsFail, timesFail, ended, and_false, exists_false, or_false,
    checkAlgorithm_eq_ok, checkSignature_eq_ok]
  constructor
  · rintro ((half | ⟨whole, header, claims, signature, bytes, bracket, split, decoded, deep⟩) |
      ⟨p, taken, algorithm, raises | ⟨signed, ⟨bracket, deep⟩ | ⟨body, read, timeless⟩⟩⟩)
    · exact .half half
    · exact .header whole split decoded deep
    · exact .key taken algorithm raises
    · exact .claims taken algorithm signed deep
    · exact .time taken algorithm signed (fieldsOf_eq_ok.1 read) timeless
  · intro derails
    cases derails with
    | half half => exact .inl (.inl half)
    | header whole split decoded deep => exact .inl (.inr ⟨whole, _, _, _, _, _, split, decoded, deep⟩)
    | key taken algorithm raises => exact .inr ⟨_, taken, algorithm, .inl raises⟩
    | claims taken algorithm signed deep =>
      exact .inr ⟨_, taken, algorithm, .inr ⟨signed, .inl ⟨_, deep⟩⟩⟩
    | time taken algorithm signed read timeless =>
      exact .inr ⟨_, taken, algorithm, .inr ⟨signed, .inr ⟨_, fieldsOf_eq_ok.2 read, timeless⟩⟩⟩

/-- A token derails reading exactly if it is neither accepted nor refused. -/
theorem authenticate_eq_faulty_iff :
    (∃ fault, authenticate room secret now token = .error (.faulty fault)) ↔
      Derails room secret now token := by
  rw [← failsWith_verify]
  unfold authenticate FailsWith Fault.IsForeign
  cases verify room secret now token with
  | error fault =>
    cases foreign : fault.isRefusal <;> simp [foreign, AuthenticationError.refusal]
  | ok claims =>
    -- Claims that name nobody are refused.
    simp only [reduceCtorEq, false_and, exists_false, iff_false, not_exists]
    intro fault faulty
    unfold Caller.ofClaims at faulty
    split at faulty
    · cases faulty
    · split at faulty <;> cases faulty

end Reading

end Token

/-! ## Answers -/

namespace Service
variable {s : Service} {r : Request} {page : Page}

/-- A token that does not derail reading is accepted, or refused, and then its sender is told the
reason. A token that derails it is neither, and the visit ends without a prepared answer. -/
theorem answer_of_unaccepted (visits : r.Visits page) {k : KeptSettings} {cache : SettingsCache}
    (kept : s.cache.get = (.ok k, cache)) {token : String}
    (header : r.header? "authorization" = some ("Bearer " ++ token)) :
    (¬ Token.Derails s.room k.settings.secretKey s.now token →
      (∃ c, Token.authenticate s.room k.settings.secretKey s.now token = .ok c) ∨ ∃ reason,
        Token.authenticate s.room k.settings.secretKey s.now token =
          .error (.refused (.authentication (.str reason))) ∧
        (s.answer r).1.response.status = 401 ∧
        (s.answer r).1.response.body =
          .json (.obj [("success", .bool false), ("reason", .str reason)])) ∧
    (Token.Derails s.room k.settings.secretKey s.now token → ∃ fault,
      Token.authenticate s.room k.settings.secretKey s.now token = .error (.faulty fault) ∧
      (s.answer r).1 = ⟨.internalError, some (.token fault)⟩) := by
  constructor
  · intro rails
    cases known : Token.authenticate s.room k.settings.secretKey s.now token with
    | ok c => exact .inl ⟨c, rfl⟩
    | error e =>
      cases e with
      | faulty fault => exact absurd (Token.authenticate_eq_faulty_iff.1 ⟨fault, known⟩) rails
      | refused f =>
        obtain ⟨reason, rfl, -, whole⟩ := refusal_of_authenticate known
        refine .inr ⟨reason, rfl, ?_⟩
        rw [answer_of_stop visits (identify_of_refused header kept known)]
        exact replyTo_of_failure (f := .authentication (.str reason)) rfl whole
  · intro derails
    obtain ⟨fault, faulty⟩ := Token.authenticate_eq_faulty_iff.2 derails
    refine ⟨fault, faulty, ?_⟩
    rw [answer_of_stop visits (identify_of_faulty header kept faulty)]
    rfl

/-- Claims of a caller whose token is to end at no time. -/
def endlessClaims : List (String × Json) :=
  [("sub", .str "u-1"), ("org", .str acmeId), ("type", .str "access"), ("exp", .null)]

/-- A token with these claims, signed with the secret of the service. -/
def endlessToken : String := Token.sign (encodeUtf8 plainSettings.secretKey.toList) endlessClaims

/-- A visit with this token. -/
def endlessVisit : Request := withBearer ⟨"GET", "/api/v1/dashboard/apps", []⟩ endlessToken

theorem isCarried_endlessClaims : Token.IsCarried endlessClaims where
  names := by decide
  joined := by
    intro f hf
    simp only [endlessClaims, List.mem_cons, List.not_mem_nil, or_false] at hf
    rcases hf with rfl | rfl | rfl | rfl <;> exact Json.isJoined_of_holdsHalf (by decide)
  single := by
    intro f hf
    simp only [endlessClaims, List.mem_cons, List.not_mem_nil, or_false] at hf
    rcases hf with rfl | rfl | rfl | rfl
    · exact Json.isJoined_of_holdsHalf (by decide)
    · exact Json.isJoined_of_holdsHalf (by decide)
    · exact Json.isJoined_of_holdsHalf (by decide)
    · trivial

theorem visits_endlessVisit : endlessVisit.Visits .apps := visits_withBearer rfl rfl trivial

theorem header_endlessVisit :
    endlessVisit.header? "authorization" = some ("Bearer " ++ endlessToken) :=
  header?_withBearer rfl endlessToken

/-- The token without an end derails reading, and its visit is not answered. -/
theorem answer_of_unaccepted_endless :
    Token.Derails plainRoom plainSettings.secretKey (plainService acme).now endlessToken ∧
      ∃ fault, ((plainService acme).answer endlessVisit).1 = ⟨.internalError, some (.token fault)⟩ := by
  obtain ⟨p, taken, header, claims, signed⟩ : ∃ p, Token.parts plainRoom endlessToken = .ok p ∧
      p.header = Token.headerFields ∧
      p.claims = encodeUtf8 (Json.renderChars .compact (.obj endlessClaims)) ∧
      p.signature = hmacSha256 (encodeUtf8 plainSettings.secretKey.toList) (encodeUtf8 p.signed) :=
    ⟨_, Token.parts_sign _ _, rfl, rfl, rfl⟩
  have accepted := Token.checkSignature_eq_ok.1
    (Token.checkSignature_of_key (@Token.isPlainKey_words plainRoom) signed)
  have read : Token.readBytes plainRoom.claims p.claims = .value (.obj endlessClaims) := by
    rw [claims]
    exact Token.fieldsOf_eq_ok.1
      (Token.fieldsOf_encodeUtf8 isCarried_endlessClaims .claimsText .claimsForm)
  have algorithm : Fields.get? p.header "alg" = some (.str Token.algorithmName) := by
    rw [header]
    rfl
  have absent : ∀ name ∈ ["iat", "nbf"], Fields.get? endlessClaims name = none := by decide
  have timeless : TimeDerails (plainService acme).now.seconds endlessClaims := by
    refine .inr ⟨?_, .inr ⟨?_, .null, rfl, trivial⟩⟩
    · intro v present
      cases (absent _ (by decide)).symm.trans present
    · intro v present
      cases (absent _ (by decide)).symm.trans present
  have derails : Token.Derails plainRoom plainSettings.secretKey (plainService acme).now
      endlessToken :=
    .time taken algorithm accepted read timeless
  obtain ⟨fault, -, answered⟩ := (answer_of_unaccepted (s := plainService acme) visits_endlessVisit
    (k := { settings := plainSettings }) rfl header_endlessVisit).2 derails
  exact ⟨derails, fault, answered⟩

/-- A token that the secret has signed, with an object of claims, is neither accepted nor refused,
and the visit with it ends without a prepared answer. -/
theorem unanswered_endlessVisit :
    endlessVisit.Visits .apps ∧
      endlessVisit.header? "authorization" = some ("Bearer " ++ endlessToken) ∧
      (∀ c, Token.authenticate plainRoom plainSettings.secretKey (plainService acme).now
        endlessToken ≠ .ok c) ∧
      (∀ f, Token.authenticate plainRoom plainSettings.secretKey (plainService acme).now
        endlessToken ≠ .error (.refused f)) ∧
      ((plainService acme).answer endlessVisit).1.response = .internalError := by
  have verified := Token.verify_sign (@Token.isPlainKey_words plainRoom) isCarried_endlessClaims
    (plainService acme).now
  have checked : checkClaims (plainService acme).now.seconds endlessClaims =
      .error (.timelessKind "NoneType") := rfl
  rw [checked] at verified
  have faulty : Token.authenticate plainRoom plainSettings.secretKey (plainService acme).now
      endlessToken = .error (.faulty (.claim (.timelessKind "NoneType"))) := by
    rw [Token.authenticate,
      show Token.verify plainRoom plainSettings.secretKey _ endlessToken = _ from verified]
    rfl
  refine ⟨visits_endlessVisit, header_endlessVisit, ?_, ?_, ?_⟩
  · intro c known
    cases faulty.symm.trans known
  · intro f refused
    cases faulty.symm.trans refused
  · have kept : (plainService acme).cache.get =
        (.ok { settings := plainSettings }, (plainService acme).cache) := rfl
    have stopped := identify_of_faulty header_endlessVisit kept faulty
    rw [answer_of_stop visits_endlessVisit stopped]
    rfl

end Service

end Runboard
