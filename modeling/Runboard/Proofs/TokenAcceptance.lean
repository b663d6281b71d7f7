import Runboard.Proofs.Stages
import Runboard.Proofs.TokenRoundTrip

/-!
# `Runboard.Proofs.TokenAcceptance`: which tokens are accepted

A token is read in stages: it is split at its points, its header is read, then its bytes, the
algorithm is looked at, the signature, the claims, and last what the claims say. Each stage lets a
token pass on a condition of its own, and a token is accepted exactly if it passes all of them. So
whatever text is sent, its sender is known only by claims that the secret has signed, that are those
of an access token, and that hold at the moment.

The conditions speak of what the segments are read as. How a segment is written is left open by the
letters, which are read leniently, but the signature is one of the text as it stands.

## Contents

* `Token.Splits`, `Token.parts_of_splits`, `Token.parts_of_not_splits`: a token taken apart;
* `Token.Says`, `Token.fieldsOf_eq_ok`: what a segment says;
* `Token.checkAlgorithm_eq_ok`: the algorithm;
* `Token.Accepts`, `Token.checkSignature_eq_ok`, `Token.StandsAlone.accepts_iff`: signatures that a
  secret accepts;
* `Token.TimeHolds`, `Token.ClaimsHold`, `Token.checkClaims_eq_ok`: claims that hold;
* `Token.ofClaims_eq_ok`: the caller that claims name;
* `Token.verify_eq`, `Token.verify_eq_ok`: the stages in their order;
* `Token.accepted_iff`: which tokens are accepted, and for whom.
-/

namespace Runboard

open Runboard.Text

namespace Token

variable {room : StackRoom}

/-! ## A token taken apart -/

theorem splitLast_eq_some {sep : Char} {cs before after : List Char}
    (h : splitLast sep cs = some (before, after)) :
    cs = before ++ sep :: after ∧ sep ∉ after := by
  obtain ⟨⟨after', before'⟩, split, parts⟩ := Option.map_eq_some_iff.1 h
  obtain ⟨rfl, rfl⟩ := Prod.mk.inj parts
  obtain ⟨reversed, absent⟩ := splitFirst_eq_some split
  refine ⟨?_, fun mem => absent (List.mem_reverse.1 mem)⟩
  rw [← List.reverse_reverse cs, reversed]
  simp

/-- The token is three segments with points between them. The claims may hold points of their own. -/
structure Splits (token : String) (header claims signature : List Char) : Prop where
  text : token.toList = header ++ '.' :: (claims ++ '.' :: signature)
  header : '.' ∉ header
  signature : '.' ∉ signature

section Parts
variable {token : String} {header claims signature : List Char}

theorem Splits.last (h : Splits token header claims signature) :
    splitLast '.' token.toList = some (header ++ '.' :: claims, signature) := by
  have text : token.toList = (header ++ '.' :: claims) ++ '.' :: signature := by
    rw [h.text]
    simp
  rw [text, splitLast_append _ h.signature]

/-- A token is three segments in one way. -/
theorem Splits.unique (h : Splits token header claims signature)
    {header' claims' signature' : List Char} (h' : Splits token header' claims' signature') :
    header' = header ∧ claims' = claims ∧ signature' = signature := by
  obtain ⟨signed, rfl⟩ := Prod.mk.inj (Option.some.inj (h'.last.symm.trans h.last))
  have first := congrArg (splitFirst '.') signed
  rw [splitFirst_append claims' h'.header, splitFirst_append claims h.header] at first
  obtain ⟨rfl, rfl⟩ := Prod.mk.inj (Option.some.inj first)
  exact ⟨rfl, rfl, rfl⟩

theorem splits_of_split {signed : List Char}
    (last : splitLast '.' token.toList = some (signed, signature))
    (first : splitFirst '.' signed = some (header, claims)) :
    Splits token header claims signature := by
  obtain ⟨text, absent⟩ := splitLast_eq_some last
  obtain ⟨rfl, absent'⟩ := splitFirst_eq_some first
  exact ⟨by rw [text]; simp, absent', absent⟩

/-- A token of three segments is read segment by segment. -/
theorem parts_of_splits (whole : holdsHalf token = false)
    (h : Splits token header claims signature) :
    parts room token = (do
      let fields ← headerOf room header
      let claimBytes ← (decodeBase64 claims).mapError fun _ => Fault.claimsPadding
      let signatureBytes ← (decodeBase64 signature).mapError fun _ => Fault.signaturePadding
      return ⟨fields, claimBytes, header ++ '.' :: claims, signatureBytes⟩) := by
  rw [parts, encodeFault?_eq_none.2 whole, h.last]
  simp only [splitFirst_append claims h.header]
  cases headerOf room header with
  | error fault => rfl
  | ok fields =>
    cases decodeBase64 claims with
    | error fault => rfl
    | ok claimBytes => cases decodeBase64 signature <;> rfl

/-- A token with fewer than two points is refused for it. -/
theorem parts_of_not_splits (whole : holdsHalf token = false)
    (h : ∀ header claims signature, ¬ Splits token header claims signature) :
    parts room token = .error .segments := by
  rw [parts, encodeFault?_eq_none.2 whole]
  cases last : splitLast '.' token.toList with
  | none => rfl
  | some split =>
    obtain ⟨signed, signature⟩ := split
    cases first : splitFirst '.' signed with
    | none => simp only [first]
    | some split =>
      obtain ⟨header, claims⟩ := split
      exact absurd (splits_of_split last first) (h header claims signature)

/-- A token with half a character has no bytes to be read. -/
theorem parts_of_half (half : holdsHalf token = true) :
    ∃ fault, parts room token = .error (.unencodable fault) := by
  cases bytes : encodeFault? token.toList with
  | none => exact absurd (encodeFault?_eq_none.1 bytes) (by simp [half])
  | some fault =>
    refine ⟨fault, ?_⟩
    rw [parts, bytes]

end Parts

/-! ## What a segment says -/

/-- The segment is a JSON object in base64, and there is room for reading it. -/
def Says (depth : Nat) (segment : List Char) (fields : List (String × Json)) : Prop :=
  ∃ bytes, decodeBase64 segment = .ok bytes ∧ readBytes depth bytes = .value (.obj fields)

theorem fieldsOf_eq_ok {depth : Nat} {bytes : List UInt8} {textFault formFault : Fault}
    {fields : List (String × Json)} :
    fieldsOf depth bytes textFault formFault = .ok fields ↔
      readBytes depth bytes = .value (.obj fields) := by
  unfold fieldsOf
  cases readBytes depth bytes with
  | tooDeep bracket => simp
  | malformed => simp
  | value v => cases v <;> simp

theorem headerOf_eq_ok {segment : List Char} {fields : List (String × Json)} :
    headerOf room segment = .ok fields ↔ Says room.header segment fields := by
  unfold headerOf Says
  cases decodeBase64 segment with
  | error fault => simp
  | ok bytes => simp [fieldsOf_eq_ok]

/-- A token is taken apart if it is three segments that can be read, the first as an object. -/
theorem parts_eq_ok {token : String} {p : Parts} :
    parts room token = .ok p ↔ holdsHalf token = false ∧ ∃ header claims signature,
      Splits token header claims signature ∧ Says room.header header p.header ∧
      decodeBase64 claims = .ok p.claims ∧ decodeBase64 signature = .ok p.signature ∧
      p.signed = header ++ '.' :: claims := by
  constructor
  · intro taken
    cases whole : holdsHalf token with
    | true =>
      obtain ⟨fault, unread⟩ := parts_of_half whole
      rw [unread] at taken
      cases taken
    | false =>
      by_cases split : ∃ header claims signature, Splits token header claims signature
      · obtain ⟨header, claims, signature, split⟩ := split
        rw [parts_of_splits whole split] at taken
        obtain ⟨fields, read, taken⟩ := bind_eq_ok.1 taken
        obtain ⟨claimBytes, claimed, taken⟩ := bind_eq_ok.1 taken
        obtain ⟨signatureBytes, signed, taken⟩ := bind_eq_ok.1 taken
        cases taken
        exact ⟨rfl, header, claims, signature, split, headerOf_eq_ok.1 read,
          mapError_eq_ok.1 claimed, mapError_eq_ok.1 signed, rfl⟩
      · simp only [not_exists] at split
        rw [parts_of_not_splits whole split] at taken
        cases taken
  · rintro ⟨whole, header, claims, signature, split, said, claimed, signed, text⟩
    rw [parts_of_splits whole split, headerOf_eq_ok.2 said, claimed, signed, ← text]
    rfl

/-! ## Algorithm and signature -/

/-- Only one algorithm is taken, and it must be named. -/
theorem checkAlgorithm_eq_ok {header : List (String × Json)} :
    checkAlgorithm header = .ok () ↔ Fields.get? header "alg" = some (.str algorithmName) := by
  unfold checkAlgorithm
  cases Fields.get? header "alg" with
  | none => simp
  | some alg =>
    cases present : alg.truthy with
    | false =>
      -- An algorithm that counts as absent is not the one that is taken, for that has a name.
      have other : alg ≠ .str algorithmName := by
        rintro rfl
        simp [Json.truthy, algorithmName] at present
      simp [present, other]
    | true =>
      cases alg with
      | str name =>
        simp only [present, Bool.not_true, Bool.false_eq_true, ↓reduceIte]
        by_cases same : name = algorithmName <;> simp [same]
      | _ => simp [present]

/-- A signature is accepted if one of the keys has made it, and none before it is faulty. -/
theorem anyKeySigns_eq_true {message signature : List UInt8} {keys : List Json} :
    anyKeySigns message signature keys = .ok true ↔ ∃ before v after key,
      keys = before ++ v :: after ∧ (∀ w ∈ before, ∃ other, keyBytes w = .ok other) ∧
      keyBytes v = .ok key ∧ hmacSha256 key message = signature := by
  induction keys with
  | nil => simp [anyKeySigns]
  | cons w rest ih =>
    rw [anyKeySigns]
    constructor
    · intro signed
      cases made : keyBytes w with
      | error fault =>
        rw [made] at signed
        cases signed
      | ok key =>
        rw [made] at signed
        by_cases signs : hmacSha256 key message = signature
        · exact ⟨[], w, rest, key, rfl, by simp, made, signs⟩
        · simp only [signs, ↓reduceIte] at signed
          obtain ⟨before, v, after, key', rfl, fine, made', signs'⟩ := ih.1 signed
          exact ⟨w :: before, v, after, key', rfl, List.forall_mem_cons.2 ⟨⟨key, made⟩, fine⟩,
            made', signs'⟩
    · rintro ⟨before, v, after, key, split, fine, made, signs⟩
      cases before with
      | nil =>
        obtain ⟨rfl, rfl⟩ := List.cons.inj split
        simp only [made, signs, ↓reduceIte]
      | cons w' before =>
        obtain ⟨rfl, rfl⟩ := List.cons.inj split
        obtain ⟨⟨other, found⟩, fine⟩ := List.forall_mem_cons.1 fine
        simp only [found]
        split
        · rfl
        · exact ih.2 ⟨before, v, after, key, rfl, fine, made, signs⟩

/-- One of the keys of the secret has made the signature of a token, and none before it is faulty. -/
def Accepts (room : StackRoom) (secret : String) (p : Parts) : Prop :=
  ∃ before v after key, candidates room secret = .ok (before ++ v :: after) ∧
    (∀ w ∈ before, ∃ other, keyBytes w = .ok other) ∧
    keyBytes v = .ok key ∧ hmacSha256 key (encodeUtf8 p.signed) = p.signature

/-- The signature of a token passes if the secret accepts it. -/
theorem checkSignature_eq_ok {secret : String} {p : Parts} :
    checkSignature room secret p = .ok () ↔ Accepts room secret p := by
  unfold checkSignature Accepts
  cases candidates room secret with
  | error fault => simp
  | ok keys =>
    simp only [Except.ok.injEq, ← anyKeySigns_eq_true]
    cases anyKeySigns (encodeUtf8 p.signed) p.signature keys with
    | error fault => simp
    | ok signed => cases signed <;> simp

/-- A secret that stands alone accepts the signature that it makes itself of the signed text. -/
theorem StandsAlone.accepts_iff {secret : String} (alone : StandsAlone room secret) {p : Parts} :
    Accepts room secret p ↔ holdsHalf secret = false ∧ looksAsymmetric secret.toList = false ∧
      p.signature = hmacSha256 (encodeUtf8 secret.toList) (encodeUtf8 p.signed) := by
  unfold Accepts
  rw [alone.candidates]
  constructor
  · rintro ⟨before, v, after, key, split, -, made, signs⟩
    -- The only key is the text of the secret itself.
    rcases List.append_eq_singleton_iff.1 (Except.ok.inj split).symm with
      ⟨rfl, only⟩ | ⟨-, empty⟩
    · obtain ⟨rfl, rfl⟩ := List.cons.inj only
      obtain ⟨whole, symmetric, rfl⟩ := textKey_eq_ok.1 made
      exact ⟨whole, symmetric, signs.symm⟩
    · cases empty
  · rintro ⟨whole, symmetric, signs⟩
    have made : keyBytes (.str secret) = .ok (encodeUtf8 secret.toList) :=
      textKey_eq_ok.2 ⟨whole, symmetric, rfl⟩
    exact ⟨[], .str secret, [], _, rfl, by simp, made, signs.symm⟩

/-! ## Claims that hold -/

/-- The claim about time is absent, or it is a number of seconds of which a condition holds. -/
def TimeHolds (claims : List (String × Json)) (claim : TimeClaim) (holds : Int → Prop) : Prop :=
  ∀ v, Fields.get? claims claim.name = some v → ∃ n, claimSeconds claim v = .ok n ∧ holds n

/-- The registered claims hold at a second: the token was issued at some time, is valid already and
not over, is for no audience, names user and itself by texts, and is tied to no other token. -/
structure ClaimsHold (now : Int) (claims : List (String × Json)) : Prop where
  issuedAt : TimeHolds claims .issuedAt fun _ => True
  notBefore : TimeHolds claims .notBefore fun n => n ≤ now
  expiration : TimeHolds claims .expiration fun n => now ≤ n
  audience : Fields.get? claims "aud" = none
  subject : ∀ v, Fields.get? claims "sub" = some v → ∃ s, v = .str s
  tokenId : ∀ v, Fields.get? claims "jti" = some v → ∃ s, v = .str s
  accessTokenHash : Fields.get? claims "at_hash" = none

section Claims
variable {claims : List (String × Json)}

theorem checkTime_eq_ok {claim : TimeClaim} {holds : Int → Prop} [DecidablePred holds]
    {otherwise : ClaimFault} :
    checkTime claims claim (fun n => decide (holds n)) otherwise = .ok () ↔
      TimeHolds claims claim holds := by
  unfold checkTime TimeHolds
  cases Fields.get? claims claim.name with
  | none => simp
  | some v =>
    cases read : claimSeconds claim v with
    | error fault => simp [read]
    | ok n => by_cases held : holds n <;> simp [read, held]

theorem checkAudience_eq_ok : checkAudience claims = .ok () ↔ Fields.get? claims "aud" = none := by
  unfold checkAudience
  cases Fields.get? claims "aud" with
  | none => simp
  | some v => cases v <;> simp

theorem checkText_eq_ok {name : String} {otherwise : ClaimFault} :
    checkText claims name otherwise = .ok () ↔
      ∀ v, Fields.get? claims name = some v → ∃ s, v = .str s := by
  unfold checkText
  cases Fields.get? claims name with
  | none => simp
  | some v => cases v <;> simp [isText]

theorem checkAccessTokenHash_eq_ok :
    checkAccessTokenHash claims = .ok () ↔ Fields.get? claims "at_hash" = none := by
  unfold checkAccessTokenHash
  cases Fields.get? claims "at_hash" <;> simp

/-- The claims pass if all of the registered ones hold. -/
theorem checkClaims_eq_ok {now : Int} :
    checkClaims now claims = .ok () ↔ ClaimsHold now claims := by
  have issued : checkTime claims .issuedAt (fun _ => true) (.notInteger .issuedAt) = .ok () ↔
      TimeHolds claims .issuedAt fun _ => True := by
    simpa using @checkTime_eq_ok claims .issuedAt (fun _ => True) _ (.notInteger .issuedAt)
  unfold checkClaims
  simp only [then_eq_ok, issued, checkTime_eq_ok, checkAudience_eq_ok, checkText_eq_ok,
    checkAccessTokenHash_eq_ok]
  constructor
  · rintro ⟨issuedAt, notBefore, expiration, audience, subject, tokenId, hash⟩
    exact ⟨issuedAt, notBefore, expiration, audience, subject, tokenId, hash⟩
  · rintro ⟨issuedAt, notBefore, expiration, audience, subject, tokenId, hash⟩
    exact ⟨issuedAt, notBefore, expiration, audience, subject, tokenId, hash⟩

/-! ## The caller -/

theorem presentClaim?_eq (name : String) :
    presentClaim? claims name = (Fields.get? claims name).filter Json.truthy := by
  unfold presentClaim?
  cases Fields.get? claims name with
  | none => rfl
  | some v => rfl

theorem isAccess_iff : isAccess claims = true ↔
    Fields.get? claims "type" = some (.str "access") := by
  unfold isAccess
  cases Fields.get? claims "type" with
  | none => simp
  | some v => cases v <;> simp

/-- Claims name a caller if they are those of an access token and both the user and the organization
count as present. -/
theorem ofClaims_eq_ok {c : Caller} :
    Caller.ofClaims claims = .ok c ↔
      Fields.get? claims "type" = some (.str "access") ∧ ∃ user org,
        Fields.get? claims "sub" = some (.str user) ∧ user ≠ "" ∧
        Fields.get? claims "org" = some org ∧ org.truthy = true ∧
        c = {
          userId := .str user
          username := ((Fields.get? claims "username").filter Json.truthy).getD (.str user)
          orgId := org
          supportAccess := (Fields.get? claims "support_access").any Json.truthy } := by
  have support : (presentClaim? claims "support_access").isSome =
      (Fields.get? claims "support_access").any Json.truthy := by
    rw [presentClaim?_eq]
    cases Fields.get? claims "support_access" with
    | none => rfl
    | some v => cases present : v.truthy <;> simp [Option.filter, present]
  have present {name : String} {v : Json} : presentClaim? claims name = some v ↔
      Fields.get? claims name = some v ∧ v.truthy = true := by
    rw [presentClaim?_eq, Option.filter_eq_some_iff]
  rw [← isAccess_iff, Caller.ofClaims, support, presentClaim?_eq "username"]
  cases isAccess claims with
  | false => simp
  | true =>
    simp only [Bool.not_true, Bool.false_eq_true, ↓reduceIte, true_and]
    constructor
    · intro named
      split at named
      · next user org sub ofOrg =>
        cases named
        obtain ⟨sub, nonempty⟩ := present.1 sub
        obtain ⟨ofOrg, truthy⟩ := present.1 ofOrg
        exact ⟨user, org, sub, by simpa [Json.truthy] using nonempty, ofOrg, truthy, rfl⟩
      · cases named
    · rintro ⟨user, org, sub, nonempty, ofOrg, truthy, rfl⟩
      have sub := present.2 ⟨sub, by simpa [Json.truthy] using nonempty⟩
      have ofOrg := present.2 ⟨ofOrg, truthy⟩
      simp only [sub, ofOrg]

end Claims

/-! ## The stages in their order -/

section Whole
variable {secret token : String} {now : Instant}

/-- A token is checked stage by stage, and the first fault decides. -/
theorem verify_eq : verify room secret now token = (do
    let p ← parts room token
    checkAlgorithm p.header
    checkSignature room secret p
    let claims ← claimsOf room p.claims
    (checkClaims now.seconds claims).mapError .claim
    return claims) := by
  unfold verify
  simp only [bind, Except.bind, pure, Except.pure]
  cases parts room token with
  | error fault => rfl
  | ok p =>
    dsimp only
    cases checkAlgorithm p.header with
    | error fault => rfl
    | ok =>
      dsimp only
      cases checkSignature room secret p with
      | error fault => rfl
      | ok =>
        dsimp only
        cases claimsOf room p.claims with
        | error fault => rfl
        | ok claims =>
          dsimp only
          cases checkClaims now.seconds claims <;> rfl

/-- A token is verified if it passes every stage. -/
theorem verify_eq_ok {claims : List (String × Json)} :
    verify room secret now token = .ok claims ↔ ∃ p, parts room token = .ok p ∧
      checkAlgorithm p.header = .ok () ∧ checkSignature room secret p = .ok () ∧
      claimsOf room p.claims = .ok claims ∧ checkClaims now.seconds claims = .ok () := by
  rw [verify_eq, bind_eq_ok]
  refine exists_congr fun p => ?_
  rw [then_eq_ok, then_eq_ok, bind_eq_ok]
  refine and_congr_right fun _ => and_congr_right fun _ => and_congr_right fun _ => ?_
  constructor
  · rintro ⟨claims', read, held⟩
    obtain ⟨held, same⟩ := then_eq_ok.1 held
    cases same
    exact ⟨read, mapError_eq_ok.1 held⟩
  · rintro ⟨read, held⟩
    exact ⟨claims, read, then_eq_ok.2 ⟨mapError_eq_ok.2 held, rfl⟩⟩

/-- A token names a caller if it is verified and its claims do. -/
theorem authenticate_eq_ok {c : Caller} :
    authenticate room secret now token = .ok c ↔
      ∃ claims, verify room secret now token = .ok claims ∧ Caller.ofClaims claims = .ok c := by
  unfold authenticate
  cases verify room secret now token with
  | error fault => cases refusal : fault.isRefusal <;> simp [refusal]
  | ok claims => simp

/-- A secret that stands alone accepts a token exactly if the token is three segments, of which the
header names the one algorithm, the signature is the one that the secret makes of the text before
it, and the claims hold at the moment and are those of an access token for a user and an
organization; and the caller is then as the claims say. -/
theorem accepted_iff (alone : StandsAlone room secret) {c : Caller} :
    authenticate room secret now token = .ok c ↔
      (holdsHalf token = false ∧ holdsHalf secret = false ∧
        looksAsymmetric secret.toList = false) ∧
      ∃ header claims signature fields body user org,
        Splits token header claims signature ∧
        Says room.header header fields ∧ Fields.get? fields "alg" = some (.str "HS256") ∧
        decodeBase64 signature = .ok
          (hmacSha256 (encodeUtf8 secret.toList) (encodeUtf8 (header ++ '.' :: claims))) ∧
        Says room.claims claims body ∧ ClaimsHold now.seconds body ∧
        Fields.get? body "type" = some (.str "access") ∧
        Fields.get? body "sub" = some (.str user) ∧ user ≠ "" ∧
        Fields.get? body "org" = some org ∧ org.truthy = true ∧
        c = {
          userId := .str user
          username := ((Fields.get? body "username").filter Json.truthy).getD (.str user)
          orgId := org
          supportAccess := (Fields.get? body "support_access").any Json.truthy } := by
  rw [authenticate_eq_ok]
  constructor
  · rintro ⟨body, verified, named⟩
    obtain ⟨p, taken, algorithm, signed, read, held⟩ := verify_eq_ok.1 verified
    obtain ⟨whole, header, claims, signature, split, said, claimed, bytes, text⟩ :=
      parts_eq_ok.1 taken
    obtain ⟨wholeKey, symmetric, made⟩ := alone.accepts_iff.1 (checkSignature_eq_ok.1 signed)
    obtain ⟨access, user, org, sub, nonempty, ofOrg, truthy, caller⟩ := ofClaims_eq_ok.1 named
    rw [text] at made
    exact ⟨⟨whole, wholeKey, symmetric⟩, header, claims, signature, p.header, body, user, org, split,
      said, checkAlgorithm_eq_ok.1 algorithm, bytes.trans (congrArg _ made),
      ⟨p.claims, claimed, fieldsOf_eq_ok.1 read⟩, checkClaims_eq_ok.1 held, access, sub, nonempty,
      ofOrg, truthy, caller⟩
  · rintro ⟨⟨whole, wholeKey, symmetric⟩, header, claims, signature, fields, body, user, org, split,
      said, algorithm, bytes, ⟨claimBytes, claimed, read⟩, held, access, sub, nonempty, ofOrg,
      truthy, caller⟩
    let p : Parts := ⟨fields, claimBytes, header ++ '.' :: claims,
      hmacSha256 (encodeUtf8 secret.toList) (encodeUtf8 (header ++ '.' :: claims))⟩
    have taken : parts room token = .ok p :=
      parts_eq_ok.2 ⟨whole, header, claims, signature, split, said, claimed, bytes, rfl⟩
    have signed : checkSignature room secret p = .ok () :=
      checkSignature_eq_ok.2 (alone.accepts_iff.2 ⟨wholeKey, symmetric, rfl⟩)
    have verified : verify room secret now token = .ok body :=
      verify_eq_ok.2 ⟨p, taken, checkAlgorithm_eq_ok.2 algorithm, signed, fieldsOf_eq_ok.2 read,
        checkClaims_eq_ok.2 held⟩
    exact ⟨body, verified,
      ofClaims_eq_ok.2 ⟨access, user, org, sub, nonempty, ofOrg, truthy, caller⟩⟩

/-- A token for support is accepted in its last second, and the secret has signed what it says. -/
theorem accepted_iff_words :
    StandsAlone ⟨100, 90, 90⟩ "plain text key" ∧ ∃ token header claims signature fields body,
      authenticate ⟨100, 90, 90⟩ "plain text key" ⟨1700000001999999⟩ token =
        .ok ⟨.str "u-é𝄞", .str "u-é𝄞", .str "org-1", true⟩ ∧
      Splits token header claims signature ∧
      Says 90 header fields ∧ Fields.get? fields "alg" = some (.str "HS256") ∧
      decodeBase64 signature = .ok
        (hmacSha256 (encodeUtf8 "plain text key".toList) (encodeUtf8 (header ++ '.' :: claims))) ∧
      Says 90 claims body ∧ ClaimsHold 1700000001 body ∧
      Fields.get? body "type" = some (.str "access") := by
  have terms : Terms ⟨100, 90, 90⟩ "plain text key" "u-é𝄞" "" "org-1" ⟨1700000000000000⟩ 1000000 :=
    { key := isPlainKey_words
      user := Json.isJoined_of_holdsHalf (by decide)
      username := Json.isJoined_of_holdsHalf (by decide)
      org := Json.isJoined_of_holdsHalf (by decide)
      begins := by decide
      ends := by decide }
  have alone : StandsAlone ⟨100, 90, 90⟩ "plain text key" := isPlainKey_words.standsAlone
  have known := @Terms.authenticate _ _ _ _ _ true _ _ terms (by decide) (by decide)
    ⟨1700000001999999⟩
  rw [if_pos (by decide)] at known
  obtain ⟨-, header, claims, signature, fields, body, user, org, split, said, algorithm, bytes,
    carried, held, access, -⟩ := (accepted_iff alone).1 known
  exact ⟨alone, _, header, claims, signature, fields, body, known, split, said, algorithm, bytes,
    carried, held, access⟩

end Whole

end Token

end Runboard
