import Runboard.Proofs.Base64
import Runboard.Proofs.JsonRecord
import Runboard.Token.Session

/-!
# `Runboard.Proofs.TokenRoundTrip`: a token says what it was made to say

A token is a record written as JSON, the JSON written as letters, and the letters signed. Each of
the three layers is undone by its reader, so a token that was made is read as its claims for as long
as its last second has not passed. The secret that signs must also be the secret that checks: it is
a plain key, not a text that stands for other keys.

The tokens of a session are only ever added to, and no step touches a token that was made, so what
holds of a token holds after whatever the session does next.

## Contents

* `Token.StandsAlone`, `Token.IsPlainKey`: a secret that is its own key;
* `Token.parts_sign`, `Token.verify_sign`: a signed record is taken apart and checked;
* `Token.checkClaims_claimsFor`: what decides is the last second;
* `Token.Terms`, `Token.Terms.verify`, `Token.Terms.authenticate`: the claims and the caller of a
  token;
* `TokenSession.issued_run`, `TokenSession.room_run`: tokens are kept, and so is the room of the stack;
* `TokenSession.create_then_read`: the round trip over a session.
-/

namespace Runboard

open Runboard.Text

namespace Token

variable {room : StackRoom}

/-! ## Keys -/

/-- The secret is not read as a JSON text, so that it stands for no key but its own. -/
def StandsAlone (room : StackRoom) (secret : String) : Prop :=
  (Json.read room.key Json.NumberReader.verbatim secret.toList).isValue = false

theorem StandsAlone.candidates {secret : String} (h : StandsAlone room secret) :
    candidates room secret = .ok [.str secret] := by
  unfold Runboard.candidates
  cases read : Json.read room.key Json.NumberReader.verbatim secret.toList with
  | malformed => rfl
  | tooDeep bracket => rfl
  | value v =>
    rw [StandsAlone, read] at h
    cases h

/-- A text makes a key, its bytes, unless it has none or looks like an asymmetric key. -/
theorem textKey_eq_ok {s : String} {key : List UInt8} :
    textKey s = .ok key ↔
      holdsHalf s = false ∧ looksAsymmetric s.toList = false ∧ key = encodeUtf8 s.toList := by
  unfold textKey encodeWhole
  rw [← encodeFault?_eq_none]
  cases encodeFault? s.toList with
  | some fault => simp
  | none =>
    cases looksAsymmetric s.toList <;> simp [eq_comm]

/-- A secret that is its own key: a text with bytes that stands for no other key. -/
structure IsPlainKey (room : StackRoom) (secret : String) : Prop where
  plain : isPlainSecret room secret = true
  whole : holdsHalf secret = false

theorem IsPlainKey.standsAlone {secret : String} (h : IsPlainKey room secret) :
    StandsAlone room secret := by
  have plain := h.plain
  simp only [isPlainSecret, Bool.and_eq_true, Bool.not_eq_true'] at plain
  exact plain.1.2

theorem IsPlainKey.textKey {secret : String} (h : IsPlainKey room secret) :
    textKey secret = .ok (encodeUtf8 secret.toList) := by
  have symmetric : looksAsymmetric secret.toList = false := by
    have plain := h.plain
    simp only [isPlainSecret, Bool.and_eq_true, Bool.not_eq_true'] at plain
    exact plain.2
  exact textKey_eq_ok.2 ⟨h.whole, symmetric, rfl⟩

/-- A text that is its own key. -/
theorem isPlainKey_words : IsPlainKey room "plain text key" := ⟨by rfl, by decide⟩

/-! ## Segments -/

theorem splitLast_append {sep : Char} (before : List Char) {after : List Char} (h : sep ∉ after) :
    splitLast sep (before ++ sep :: after) = some (before, after) := by
  have reversed : (before ++ sep :: after).reverse = after.reverse ++ sep :: before.reverse := by
    simp
  rw [splitLast, reversed, splitFirst_append _ (by simpa using h)]
  simp

theorem encodeFault?_of_ascii {cs : List Char} (h : IsAscii cs) : encodeFault? cs = none :=
  (faultFrom?_eq_none 0 cs).2 fun c hc => half?_of_lt (h c hc)

/-- The letters of base64 hold no point. -/
theorem point_not_mem (bytes : List UInt8) : '.' ∉ encodeBase64Url bytes :=
  fun mem => (forall_mem_encodeBase64Url bytes '.' mem).2.1 rfl

/-- The fields of the header of every token. -/
def headerFields : List (String × Json) := [("alg", .str algorithmName), ("typ", .str "JWT")]

/-- The records that a token can carry: those that are read back where they are written. -/
def IsCarried (fields : List (String × Json)) : Prop :=
  Json.IsRecord (Json.NumberReader.bounded Numeral.maxDigits) fields

theorem isCarried_headerFields : IsCarried headerFields where
  names := by decide
  joined := by
    intro f hf
    simp only [headerFields, List.mem_cons, List.not_mem_nil, or_false] at hf
    rcases hf with rfl | rfl <;> exact Json.isJoined_of_holdsHalf (by decide)
  single := by
    intro f hf
    simp only [headerFields, List.mem_cons, List.not_mem_nil, or_false] at hf
    rcases hf with rfl | rfl <;> exact Json.isJoined_of_holdsHalf (by decide)

/-- A record is read from its bytes, with the halves of characters joined. -/
theorem fieldsOf_of_isWritable {depth : Nat} {fields : List (String × Json)}
    (h : Json.IsWritable (Json.NumberReader.bounded Numeral.maxDigits) fields)
    (textFault formFault : Fault) :
    fieldsOf depth (encodeUtf8 (Json.renderChars .compact (.obj fields))) textFault formFault =
      .ok (Json.rereadFields fields) := by
  have bytes := decodeUtf8?_of_ascii (Json.isAscii_renderChars Json.Layout.isPlain_compact h)
  have read := Json.read_of_isWritable depth Json.Layout.isPlain_compact h
  simp only [fieldsOf, readBytes, bytes, read]

/-- A record is read back from its bytes. -/
theorem fieldsOf_encodeUtf8 {depth : Nat} {fields : List (String × Json)} (h : IsCarried fields)
    (textFault formFault : Fault) :
    fieldsOf depth (encodeUtf8 (Json.renderChars .compact (.obj fields))) textFault formFault =
      .ok fields := by
  rw [fieldsOf_of_isWritable (Json.IsRecord.isWritable h), Json.IsRecord.rereadFields_eq h]

theorem isAscii_signedText (claims : List (String × Json)) : IsAscii (signedText claims) :=
  isAscii_append.2 ⟨isAscii_encodeBase64Url _,
    isAscii_cons.2 ⟨by decide, isAscii_encodeBase64Url _⟩⟩

/-- A signed record is taken apart into its header, its bytes, and the signature of its text. -/
theorem parts_sign (key : List UInt8) (claims : List (String × Json)) :
    parts room (sign key claims) = .ok {
      header := headerFields
      claims := encodeUtf8 (Json.renderChars .compact (.obj claims))
      signed := signedText claims
      signature := hmacSha256 key (encodeUtf8 (signedText claims)) } := by
  have ascii : IsAscii (sign key claims).toList := by
    rw [sign, String.toList_ofList]
    exact isAscii_append.2 ⟨isAscii_signedText claims,
      isAscii_cons.2 ⟨by decide, isAscii_encodeBase64Url _⟩⟩
  -- The signature follows the last point, since its letters hold none.
  have last : splitLast '.' (sign key claims).toList =
      some (signedText claims,
        encodeBase64Url (hmacSha256 key (encodeUtf8 (signedText claims)))) := by
    rw [sign, String.toList_ofList]
    exact splitLast_append _ (point_not_mem _)
  -- The header ends at the first point for the same reason.
  have first : splitFirst '.' (signedText claims) = some (segment header, segment (.obj claims)) :=
    splitFirst_append _ (point_not_mem _)
  have head : headerOf room (segment header) = .ok headerFields := by
    rw [headerOf, segment, decodeBase64_encodeBase64Url]
    exact fieldsOf_encodeUtf8 isCarried_headerFields _ _
  have body : decodeBase64 (segment (.obj claims)) =
      .ok (encodeUtf8 (Json.renderChars .compact (.obj claims))) :=
    decodeBase64_encodeBase64Url _
  rw [parts, encodeFault?_of_ascii ascii, last]
  simp only [first, head, body, decodeBase64_encodeBase64Url]

/-- The signature that the key of a secret makes is one that the secret accepts. -/
theorem checkSignature_of_key {secret : String} (h : IsPlainKey room secret) {p : Parts}
    (signed : p.signature = hmacSha256 (encodeUtf8 secret.toList) (encodeUtf8 p.signed)) :
    checkSignature room secret p = .ok () := by
  rw [checkSignature, h.standsAlone.candidates]
  simp only [anyKeySigns, keyBytes, h.textKey, signed, ↓reduceIte]

/-- A signed record passes every stage up to the checks of its claims, and they decide. -/
theorem verify_sign {secret : String} (h : IsPlainKey room secret) {claims : List (String × Json)}
    (carried : IsCarried claims) (now : Instant) :
    verify room secret now (sign (encodeUtf8 secret.toList) claims) =
      match checkClaims now.seconds claims with
      | .error fault => .error (.claim fault)
      | .ok () => .ok claims := by
  have algorithm : checkAlgorithm headerFields = .ok () := rfl
  have read : claimsOf room (encodeUtf8 (Json.renderChars .compact (.obj claims))) = .ok claims := by
    rw [claimsOf, fieldsOf_encodeUtf8 carried]
  rw [verify, parts_sign]
  cases held : checkClaims now.seconds claims with
  | error fault => simp only [algorithm, checkSignature_of_key h, read, held]
  | ok => simp only [algorithm, checkSignature_of_key h, read, held]

/-! ## The claims of a caller -/

/-- Whom a token is made for, by texts. -/
def namedIdentity (user username org : String) (support : Bool) : Identity where
  userId := .str user
  username := .str username
  orgId := .str org
  supportAccess := .bool support

theorem first_day : (Civil.toDay ⟨1, 1, 1⟩).number = -719162 := by decide

theorem last_day : (Civil.toDay ⟨9999, 12, 31⟩).number = 2932896 := by decide

/-- The seconds of the calendar are numerals that a token can carry. -/
theorem bounded_seconds {t : Instant} (h : t.inCalendar = true) :
    Json.NumberReader.bounded Numeral.maxDigits (Json.Parts.ofInt t.seconds) =
      some (.int t.seconds) := by
  -- Twelve digits are enough for the seconds of ten thousand years.
  have small : t.seconds.natAbs < 10 ^ 12 := by
    simp only [Instant.inCalendar, Instant.day, first_day, last_day, Bool.and_eq_true,
      decide_eq_true_eq] at h
    omega
  have wide : (10 : Nat) ^ 12 ≤ 10 ^ Numeral.maxDigits :=
    Nat.pow_le_pow_right (by decide) (by decide)
  exact Json.bounded_ofInt
    ((Nat.length_toDigits_le_iff (by decide) (by decide)).2 (Nat.lt_of_lt_of_le small wide))

/-- A span between two moments of the calendar is no longer than spans can be. -/
theorem shift_of_inCalendar {t : Instant} {delta : Int} (begins : t.inCalendar = true)
    (ends : (t.add delta).inCalendar = true) : t.shift delta = .ok (t.add delta) := by
  -- The calendar has fewer days than a span can have.
  have span : checkSpan delta = .ok () := by
    simp only [Instant.inCalendar, Instant.day, Instant.seconds, Instant.add, first_day, last_day,
      Bool.and_eq_true, decide_eq_true_eq] at begins ends
    rw [checkSpan, if_neg (by omega), if_neg (by omega)]
  rw [Instant.shift, span]
  simp only [ends, ↓reduceIte]

/-- The names of the claims of every token. -/
def claimNames : List String :=
  ["sub", "username", "org", "support_access", "type", "iat", "exp"]

theorem map_fst_claimsFor (who : Identity) (issued expires : Int) :
    (claimsFor who issued expires).map (·.1) = claimNames := rfl

theorem holdsHalf_claimNames : ∀ name ∈ claimNames, holdsHalf name = false := by decide

/-- The terms of a token: a plain key, joined texts, and a span inside the calendar. Texts of whole
characters are joined. -/
structure Terms (room : StackRoom) (secret user username org : String) (now : Instant)
    (delta : Int) : Prop where
  key : IsPlainKey room secret
  user : Json.IsJoined user.toList
  username : Json.IsJoined username.toList
  org : Json.IsJoined org.toList
  begins : now.inCalendar = true
  ends : (now.add delta).inCalendar = true

section Issued
variable {secret user username org : String} {support : Bool} {now : Instant} {delta : Int}

theorem Terms.isCarried (terms : Terms room secret user username org now delta) :
    IsCarried (claimsFor (namedIdentity user username org support) now.seconds
      (now.add delta).seconds) where
  names := by
    rw [map_fst_claimsFor]
    decide
  joined := by
    intro f hf
    have named := List.mem_map_of_mem (f := Prod.fst) hf
    rw [map_fst_claimsFor] at named
    exact Json.isJoined_of_holdsHalf (holdsHalf_claimNames f.1 named)
  single := by
    intro f hf
    simp only [claimsFor, namedIdentity, List.mem_cons, List.not_mem_nil, or_false] at hf
    rcases hf with rfl | rfl | rfl | rfl | rfl | rfl | rfl
    · exact terms.user
    · exact terms.username
    · exact terms.org
    · trivial
    · exact Json.isJoined_of_holdsHalf (by decide)
    · exact bounded_seconds terms.begins
    · exact bounded_seconds terms.ends

theorem Terms.shift (terms : Terms room secret user username org now delta) :
    now.shift delta = .ok (now.add delta) := shift_of_inCalendar terms.begins terms.ends

/-- Under its terms, a token is made for everyone. -/
theorem Terms.issue (terms : Terms room secret user username org now delta) (who : Identity) :
    issue secret now who delta = .ok (sign (encodeUtf8 secret.toList)
      (claimsFor who now.seconds (now.add delta).seconds)) := by
  rw [Token.issue, terms.shift]
  simp only [terms.key.textKey]

/-! ## What decides -/

/-- Of the claims of a caller, only the last second can be refused. -/
theorem checkClaims_claimsFor (later issued expires : Int) :
    checkClaims later (claimsFor (namedIdentity user username org support) issued expires) =
      if later ≤ expires then .ok () else .error .expired := by
  have expiration : checkTime (claimsFor (namedIdentity user username org support) issued expires)
      .expiration (fun s => decide (later ≤ s)) .expired =
        if later ≤ expires then .ok () else .error .expired := by
    simp [checkTime, claimsFor, TimeClaim.name, claimSeconds]
  rw [checkClaims, expiration]
  -- The times are integers, the user is a text, and the other claims are absent.
  by_cases held : later ≤ expires
  · rw [if_pos held]
    rfl
  · rw [if_neg held]
    rfl

/-- The claims of a token are read back until its last second has passed. -/
theorem Terms.verify (terms : Terms room secret user username org now delta) (later : Instant) :
    verify room secret later (sign (encodeUtf8 secret.toList)
        (claimsFor (namedIdentity user username org support) now.seconds
          (now.add delta).seconds)) =
      if later.seconds ≤ (now.add delta).seconds then
        .ok (claimsFor (namedIdentity user username org support) now.seconds
          (now.add delta).seconds)
      else .error (.claim .expired) := by
  rw [verify_sign terms.key terms.isCarried, checkClaims_claimsFor]
  by_cases held : later.seconds ≤ (now.add delta).seconds
  · simp only [held, ↓reduceIte]
  · simp only [held, ↓reduceIte]

/-- The caller that texts name; the user stands in for an empty user name. -/
def namedCaller (user username org : String) (support : Bool) : Caller where
  userId := .str user
  username := .str (if username = "" then user else username)
  orgId := .str org
  supportAccess := support

/-- The claims of a token name the caller that it was made for, if neither the user nor the
organization is empty. -/
theorem ofClaims_claimsFor (hu : user ≠ "") (ho : org ≠ "") (issued expires : Int) :
    Caller.ofClaims (claimsFor (namedIdentity user username org support) issued expires) =
      .ok (namedCaller user username org support) := by
  have access : isAccess (claimsFor (namedIdentity user username org support) issued expires) =
      true := rfl
  have sub : presentClaim? (claimsFor (namedIdentity user username org support) issued expires)
      "sub" = some (.str user) := by
    simp [presentClaim?, claimsFor, namedIdentity, Json.truthy, hu]
  have org' : presentClaim? (claimsFor (namedIdentity user username org support) issued expires)
      "org" = some (.str org) := by
    simp [presentClaim?, claimsFor, namedIdentity, Json.truthy, ho]
  have name : (presentClaim? (claimsFor (namedIdentity user username org support) issued expires)
      "username").getD (.str user) = .str (if username = "" then user else username) := by
    by_cases hn : username = "" <;>
      simp [presentClaim?, claimsFor, namedIdentity, Json.truthy, hn]
  have access' : (presentClaim? (claimsFor (namedIdentity user username org support) issued
      expires) "support_access").isSome = support := by
    cases support <;> simp [presentClaim?, claimsFor, namedIdentity, Json.truthy]
  rw [Caller.ofClaims, access, sub, org']
  simp only [name, access']
  rfl

/-- The caller of a token is the one it was made for, until its last second has passed. -/
theorem Terms.authenticate (terms : Terms room secret user username org now delta) (hu : user ≠ "")
    (ho : org ≠ "") (later : Instant) :
    authenticate room secret later (sign (encodeUtf8 secret.toList)
        (claimsFor (namedIdentity user username org support) now.seconds
          (now.add delta).seconds)) =
      if later.seconds ≤ (now.add delta).seconds then .ok (namedCaller user username org support)
      else .error (.refusal "Invalid token: Signature has expired.") := by
  rw [Token.authenticate, terms.verify]
  by_cases held : later.seconds ≤ (now.add delta).seconds
  · simp only [held, ↓reduceIte, ofClaims_claimsFor hu ho]
  · simp only [held, ↓reduceIte]
    rfl

end Issued

end Token

/-! ## Sessions -/

namespace TokenSession

/-- A token that is made is put after those that were made before, and nothing else touches them. -/
theorem issued_create (d : TokenSession) (o : TokenOrder) : d.issued <+: (d.create o).2.issued := by
  unfold create
  split
  · exact List.prefix_rfl
  · split
    · exact List.prefix_rfl
    · split
      · exact List.prefix_rfl
      · exact List.prefix_append _ _

theorem issued_decode (d : TokenSession) (token : String) : (d.decode token).2.issued = d.issued := by
  unfold decode
  split <;> rfl

theorem issued_authenticate (d : TokenSession) (token : String) :
    (d.authenticate token).2.issued = d.issued := by
  unfold authenticate
  split <;> rfl

/-- A step keeps the tokens that were made, in their places. -/
theorem issued_step (d : TokenSession) (s : TokenStep) : d.issued <+: (d.step s).2.issued := by
  cases s with
  | create order => exact issued_create d order
  | advance seconds =>
    simp only [step]
    split <;> exact List.prefix_rfl
  | secret value =>
    simp only [step]
    split <;> exact List.prefix_rfl
  | decode source =>
    simp only [step]
    split
    · exact List.prefix_rfl
    · next token _ => exact (issued_decode d token).symm ▸ List.prefix_rfl
  | authenticate source =>
    simp only [step]
    split
    · exact List.prefix_rfl
    · next token _ => exact (issued_authenticate d token).symm ▸ List.prefix_rfl

/-- A session keeps the tokens that were made, in their places. -/
theorem issued_run (steps : List TokenStep) (d : TokenSession) :
    d.issued <+: (d.run steps).2.issued := by
  induction steps generalizing d with
  | nil => exact List.prefix_rfl
  | cons s rest ih => exact (issued_step d s).trans (ih (d.step s).2)

/-- No step changes the room of the stack. -/
theorem room_step (d : TokenSession) (s : TokenStep) : (d.step s).2.room = d.room := by
  cases s with
  | create order =>
    simp only [step, create]
    split
    · rfl
    · split
      · rfl
      · split <;> rfl
  | advance seconds =>
    simp only [step]
    split <;> rfl
  | secret value =>
    simp only [step]
    split <;> rfl
  | decode source =>
    simp only [step, decode]
    split
    · rfl
    · split <;> rfl
  | authenticate source =>
    simp only [step, authenticate]
    split
    · rfl
    · split <;> rfl

theorem room_run (steps : List TokenStep) (d : TokenSession) : (d.run steps).2.room = d.room := by
  induction steps generalizing d with
  | nil => rfl
  | cons s rest ih => exact (ih (d.step s).2).trans (room_step d s)

/-- The token in a place is found there for the rest of the session. -/
theorem lookUp?_issued {made : List String} {token : String} {d : TokenSession}
    (h : made ++ [token] <+: d.issued) : d.lookUp? (.issued made.length) = some token := by
  obtain ⟨more, hmore⟩ := h
  have place : ¬ ((made.length : Int) < 0) := by omega
  simp only [lookUp?, if_neg place, Int.toNat_natCast, ← hmore, List.append_assoc]
  rw [List.getElem?_append_right (Nat.le_refl _), Nat.sub_self]
  rfl

/-- The secret in force: the one of the kept settings, or of those that the environment gives. -/
def secret? (d : TokenSession) : Option String :=
  match d.cache.get with
  | (.ok k, _) => some k.settings.secretKey
  | (.faults _, _) => none

theorem secret?_eq_some {d : TokenSession} {secret : String} (h : d.secret? = some secret) :
    ∃ k cache, d.cache.get = (.ok k, cache) ∧ k.settings.secretKey = secret := by
  unfold secret? at h
  split at h
  · next k cache got => exact ⟨k, cache, got, Option.some.inj h⟩
  · cases h

/-- A token for texts that holds for a span. -/
def namedOrder (user username org : String) (support : Bool) (delta : Int) : TokenOrder where
  who := Token.namedIdentity user username org support
  span := some delta

section Made
variable {d : TokenSession} {secret user username org : String} {delta : Int}

/-- Under its terms a token is made, and it is kept after those made before. -/
theorem create_of_terms (support : Bool) (force : d.secret? = some secret)
    (terms : Token.Terms d.room secret user username org d.now delta) :
    ∃ cache, d.create (namedOrder user username org support delta) =
      (.ok (Token.sign (encodeUtf8 secret.toList)
          (Token.claimsFor (Token.namedIdentity user username org support) d.now.seconds
            (d.now.add delta).seconds)),
        { d with
          cache := cache
          issued := d.issued ++ [Token.sign (encodeUtf8 secret.toList)
            (Token.claimsFor (Token.namedIdentity user username org support) d.now.seconds
              (d.now.add delta).seconds)] }) := by
  obtain ⟨k, cache, kept, same⟩ := secret?_eq_some force
  have span : checkSpan delta = .ok () := by
    have shift := terms.shift
    unfold Instant.shift at shift
    split at shift
    · cases shift
    · assumption
  refine ⟨cache, ?_⟩
  simp only [create, namedOrder, Option.getD_some, span, kept, TokenOrder.fill, same, terms.issue]

/-- A token that was made is read as what it was made to say, after whatever the session did since:
while the secret that made it is in force, its claims are given and its caller is known up to the
second of its end, and no longer. -/
theorem create_then_read (support : Bool) (force : d.secret? = some secret)
    (terms : Token.Terms d.room secret user username org d.now delta) :
    ∃ token, (d.create (namedOrder user username org support delta)).1 = .ok token ∧
      ∀ steps later,
        ((d.create (namedOrder user username org support delta)).2.run steps).2 = later →
        later.lookUp? (.issued d.issued.length) = some token ∧
        (later.secret? = some secret →
          (later.decode token).1 =
            (if later.now.seconds ≤ (d.now.add delta).seconds then
              .ok [("sub", .str user), ("username", .str username), ("org", .str org),
                ("support_access", .bool support), ("type", .str "access"),
                ("iat", .int d.now.seconds), ("exp", .int (d.now.add delta).seconds)]
            else .error (.token (.claim .expired))) ∧
          (user ≠ "" → org ≠ "" →
            (later.authenticate token).1 =
              (if later.now.seconds ≤ (d.now.add delta).seconds then
                .ok ⟨.str user, .str (if username = "" then user else username), .str org, support⟩
              else .error (.authentication
                (.refusal "Invalid token: Signature has expired."))))) := by
  -- The token is the one that the terms say; only its place in the session is left to follow.
  obtain ⟨cache, created⟩ := create_of_terms support force terms
  rw [created]
  refine ⟨_, rfl, ?_⟩
  intro steps later hlater
  constructor
  · refine lookUp?_issued ?_
    rw [← hlater]
    exact issued_run steps ⟨cache, d.room, d.now, _⟩
  · -- Reading looks at the moment and at the secret in force, not at what happened between.
    intro force'
    obtain ⟨k', cache', kept', same⟩ := secret?_eq_some force'
    have room : later.room = d.room := by
      rw [← hlater, room_run]
    constructor
    · simp only [decode, kept', same, room, terms.verify]
      by_cases held : later.now.seconds ≤ (d.now.add delta).seconds
      · simp only [held, ↓reduceIte]
        rfl
      · simp only [held, ↓reduceIte]
    · intro hu ho
      simp only [authenticate, kept', same, room, terms.authenticate hu ho]
      by_cases held : later.now.seconds ≤ (d.now.add delta).seconds
      · simp only [held, ↓reduceIte]
        rfl
      · simp only [held, ↓reduceIte]

end Made

/-- A session half a second into a second, with a plain key in its environment. -/
def plainSession : TokenSession where
  cache := { environment := [("SECRET_KEY", "plain text key")], secrets := fun _ => "drawn" }
  room := ⟨100, 90, 90⟩
  now := ⟨1700000000500000⟩

/-- A token that ends in the next second is still read there, after the secret went away and came
back. -/
theorem create_then_read_plainSession :
    ∃ token later,
      (plainSession.create (namedOrder "u-é𝄞" "" "org-1" true 1000000)).1 = .ok token ∧
      ((plainSession.create (namedOrder "u-é𝄞" "" "org-1" true 1000000)).2.run
        [.secret (.str "another key"), .decode (.issued 0), .advance 1,
          .secret (.str "plain text key")]).2 = later ∧
      (later.decode token).1 = .ok
        [("sub", .str "u-é𝄞"), ("username", .str ""), ("org", .str "org-1"),
          ("support_access", .bool true), ("type", .str "access"),
          ("iat", .int 1700000000), ("exp", .int 1700000001)] ∧
      (later.authenticate token).1 = .ok ⟨.str "u-é𝄞", .str "u-é𝄞", .str "org-1", true⟩ := by
  have force : plainSession.secret? = some "plain text key" := by decide
  have terms : Token.Terms plainSession.room "plain text key" "u-é𝄞" "" "org-1"
      plainSession.now 1000000 :=
    { key := Token.isPlainKey_words
      user := Json.isJoined_of_holdsHalf (by decide)
      username := Json.isJoined_of_holdsHalf (by decide)
      org := Json.isJoined_of_holdsHalf (by decide)
      begins := by decide
      ends := by decide }
  obtain ⟨token, created, read⟩ := create_then_read true force terms
  obtain ⟨-, read⟩ := read [.secret (.str "another key"), .decode (.issued 0), .advance 1,
    .secret (.str "plain text key")] _ rfl
  obtain ⟨decoded, known⟩ := read (by decide)
  have known := known (by decide) (by decide)
  rw [if_pos (by decide)] at decoded known
  exact ⟨token, _, created, rfl, decoded, known⟩

end TokenSession

end Runboard
