import Runboard.Proofs.TokenAcceptance

/-!
# `Runboard.Proofs.SelfIssued`: tokens that a service makes for itself

A service makes tokens and checks them with the same settings: the secret of the settings signs and
checks, and without a span of its own a token holds for the minutes of the settings. That the token
which was just made is accepted takes more than that the settings were accepted. The secret must be
able to sign; it signs as the text that it is, but is checked as the keys that it stands for, so one of
these must make the same signature; and the minutes must neither lead out of the calendar nor be below
zero, which no check of the settings asks of them.

A token is written as JSON, so a text that holds the two halves of a character side by side comes back
with the character in their place.

## Contents

* `Token.Signs`, `Token.issue_eq_ok`: when a token is made;
* `Token.Vouches`, `Token.StandsAlone.vouches`: secrets that accept what they sign;
* `Token.verify_own`, `Token.authenticate_own`, `Token.authenticate_own_expired`: a token under the
  secret that made it;
* `TokenSession.ownOrder`, `TokenSession.create_own`, `TokenSession.authenticate_after`: the session;
* `TokenSession.own_token_iff`: the whole, under all settings.
-/

namespace Runboard

open Runboard.Text

namespace Token

variable {room : StackRoom}

/-! ## Making a token -/

/-- The secret can sign: it has bytes, and does not look like an asymmetric key. -/
structure Signs (secret : String) : Prop where
  whole : holdsHalf secret = false
  symmetric : looksAsymmetric secret.toList = false

theorem Signs.textKey {secret : String} (h : Signs secret) :
    textKey secret = .ok (encodeUtf8 secret.toList) :=
  textKey_eq_ok.2 ⟨h.whole, h.symmetric, rfl⟩

/-- A token is made if the secret can sign and the end of the token lies in the calendar. -/
theorem issue_eq_ok {secret : String} {now : Instant} (begins : now.inCalendar = true)
    {who : Identity} {delta : Int} {token : String} :
    issue secret now who delta = .ok token ↔
      Signs secret ∧ (now.add delta).inCalendar = true ∧
        token = sign (encodeUtf8 secret.toList)
          (claimsFor who now.seconds (now.add delta).seconds) := by
  constructor
  · intro made
    unfold issue at made
    split at made
    · cases made
    · next expires shifted =>
      obtain ⟨inside, rfl⟩ := Instant.inCalendar_of_shift shifted
      cases made' : Runboard.textKey secret with
      | error fault =>
        rw [made'] at made
        cases made
      | ok key =>
        rw [made'] at made
        obtain ⟨whole, symmetric, rfl⟩ := textKey_eq_ok.1 made'
        exact ⟨⟨whole, symmetric⟩, inside, (Except.ok.inj made).symm⟩
  · rintro ⟨signs, ends, rfl⟩
    rw [issue, shift_of_inCalendar begins ends]
    simp only [signs.textKey]

/-! ## The secret that made it -/

/-- One of the keys that the secret stands for signs a text as the secret itself does, and none before
it is faulty. -/
def Vouches (room : StackRoom) (secret : String) (text : List Char) : Prop :=
  ∃ before v after key, candidates room secret = .ok (before ++ v :: after) ∧
    (∀ w ∈ before, ∃ other, keyBytes w = .ok other) ∧ keyBytes v = .ok key ∧
    hmacSha256 key (encodeUtf8 text) = hmacSha256 (encodeUtf8 secret.toList) (encodeUtf8 text)

/-- A secret that can sign and stands for no other key vouches for everything that it signs. -/
theorem StandsAlone.vouches {secret : String} (alone : StandsAlone room secret) (signs : Signs secret)
    (text : List Char) : Vouches room secret text :=
  ⟨[], .str secret, [], _, alone.candidates, by simp, signs.textKey, rfl⟩

/-- The parts of a token that a secret signs. -/
def signedParts (secret : String) (claims : List (String × Json)) : Parts where
  header := headerFields
  claims := encodeUtf8 (Json.renderChars .compact (.obj claims))
  signed := signedText claims
  signature := hmacSha256 (encodeUtf8 secret.toList) (encodeUtf8 (signedText claims))

theorem parts_signed (secret : String) (claims : List (String × Json)) :
    parts room (sign (encodeUtf8 secret.toList) claims) = .ok (signedParts secret claims) :=
  parts_sign _ _

/-- The signature that a secret makes itself passes if the secret vouches for it. -/
theorem checkSignature_signedParts {secret : String} {claims : List (String × Json)} :
    checkSignature room secret (signedParts secret claims) = .ok () ↔
      Vouches room secret (signedText claims) :=
  checkSignature_eq_ok

section Own
variable {secret user username org : String} {support : Bool} {now later : Instant} {delta : Int}

/-- The claims of a token as they are read: those of the texts with the halves of characters
joined. -/
theorem rereadFields_claimsFor (issued expires : Int) :
    Json.rereadFields (claimsFor (namedIdentity user username org support) issued expires) =
      claimsFor (namedIdentity (Json.rejoined user) (Json.rejoined username) (Json.rejoined org)
        support) issued expires := by
  have access : Json.rejoined "access" = "access" :=
    Json.rejoined_of_isJoined (Json.isJoined_of_holdsHalf (by decide))
  simp only [Json.rereadFields, claimsFor, namedIdentity, List.map_cons, List.map_nil, Json.reread,
    access]

/-- The claims of a token between two moments of the calendar can be written, whatever the texts. -/
theorem isWritable_claimsFor (begins : now.inCalendar = true) (ends : later.inCalendar = true) :
    Json.IsWritable (Json.NumberReader.bounded Numeral.maxDigits)
      (claimsFor (namedIdentity user username org support) now.seconds later.seconds) where
  names := by
    rw [map_fst_claimsFor]
    decide
  joined := by
    intro f hf
    have named := List.mem_map_of_mem (f := Prod.fst) hf
    rw [map_fst_claimsFor] at named
    exact Json.isJoined_of_holdsHalf (holdsHalf_claimNames f.1 named)
  scalar := by
    intro f hf
    simp only [claimsFor, namedIdentity, List.mem_cons, List.not_mem_nil, or_false] at hf
    rcases hf with rfl | rfl | rfl | rfl | rfl | rfl | rfl
    · trivial
    · trivial
    · trivial
    · trivial
    · trivial
    · exact bounded_seconds begins
    · exact bounded_seconds ends

/-- What a secret says of a token that it signed itself, between two moments of the calendar: the
signature is looked at first, and then only whether the token is over. -/
theorem verify_own (begins : now.inCalendar = true) (ends : (now.add delta).inCalendar = true)
    (vouches : Vouches room secret (signedText (claimsFor (namedIdentity user username org support)
      now.seconds (now.add delta).seconds))) :
    verify room secret now (sign (encodeUtf8 secret.toList)
        (claimsFor (namedIdentity user username org support) now.seconds
          (now.add delta).seconds)) =
      if now.seconds ≤ (now.add delta).seconds then
        .ok (claimsFor (namedIdentity (Json.rejoined user) (Json.rejoined username)
          (Json.rejoined org) support) now.seconds (now.add delta).seconds)
      else .error (.claim .expired) := by
  have written := @isWritable_claimsFor user username org support _ _ begins ends
  have algorithm : checkAlgorithm headerFields = .ok () := rfl
  have read : claimsOf room (encodeUtf8 (Json.renderChars .compact (.obj (claimsFor (namedIdentity user
      username org support) now.seconds (now.add delta).seconds)))) =
        .ok (claimsFor (namedIdentity (Json.rejoined user) (Json.rejoined username)
          (Json.rejoined org) support) now.seconds (now.add delta).seconds) := by
    rw [claimsOf, fieldsOf_of_isWritable written, rereadFields_claimsFor]
  rw [verify, parts_signed]
  dsimp only
  rw [checkSignature_signedParts.2 vouches]
  simp only [signedParts, algorithm, read]
  rw [checkClaims_claimsFor]
  by_cases held : now.seconds ≤ (now.add delta).seconds
  · simp only [held, ↓reduceIte]
  · simp only [held, ↓reduceIte]

/-- A token that its own secret verifies has a signature that the secret vouches for. -/
theorem vouches_of_verify {claims read : List (String × Json)}
    (verified : verify room secret now (sign (encodeUtf8 secret.toList) claims) = .ok read) :
    Vouches room secret (signedText claims) := by
  obtain ⟨p, taken, -, signed, -, -⟩ := verify_eq_ok.1 verified
  obtain rfl := Except.ok.inj ((parts_signed secret claims).symm.trans taken)
  exact checkSignature_signedParts.1 signed

/-- A token that its own secret has just signed names a caller exactly if the secret vouches for it
and it is not over; and then the one that it was made for, with the halves of characters joined. -/
theorem authenticate_own (begins : now.inCalendar = true)
    (ends : (now.add delta).inCalendar = true) (hu : user ≠ "") (ho : org ≠ "") {c : Caller} :
    authenticate room secret now (sign (encodeUtf8 secret.toList)
        (claimsFor (namedIdentity user username org support) now.seconds
          (now.add delta).seconds)) = .ok c ↔
      Vouches room secret (signedText (claimsFor (namedIdentity user username org support)
        now.seconds (now.add delta).seconds)) ∧
      now.seconds ≤ (now.add delta).seconds ∧
      c = namedCaller (Json.rejoined user) (Json.rejoined username) (Json.rejoined org) support := by
  have hu' : Json.rejoined user ≠ "" := fun empty => hu (Json.rejoined_eq_empty.1 empty)
  have ho' : Json.rejoined org ≠ "" := fun empty => ho (Json.rejoined_eq_empty.1 empty)
  rw [authenticate_eq_ok]
  constructor
  · rintro ⟨read, verified, named⟩
    have vouches := vouches_of_verify verified
    rw [verify_own begins ends vouches] at verified
    by_cases held : now.seconds ≤ (now.add delta).seconds
    · rw [if_pos held] at verified
      obtain rfl := Except.ok.inj verified
      rw [ofClaims_claimsFor hu' ho'] at named
      exact ⟨vouches, held, (Except.ok.inj named).symm⟩
    · rw [if_neg held] at verified
      cases verified
  · rintro ⟨vouches, held, rfl⟩
    refine ⟨_, ?_, ofClaims_claimsFor hu' ho' now.seconds (now.add delta).seconds⟩
    rw [verify_own begins ends vouches, if_pos held]

/-- A token that is over when it is made is refused for it, if the secret vouches for it. -/
theorem authenticate_own_expired (begins : now.inCalendar = true)
    (ends : (now.add delta).inCalendar = true)
    (vouches : Vouches room secret (signedText (claimsFor (namedIdentity user username org support)
      now.seconds (now.add delta).seconds)))
    (ended : (now.add delta).seconds < now.seconds) :
    authenticate room secret now (sign (encodeUtf8 secret.toList)
        (claimsFor (namedIdentity user username org support) now.seconds
          (now.add delta).seconds)) =
      .error (.refusal "Invalid token: Signature has expired.") := by
  rw [authenticate, verify_own begins ends vouches, if_neg (Int.not_le.2 ended)]
  rfl

/-- The caller of the joined texts is that of the texts only if there was nothing to join. -/
theorem namedCaller_rejoined :
    namedCaller (Json.rejoined user) (Json.rejoined username) (Json.rejoined org) support =
        namedCaller user username org support ↔
      Json.rejoined user = user ∧ Json.rejoined username = username ∧ Json.rejoined org = org := by
  constructor
  · intro same
    have sameUser := Json.str.inj (congrArg Caller.userId same)
    have sameOrg := Json.str.inj (congrArg Caller.orgId same)
    have shown := Json.str.inj (congrArg Caller.username same)
    refine ⟨sameUser, ?_, sameOrg⟩
    by_cases empty : username = ""
    · rw [empty, Json.rejoined_eq_empty]
    · rw [if_neg empty, if_neg fun h => empty (Json.rejoined_eq_empty.1 h)] at shown
      exact shown
  · rintro ⟨sameUser, sameName, sameOrg⟩
    rw [sameUser, sameName, sameOrg]

end Own

end Token

/-! ## The session -/

namespace TokenSession

open Token

/-- A token for texts that holds for as long as the settings say. -/
def ownOrder (user username org : String) (support : Bool) : TokenOrder where
  who := namedIdentity user username org support

section Session
variable {d : TokenSession} {k : KeptSettings} {cache : SettingsCache} {token : String}

/-- Without a span, a token is made for the minutes of the settings. -/
theorem create_own (kept : d.cache.get = (.ok k, cache)) (user username org : String)
    (support : Bool) :
    (d.create (ownOrder user username org support)).1 = .ok token ↔
      issue k.settings.secretKey d.now (namedIdentity user username org support)
        (minutesSpan k.settings.tokenMinutes) = .ok token := by
  have filled : (ownOrder user username org support).fill k.settings d.now =
      issue k.settings.secretKey d.now (namedIdentity user username org support)
        (minutesSpan k.settings.tokenMinutes) := rfl
  have span : checkSpan ((ownOrder user username org support).span.getD 0) = .ok () := rfl
  unfold create
  rw [span, kept]
  dsimp only
  rw [filled]
  split
  · next fault unmade => simp [unmade]
  · next made made' => simp [made']

/-- The making of a token leaves the clock and the stack, and keeps the settings. -/
theorem create_leaves (kept : d.cache.get = (.ok k, cache)) (user username org : String)
    (support : Bool) :
    (d.create (ownOrder user username org support)).2.cache = cache ∧
      (d.create (ownOrder user username org support)).2.room = d.room ∧
      (d.create (ownOrder user username org support)).2.now = d.now := by
  have span : checkSpan ((ownOrder user username org support).span.getD 0) = .ok () := rfl
  unfold create
  rw [span, kept]
  dsimp only
  split <;> exact ⟨rfl, rfl, rfl⟩

/-- After the making of a token, tokens are checked with the settings that it was made with. -/
theorem authenticate_after (kept : d.cache.get = (.ok k, cache)) (user username org : String)
    (support : Bool) (token : String) :
    ((d.create (ownOrder user username org support)).2.authenticate token).1 =
      (Token.authenticate d.room k.settings.secretKey d.now token).mapError .authentication := by
  obtain ⟨cache', room', now'⟩ := create_leaves kept user username org support
  unfold TokenSession.authenticate
  rw [cache', room', now', SettingsCache.get_again kept]
  dsimp only
  cases Token.authenticate d.room k.settings.secretKey d.now token <;> rfl

/-- Minutes lead to no earlier second exactly if they are not below zero. -/
theorem seconds_le_of_minutes (now : Instant) (minutes : Int) :
    now.seconds ≤ (now.add (minutesSpan minutes)).seconds ↔ 0 ≤ minutes := by
  show now.microseconds / 1000000 ≤ (now.microseconds + minutes * 60000000) / 1000000 ↔ 0 ≤ minutes
  omega

/-- Under settings that were accepted, the token that is made for a user and an organization is
accepted at once as theirs exactly if the secret can sign and vouches for what it signs, the minutes
of the settings are not below zero and end in the calendar, and no text holds two halves of one
character side by side. A token is made exactly if the secret can sign and the minutes end in the
calendar. One that is made with minutes below zero is refused as over, if the secret vouches for it;
and a secret that stands for no other key always vouches. -/
theorem own_token_iff (kept : d.cache.get = (.ok k, cache)) (begins : d.now.inCalendar = true)
    {user username org : String} (hu : user ≠ "") (ho : org ≠ "") (support : Bool) :
    let secret := k.settings.secretKey
    let ends := d.now.add (minutesSpan k.settings.tokenMinutes)
    let text := signedText
      (claimsFor (namedIdentity user username org support) d.now.seconds ends.seconds)
    let made := d.create (ownOrder user username org support)
    ((∃ token, made.1 = .ok token ∧
        (made.2.authenticate token).1 = .ok (namedCaller user username org support)) ↔
      Signs secret ∧ ends.inCalendar = true ∧ Vouches d.room secret text ∧
        0 ≤ k.settings.tokenMinutes ∧ Json.rejoined user = user ∧ Json.rejoined username = username ∧
        Json.rejoined org = org) ∧
      ((∃ token, made.1 = .ok token) ↔ Signs secret ∧ ends.inCalendar = true) ∧
      (∀ token, made.1 = .ok token → Vouches d.room secret text → k.settings.tokenMinutes < 0 →
        (made.2.authenticate token).1 = .error
          (.authentication (.refusal "Invalid token: Signature has expired."))) ∧
      (StandsAlone d.room secret → Signs secret → Vouches d.room secret text) := by
  intro secret ends text made
  have created : ∀ token, made.1 = .ok token ↔ Signs secret ∧ ends.inCalendar = true ∧
      token = sign (encodeUtf8 secret.toList)
        (claimsFor (namedIdentity user username org support) d.now.seconds ends.seconds) :=
    fun token => (create_own kept user username org support).trans (issue_eq_ok begins)
  have checked : ∀ token, (made.2.authenticate token).1 =
      (Token.authenticate d.room secret d.now token).mapError .authentication :=
    authenticate_after kept user username org support
  refine ⟨⟨?sound, ?complete⟩, ⟨?signs, ?makes⟩, ?expired, ?alone⟩
  case sound =>
    rintro ⟨token, hmade, known⟩
    obtain ⟨signs, inside, rfl⟩ := (created token).1 hmade
    rw [checked, mapError_eq_ok] at known
    obtain ⟨vouches, held, same⟩ := (authenticate_own begins inside hu ho).1 known
    exact ⟨signs, inside, vouches, (seconds_le_of_minutes _ _).1 held,
      namedCaller_rejoined.1 same.symm⟩
  case complete =>
    rintro ⟨signs, inside, vouches, minutes, joined⟩
    refine ⟨_, (created _).2 ⟨signs, inside, rfl⟩, ?_⟩
    rw [checked, mapError_eq_ok]
    exact (authenticate_own begins inside hu ho).2
      ⟨vouches, (seconds_le_of_minutes _ _).2 minutes, (namedCaller_rejoined.2 joined).symm⟩
  case signs =>
    rintro ⟨token, hmade⟩
    obtain ⟨signs, inside, -⟩ := (created token).1 hmade
    exact ⟨signs, inside⟩
  case makes =>
    rintro ⟨signs, inside⟩
    exact ⟨_, (created _).2 ⟨signs, inside, rfl⟩⟩
  case expired =>
    intro token hmade vouches below
    obtain ⟨-, inside, rfl⟩ := (created token).1 hmade
    have ended : ends.seconds < d.now.seconds := by
      rw [← Int.not_le, seconds_le_of_minutes]
      omega
    rw [checked, authenticate_own_expired begins inside vouches ended]
    rfl
  case alone =>
    intro alone signs
    exact alone.vouches signs text

end Session

/-- A session with a plain key takes the token that it has just made. -/
theorem own_token_iff_plainSession :
    ∃ token, (plainSession.create (ownOrder "u-é𝄞" "" "org-1" false)).1 = .ok token ∧
      ((plainSession.create (ownOrder "u-é𝄞" "" "org-1" false)).2.authenticate token).1 =
        .ok ⟨.str "u-é𝄞", .str "u-é𝄞", .str "org-1", false⟩ := by
  obtain ⟨k, cache, kept, secret, minutes⟩ : ∃ k cache, plainSession.cache.get = (.ok k, cache) ∧
      k.settings.secretKey = "plain text key" ∧ k.settings.tokenMinutes = 30 := ⟨_, _, rfl, rfl, rfl⟩
  have plain := @isPlainKey_words plainSession.room
  have signs : Signs k.settings.secretKey := by
    rw [secret]
    exact ⟨plain.whole, by decide⟩
  have joined : ∀ s, holdsHalf s = false → Json.rejoined s = s :=
    fun s whole => Json.rejoined_of_isJoined (Json.isJoined_of_holdsHalf whole)
  obtain ⟨works, -, -, vouches⟩ := @own_token_iff plainSession k cache kept (by decide) "u-é𝄞" ""
    "org-1" (by decide) (by decide) false
  refine works.2 ⟨signs, ?_, vouches (by rw [secret]; exact plain.standsAlone) signs, ?_,
    joined _ (by decide), joined _ (by decide), joined _ (by decide)⟩
  · rw [minutes]
    decide
  · rw [minutes]
    decide

/-- A session with a secret and minutes in its environment. -/
def sessionOf (secret minutes : String) : TokenSession where
  cache :=
    { environment := [("SECRET_KEY", secret), ("ACCESS_TOKEN_EXPIRE_MINUTES", minutes)]
      secrets := plainSession.cache.secrets }
  room := plainSession.room
  now := ⟨1700000000000000⟩

/-- Settings with minutes below zero are accepted, and so are settings whose secret is a word of JSON;
but the token that is made with the first is refused as over, and the one that is made with the second
cannot be checked, since the word does not stand for a key. -/
theorem not_own_token_sessionOf :
    (∃ token, ((sessionOf "plain text key" "-5").create (ownOrder "u1" "alice" "o1" false)).1 =
        .ok token ∧
      (((sessionOf "plain text key" "-5").create (ownOrder "u1" "alice" "o1" false)).2.authenticate
          token).1 =
        .error (.authentication (.refusal "Invalid token: Signature has expired."))) ∧
    (∃ token, ((sessionOf "null" "30").create (ownOrder "u1" "alice" "o1" false)).1 = .ok token ∧
      (((sessionOf "null" "30").create (ownOrder "u1" "alice" "o1" false)).2.authenticate
          token).1 =
        .error (.authentication (.faulty (.key .notText)))) := by
  constructor
  · obtain ⟨k, cache, kept, secret, minutes⟩ : ∃ k cache,
        (sessionOf "plain text key" "-5").cache.get = (.ok k, cache) ∧
        k.settings.secretKey = "plain text key" ∧ k.settings.tokenMinutes = -5 :=
      ⟨_, _, rfl, rfl, rfl⟩
    have plain := @isPlainKey_words (sessionOf "plain text key" "-5").room
    have signs : Signs "plain text key" := ⟨plain.whole, by decide⟩
    refine ⟨_, (create_own kept "u1" "alice" "o1" false).2 ((issue_eq_ok (by decide)).2
      ⟨secret ▸ signs, ?_, rfl⟩), ?_⟩
    · rw [minutes]
      decide
    · rw [authenticate_after kept, secret, minutes]
      rw [authenticate_own_expired (by decide) (by decide) (plain.standsAlone.vouches signs _)
        (by decide)]
      rfl
  · obtain ⟨k, cache, kept, secret, minutes⟩ : ∃ k cache,
        (sessionOf "null" "30").cache.get = (.ok k, cache) ∧
        k.settings.secretKey = "null" ∧ k.settings.tokenMinutes = 30 :=
      ⟨_, _, rfl, rfl, rfl⟩
    have signs : Signs "null" := ⟨by decide, by decide⟩
    obtain ⟨v, only, unfit⟩ : ∃ v, candidates (sessionOf "null" "30").room "null" = .ok [v] ∧
        keyBytes v = .error .notText := ⟨_, rfl, rfl⟩
    have signature : ∀ p, checkSignature (sessionOf "null" "30").room "null" p =
        .error (.key .notText) := by
      intro p
      simp only [checkSignature, only, anyKeySigns, unfit]
    refine ⟨_, (create_own kept "u1" "alice" "o1" false).2 ((issue_eq_ok (by decide)).2
      ⟨secret ▸ signs, ?_, rfl⟩), ?_⟩
    · rw [minutes]
      decide
    · rw [authenticate_after kept, secret, minutes, Token.authenticate, verify, parts_signed]
      have algorithm : checkAlgorithm headerFields = .ok () := rfl
      simp only [signedParts, algorithm, signature]
      rfl

end TokenSession

end Runboard
