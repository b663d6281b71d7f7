import Runboard.Proofs.PageAnswer
import Runboard.Proofs.TokenAcceptance
import Runboard.Service.Session

/-!
# `Runboard.Proofs.Callers`: who a request is from

A request is from somebody if its header is the word `Bearer`, a blank, and a token that is accepted
under the settings of the moment. Otherwise it is refused with a reason that can be sent, or, where
the token is no refused token but one that cannot be read at all, it ends without an answer.

## Contents

* `bearer?_eq_some`, `header?_withBearer`: the token of a request;
* `identify_of_missing`, `identify_of_isFrom`, `identify_of_refused`, `identify_of_faulty`,
  `get_identify`, `identify_of_nobody`: the caller of a request;
* `Request.IsFrom`, `Request.IsReadable`: requests from somebody, and requests that can be read;
* `refusal_of_authenticate`: what refusals are like;
* `isFrom_withBearer`: a request with a token that was made;
* `isPlainTarget`, `Request.path_of_plain`, `visits_withBearer`: targets that are their own paths;
* `plainService`, `plainVisit`: a service with a plain key, and visits to it.
-/

namespace Runboard

open Runboard.Text

/-! ## Tokens of requests -/

/-- The bearer token is what follows the lead in the header. -/
theorem bearer?_eq_some {r : Request} {token : String} :
    r.bearer? = some token ↔ r.header? "authorization" = some ("Bearer " ++ token) := by
  -- The header is split as a list of characters, and the equation is one of texts.
  unfold Request.bearer?
  cases header : r.header? "authorization" with
  | none => simp
  | some value =>
    simp only [Option.some.injEq]
    constructor
    · intro bearer
      split at bearer
      · next lead =>
        obtain ⟨rest, hrest⟩ := List.isPrefixOf_iff_prefix.1 lead
        rw [← Option.some.inj bearer, ← hrest, List.drop_left]
        apply String.toList_injective
        rw [String.toList_append, ← hrest]
        show bearerLead ++ rest = bearerLead ++ (String.ofList rest).toList
        rw [String.toList_ofList]
      · cases bearer
    · intro lead
      have text : value.toList = bearerLead ++ token.toList := by
        rw [lead, String.toList_append]
        rfl
      rw [if_pos (List.isPrefixOf_iff_prefix.2 (text ▸ List.prefix_append _ _)), text,
        List.drop_left, String.ofList_toList]

/-- A token is put where it is looked for. -/
theorem header?_withBearer {r : Request} (bare : r.header? "authorization" = none)
    (token : String) :
    (Service.withBearer r token).header? "authorization" = some ("Bearer " ++ token) := by
  have absent := Option.map_eq_none_iff.1 bare
  have named : sameHeader "Authorization" "authorization" = true := by
    refine beq_iff_eq.2 (String.toList_injective ?_)
    show ("Authorization".map Char.toLower).toList = ("authorization".map Char.toLower).toList
    rw [String.toList_map, String.toList_map]
    decide
  rw [Request.header?, Service.withBearer, List.find?_append, absent]
  simp only [Option.none_or, List.find?_singleton, named, ↓reduceIte, Option.map_some]

/-! ## Callers -/

/-- The request is from a caller: its header holds a token that names the caller. -/
def Request.IsFrom (r : Request) (room : StackRoom) (settings : Settings) (now : Instant)
    (c : Caller) : Prop :=
  ∃ token, r.header? "authorization" = some ("Bearer " ++ token) ∧
    Token.authenticate room settings.secretKey now token = .ok c

/-- The request holds no token at which reading fails in another way than by refusing it. -/
def Request.IsReadable (r : Request) (room : StackRoom) (settings : Settings) (now : Instant) : Prop :=
  ∀ token fault, r.header? "authorization" = some ("Bearer " ++ token) →
    Token.authenticate room settings.secretKey now token ≠ .error (.faulty fault)

section Identify
variable {room : StackRoom} {cache cache' : SettingsCache} {now : Instant} {r : Request}
  {token : String} {k : KeptSettings}

theorem identify_of_missing
    (missing : ∀ token, r.header? "authorization" ≠ some ("Bearer " ++ token)) :
    (identify room cache now r).1.result = .error (.failure bearerFailure) := by
  have none : r.bearer? = none := by
    cases bearer : r.bearer? with
    | none => rfl
    | some token => exact absurd (bearer?_eq_some.1 bearer) (missing token)
  rw [identify, none]

/-- The service knows who a request is from, under the settings that it keeps. -/
theorem identify_of_isFrom (kept : cache.get = (.ok k, cache')) {c : Caller}
    (isFrom : r.IsFrom room k.settings now c) :
    (identify room cache now r).1.result = .ok (k.settings, c) := by
  obtain ⟨token, header, known⟩ := isFrom
  rw [identify, bearer?_eq_some.2 header]
  simp only [kept, callerOf, known]
  rfl

theorem identify_of_refused (header : r.header? "authorization" = some ("Bearer " ++ token))
    (kept : cache.get = (.ok k, cache')) {f : Failure}
    (refused : Token.authenticate room k.settings.secretKey now token = .error (.refused f)) :
    (identify room cache now r).1.result = .error (.failure f) := by
  rw [identify, bearer?_eq_some.2 header]
  simp only [kept, callerOf, refused]
  rfl

theorem identify_of_faulty (header : r.header? "authorization" = some ("Bearer " ++ token))
    (kept : cache.get = (.ok k, cache')) {fault : Token.Fault}
    (faulty : Token.authenticate room k.settings.secretKey now token = .error (.faulty fault)) :
    (identify room cache now r).1.result = .error (.escaped (.token fault)) := by
  rw [identify, bearer?_eq_some.2 header]
  simp only [kept, callerOf, faulty]
  rfl

/-- Whether or not a request makes the settings be read, they are the ones that are read after it. -/
theorem get_identify (room : StackRoom) (kept : cache.get = (.ok k, cache')) (now : Instant)
    (r : Request) :
    (identify room cache now r).2.get = (.ok k, cache') := by
  unfold identify
  cases r.bearer? with
  | none => exact kept
  | some token =>
    rw [kept]
    exact SettingsCache.get_again kept

/-- A request that is from nobody under the settings, or for which there are no settings, goes no
further. -/
theorem identify_of_nobody
    (nobody : ∀ k cache' c, cache.get = (.ok k, cache') → ¬ r.IsFrom room k.settings now c) :
    ∃ stop, (identify room cache now r).1.result = .error stop := by
  -- Without a token, without settings, and at every error of the token it stops.
  unfold identify
  cases bearer : r.bearer? with
  | none => exact ⟨_, rfl⟩
  | some token =>
    simp only
    split
    · exact ⟨_, rfl⟩
    · next k cache' kept =>
      cases known : Token.authenticate room k.settings.secretKey now token with
      | ok c => exact absurd ⟨token, bearer?_eq_some.1 bearer, known⟩ (nobody k cache' c kept)
      | error e =>
        cases e <;>
          · simp only [callerOf, known]
            exact ⟨_, rfl⟩

end Identify

namespace Request
variable {r : Request} {room : StackRoom} {settings : Settings} {now : Instant} {c : Caller}

/-- A request is from one caller. -/
theorem IsFrom.unique (h : r.IsFrom room settings now c) {c' : Caller}
    (h' : r.IsFrom room settings now c') :
    c' = c := by
  obtain ⟨token, header, known⟩ := h
  obtain ⟨token', header', known'⟩ := h'
  have same := (bearer?_eq_some.2 header).symm.trans (bearer?_eq_some.2 header')
  rw [← Option.some.inj same, known] at known'
  exact (Except.ok.inj known').symm

/-- What holds of some caller whom the request is from holds of that caller. -/
theorem IsFrom.exists_iff (h : r.IsFrom room settings now c) (p : Caller → Prop) :
    (∃ c', r.IsFrom room settings now c' ∧ p c') ↔ p c := by
  constructor
  · rintro ⟨c', h', holds⟩
    exact h.unique h' ▸ holds
  · intro holds
    exact ⟨c, h, holds⟩

/-- Of the settings only the secret decides who a request is from. -/
theorem IsFrom.of_secret (h : r.IsFrom room settings now c) {settings' : Settings}
    (same : settings'.secretKey = settings.secretKey) : r.IsFrom room settings' now c := by
  unfold IsFrom
  rw [same]
  exact h

theorem IsFrom.isReadable (h : r.IsFrom room settings now c) : r.IsReadable room settings now := by
  obtain ⟨token, header, known⟩ := h
  intro token' fault header' faulty
  have same := (bearer?_eq_some.2 header).symm.trans (bearer?_eq_some.2 header')
  rw [← Option.some.inj same, known] at faulty
  cases faulty

/-- The user of a caller is a text. -/
theorem IsFrom.userId (h : r.IsFrom room settings now c) : ∃ user, c.userId = .str user := by
  obtain ⟨token, -, known⟩ := h
  -- Only claims with a text for the user name a caller.
  obtain ⟨claims, -, named⟩ := Token.authenticate_eq_ok.1 known
  obtain ⟨-, user, org, -, -, -, -, rfl⟩ := Token.ofClaims_eq_ok.1 named
  exact ⟨user, rfl⟩

end Request

/-- The fault of a refused token is told by words that have bytes. -/
theorem holdsHalf_message {fault : Token.Fault} (refusal : fault.isRefusal = true) :
    holdsHalf fault.message = false := by
  -- The faults that quote what was given are no refusals; the others have words of their own.
  cases fault with
  | claim fault =>
    cases fault with
    | notInteger claim => cases claim <;> decide +kernel
    | infiniteTime => cases refusal
    | timelessKind kind => cases refusal
    | _ => decide +kernel
  | unencodable fault => cases refusal
  | key fault => cases refusal
  | tooDeep bracket => cases refusal
  | _ => decide +kernel

theorem holdsHalf_append (s t : String) : holdsHalf (s ++ t) = (holdsHalf s || holdsHalf t) := by
  simp only [holdsHalf, String.toList_append, List.any_append]

/-- That an organization is missing is told by what names it. -/
theorem holdsHalf_missing (org : Json) :
    holdsHalf ("Organization " ++ org.display ++ " not found") = holdsHalf org.display := by
  have words : holdsHalf "Organization " = false ∧ holdsHalf " not found" = false := by decide
  rw [holdsHalf_append, holdsHalf_append, words.1, words.2, Bool.false_or, Bool.or_false]

/-- A text with a word in front of it is not empty. -/
theorem append_ne_empty {word : String} (h : word ≠ "") (s : String) : word ++ s ≠ "" :=
  fun empty => h (String.append_eq_empty_iff.1 empty).1

/-- A refusal is one of authentication, says why, and can be sent. -/
theorem refusal_of_authenticate {room : StackRoom} {secret : String} {now : Instant}
    {token : String} {f : Failure}
    (refused : Token.authenticate room secret now token = .error (.refused f)) :
    ∃ reason, f = .authentication (.str reason) ∧ reason ≠ "" ∧ holdsHalf reason = false := by
  unfold Token.authenticate at refused
  split at refused
  · next fault _ =>
    split at refused
    · next refusal =>
      cases refused
      refine ⟨_, rfl, append_ne_empty (by decide) _, ?_⟩
      rw [holdsHalf_append, holdsHalf_message refusal]
      decide
    · cases refused
  · unfold Caller.ofClaims at refused
    split at refused
    · cases refused
      exact ⟨_, rfl, by decide, by decide⟩
    · split at refused
      · cases refused
      · cases refused
        exact ⟨_, rfl, by decide, by decide⟩

/-! ## Requests with tokens that were made -/

/-- A request with a token that was made, and has not ended, is from whom the token was made
for. -/
theorem isFrom_withBearer {room : StackRoom} {settings : Settings} {user username org : String}
    {made now : Instant} {delta : Int} {support : Bool}
    (terms : Token.Terms room settings.secretKey user username org made delta) (hu : user ≠ "")
    (ho : org ≠ "") (live : now.seconds ≤ (made.add delta).seconds) {r : Request}
    (bare : r.header? "authorization" = none) :
    (Service.withBearer r (Token.sign (encodeUtf8 settings.secretKey.toList)
        (Token.claimsFor (Token.namedIdentity user username org support) made.seconds
          (made.add delta).seconds))).IsFrom room settings now
      (Token.namedCaller user username org support) := by
  refine ⟨_, header?_withBearer bare _, ?_⟩
  rw [terms.authenticate hu ho, if_pos live]

/-! ## Requests with plain targets -/

theorem percentBytes_of_not_mem {cs : List Char} (plain : '%' ∉ cs) :
    percentBytes cs = encodeUtf8 cs := by
  fun_induction percentBytes cs with
  | case1 a b rest => exact absurd List.mem_cons_self plain
  | case2 a b rest => exact absurd List.mem_cons_self plain
  | case3 c rest _ ih => rw [ih (List.not_mem_of_not_mem_cons plain), encodeUtf8_cons]
  | case4 => rfl

/-- A text of one-byte characters without percent signs stands for itself. -/
theorem percentDecode_of_ascii {cs : List Char} (ascii : IsAscii cs) (plain : '%' ∉ cs) :
    percentDecode cs = cs := by
  rw [percentDecode, percentBytes_of_not_mem plain, decodeUtf8Lossy, scanUtf8_of_ascii ascii,
    List.map_map]
  exact List.map_id cs

/-- A target of one-byte characters, with no query and nothing to decode. -/
def isPlainTarget (target : String) : Bool :=
  target.toList.all fun c => c.toNat < 0x80 && c != '%' && c != '?'

/-- A plain target is the path of its request. -/
theorem Request.path_of_plain {r : Request} (plain : isPlainTarget r.target = true) :
    r.path = r.target.toList := by
  simp only [isPlainTarget, List.all_eq_true, Bool.and_eq_true, decide_eq_true_eq, bne_iff_ne]
    at plain
  have unsplit : splitFirst '?' r.target.toList = none :=
    splitFirst_of_not_mem fun h => (plain _ h).2 rfl
  have whole : r.targetParts.1 = r.target.toList := by rw [Request.targetParts, unsplit]; rfl
  rw [Request.path, whole]
  exact percentDecode_of_ascii (fun c h => (plain c h).1.1) fun h => (plain _ h).1.2 rfl

/-- A request for the path of a page visits the page, whatever token it has. -/
theorem visits_withBearer {target token : String} {page : Page} (plain : isPlainTarget target = true)
    (named : target.toList = page.path) (segment : page.IsSegment) :
    (Service.withBearer ⟨"GET", target, []⟩ token).Visits page :=
  ⟨rfl, (Request.path_of_plain plain).trans named, segment⟩

/-- Settings with a plain key, and weeks of three days. -/
def plainSettings : Settings where
  appName := "Runboard"
  appVersion := "1.0.0"
  debug := false
  environment := "development"
  host := "127.0.0.1"
  port := 8000
  databaseUrl := "sqlite+aiosqlite:///:memory:"
  secretKey := "plain text key"
  tokenMinutes := 60
  corsAllowedOrigins := none
  maxAppCount := 100
  weekLength := 3
  monthLength := 30
  extra := []

/-- The loggers before anything is configured: the root at `WARNING` without handlers, and one library
that sets its own level when it is loaded. -/
def freshSetup : LogSetup where
  rootLevel := Level.warning
  handlers := []
  levels := [("sqlalchemy", Level.warning)]

/-- Secrets to be drawn, no two of them the same. -/
def plainSecrets (reading : Nat) : String := "drawn at reading " ++ toString reading

theorem plainSecrets_ne_empty (reading : Nat) : plainSecrets reading ≠ "" :=
  append_ne_empty (by decide) _

/-- Room for fewer brackets inside each other than a stack usually has. -/
def plainRoom : StackRoom := ⟨100, 90, 90⟩

/-- The settings are kept, and no secret was drawn. -/
def plainCache : SettingsCache where
  environment := []
  secrets := plainSecrets
  kept := some { settings := plainSettings }

/-- A service with these settings, with some tables in memory, and with logging configured. -/
def plainService (t : Tables) : Service where
  cache := plainCache
  room := plainRoom
  facade := .ofSettings plainSettings
  database := Database.inMemory.withTables (some t)
  now := ⟨1700000000500000⟩
  setup := freshSetup.configured "production" Level.info

/-- A visit by a user of an organization, with a token that holds for an hour. -/
def plainVisit (target user org : String) (support : Bool) : Request :=
  Service.withBearer ⟨"GET", target, []⟩ (Token.sign (encodeUtf8 plainSettings.secretKey.toList)
    (Token.claimsFor (Token.namedIdentity user "" org support) 1700000000 1700003600))

theorem view_plainService (t : Tables) : (plainService t).database.view = ⟨.ok t, true⟩ := rfl

theorem tables_plainService (t : Tables) : (plainService t).database.view.tables = .ok t := rfl

theorem kept_plainService (t : Tables) : (plainService t).cache.get =
    (.ok { settings := plainSettings }, (plainService t).cache) := rfl

theorem isFrom_plainVisit {room : StackRoom} (target user org : String) (support : Bool)
    (joined : Json.IsJoined user.toList ∧ Json.IsJoined org.toList) (hu : user ≠ "") (ho : org ≠ "") :
    (plainVisit target user org support).IsFrom room plainSettings ⟨1700000000500000⟩
      (Token.namedCaller user "" org support) := by
  have terms : Token.Terms room plainSettings.secretKey user "" org ⟨1700000000500000⟩ 3600000000 :=
    { key := Token.isPlainKey_words
      user := joined.1
      username := Json.isJoined_of_holdsHalf (by decide)
      org := joined.2
      begins := by decide
      ends := by decide }
  exact isFrom_withBearer terms hu ho (by decide) rfl

end Runboard
