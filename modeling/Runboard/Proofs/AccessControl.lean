import Runboard.Proofs.Callers
import Runboard.Proofs.PageReading

/-!
# `Runboard.Proofs.AccessControl`: who is refused

A visit to a page is refused unless the request is from somebody, the organization of the caller
exists, and the caller is a member of it or has support access. Whoever is not refused by that is
not refused by the page either.

A text with half a character has no bytes, and neither the question after a member nor an answer can
carry it. A caller whose user is such a text and who names an organization that exists, or who names
a missing organization by such a text, is not told of a refusal: the request ends without a prepared
answer. So does that of a caller in whose check a row has to be loaded of which an identifier is stored
as a number: the organization named, another whose digits read as the same number, or the caller's row
as a member.

## Contents

* `Tables.HasOrg`, `Tables.HasMember`, `Tables.Admits`: who may read;
* `Tables.LoadsNumber`, `Tables.Chokes`: whose request ends without a prepared answer, and
  `Tables.not_loadsNumber`, where none does for a number;
* `checkAccess_of_missing`, `checkAccess_of_half`, `checkAccess_of_number`, `checkAccess_of_whole`: the
  check of access, and `authorized_iff`, whom it lets pass;
* `Reply.Refuses`, `refuses_of_failure`, `status_page_ne`: which answers refuse;
* `Service.refuses_iff`: who is refused, exactly.
-/

namespace Runboard

open Runboard.Text

/-! ## Who may read -/

namespace Tables

/-- The tables have the organization that a value names. -/
def HasOrg (t : Tables) (org : Json) : Prop :=
  ∃ u, Uuid.ofJson? org = some u ∧ ∃ o ∈ t.orgs, o.id = some u

/-- The tables have a user as a member of the organization that a value names. -/
def HasMember (t : Tables) (org user : Json) : Prop :=
  ∃ u, Uuid.ofJson? org = some u ∧ ∃ m ∈ t.members, m.orgId = u ∧ .str m.userId = user

/-- The caller may read: the organization exists, and the caller is a member of it or has support
access. -/
def Admits (t : Tables) (c : Caller) : Prop :=
  t.HasOrg c.orgId ∧ (t.HasMember c.orgId c.userId ∨ c.supportAccess = true)

/-- The identifier that a value names is stored as a number, and some organization is found by it. -/
def HasNumberedOrg (t : Tables) (org : Json) : Prop :=
  ∃ u, Uuid.ofJson? org = some u ∧ ¬ u.KeptAsText ∧ ∃ o ∈ t.orgs, o.id.any u.sameKey = true

/-- The row of a user as a member of the organization that a value names has an identifier that is
stored as a number. -/
def HasNumberedMember (t : Tables) (org user : Json) : Prop :=
  ∃ u name row, Uuid.ofJson? org = some u ∧ user = .str name ∧ t.member? u name = some row ∧
    ¬ AreTexts [row.id]

/-- The access of a caller is not checked without loading an identifier that is stored as a number. -/
def LoadsNumber (t : Tables) (c : Caller) : Prop :=
  t.HasNumberedOrg c.orgId ∨ (t.HasOrg c.orgId ∧ t.HasNumberedMember c.orgId c.userId)

/-- The request of the caller ends without a prepared answer: a text without bytes would have to be
looked for, or told, or a number would have to be loaded as an identifier. -/
def Chokes (t : Tables) (c : Caller) : Prop :=
  (t.HasOrg c.orgId ∧ c.userId.holdsHalf = true) ∨
    (¬ t.HasOrg c.orgId ∧ Text.holdsHalf c.orgId.display = true) ∨ t.LoadsNumber c

variable {t : Tables} {org : Json} {u : Uuid}

/-- An organization that is found under a text is the one that is named. -/
theorem hasOrg_of_key (parsed : Uuid.ofJson? org = some u) (kept : u.KeptAsText) {o : OrgRow}
    (listed : o ∈ t.orgs) (key : o.id.any u.sameKey = true) : t.HasOrg org := by
  refine ⟨u, parsed, o, listed, ?_⟩
  obtain ⟨w, id, same⟩ := (Option.any_eq_true _ _).1 key
  rw [id, (Uuid.sameKey_iff_of_keptAsText kept).1 same]

/-- An organization that is there and not found under a number is found under a text. -/
theorem HasOrg.keptAsText (present : t.HasOrg org) (clear : ¬ t.HasNumberedOrg org)
    (parsed : Uuid.ofJson? org = some u) : u.KeptAsText := by
  obtain ⟨u', parsed', o, ho, id⟩ := present
  obtain rfl := Option.some.inj (parsed.symm.trans parsed')
  refine Decidable.of_not_not fun number => clear ⟨u, parsed, number, o, ho, ?_⟩
  rw [id]
  exact u.sameKey_refl

/-- Where organizations and members can be loaded, no check of access loads a number. -/
theorem not_loadsNumber (orgs : ∀ r ∈ t.orgs, AreTexts [r.id])
    (members : ∀ r ∈ t.members, AreTexts [r.id]) (c : Caller) : ¬ t.LoadsNumber c := by
  rintro (⟨u, -, number, o, ho, found⟩ | ⟨-, u, name, row, -, -, found, number⟩)
  · obtain ⟨w, id, same⟩ := (Option.any_eq_true _ _).1 found
    have kept : w.KeptAsText := orgs o ho w (id ▸ List.mem_cons_self)
    rw [Uuid.sameKey_comm, Uuid.sameKey_iff_of_keptAsText kept] at same
    exact number (same ▸ kept)
  · exact number (members row (List.mem_of_find?_eq_some found))

end Tables

section Check
variable {v : TableView} {t : Tables} {c : Caller} {user : String} {org : Json}

theorem org_of_missing (seen : v.tables = .ok t) (missing : ¬ t.HasOrg org)
    (clear : ¬ t.HasNumberedOrg org) : Store.org v org = .ok none := by
  rw [Store.org]
  cases parsed : Uuid.ofJson? org with
  | none => rfl
  | some u =>
    have absent : (t.orgs.find? fun r => r.id.any u.sameKey) = none := by
      refine List.find?_eq_none.2 fun o ho same => ?_
      by_cases kept : u.KeptAsText
      · exact missing (Tables.hasOrg_of_key parsed kept ho same)
      · exact clear ⟨u, parsed, kept, o, ho, same⟩
    simp only [Page.ask_eq seen, Tables.org?, absent, Option.map_none]

theorem org_of_present (seen : v.tables = .ok t) (present : t.HasOrg org)
    (clear : ¬ t.HasNumberedOrg org) : ∃ o, Store.org v org = .ok (some o) := by
  obtain ⟨u, parsed, o, ho, same⟩ := id present
  have kept := present.keptAsText clear parsed
  have found : (t.orgs.find? fun r => r.id.any u.sameKey).isSome = true :=
    List.find?_isSome.2 ⟨o, ho, by rw [same]; exact u.sameKey_refl⟩
  obtain ⟨row, hrow⟩ := Option.isSome_iff_exists.1 found
  have texts : AreTexts [some u] := fun w hw => Option.some.inj (List.mem_singleton.1 hw) ▸ kept
  refine ⟨⟨u, row.name⟩, ?_⟩
  rw [Store.org, parsed]
  simp only [Page.ask_eq seen, Tables.org?, hrow, Option.map_some, load_of_areTexts texts]
  rfl

/-- An organization that is found under a number is not loaded. -/
theorem org_of_number (seen : v.tables = .ok t) (number : t.HasNumberedOrg org) :
    ∃ fault, Store.org v org = .error (.storedId fault) := by
  obtain ⟨u, parsed, number, o, ho, same⟩ := number
  have found : (t.orgs.find? fun r => r.id.any u.sameKey).isSome = true :=
    List.find?_isSome.2 ⟨o, ho, same⟩
  obtain ⟨row, hrow⟩ := Option.isSome_iff_exists.1 found
  have numbered : ¬ AreTexts [some u] := fun texts => number (texts u (List.mem_singleton.2 rfl))
  obtain ⟨fault, -, stopped⟩ := load_of_not_areTexts numbered
  refine ⟨fault, ?_⟩
  rw [Store.org, parsed]
  simp only [Page.ask_eq seen, Tables.org?, hrow, Option.map_some, stopped]
  rfl

/-- A text without bytes cannot be looked for: binding it fails before any row is looked at. -/
theorem isMember_of_unbound (seen : v.tables = .ok t) {u : Uuid} (parsed : Uuid.ofJson? org = some u)
    {fault : EncodeFault} (unbound : encodeFault? user.toList = some fault) :
    Store.isMember v org (.str user) = .error (.bind (.unencodable fault)) := by
  rw [Store.isMember, parsed]
  simp only [Page.ask_eq seen, Bind.text, Bind.ofText, unbound]
  rfl

/-- The half is what has no bytes. -/
theorem unbound_of_half (half : Text.holdsHalf user = true) :
    ∃ fault, encodeFault? user.toList = some fault := by
  refine Option.ne_none_iff_exists'.1 fun none => ?_
  rw [encodeFault?_eq_none.1 none] at half
  cases half

/-- The row of a user whose text has bytes is looked for, and loaded if it is there. -/
theorem isMember_eq (seen : v.tables = .ok t) {u : Uuid} (parsed : Uuid.ofJson? org = some u)
    (whole : Text.holdsHalf user = false) :
    Store.isMember v org (.str user) = match t.member? u user with
      | none => .ok false
      | some r => (load [r.id]).map fun _ => true := by
  have bytes : encodeFault? user.toList = none := encodeFault?_eq_none.2 whole
  rw [Store.isMember, parsed]
  simp only [Page.ask_eq seen, Bind.text, Bind.ofText, bytes]
  show (match t.member? u user with
      | none => pure false
      | some r => (load [r.id]).map fun _ => true) = _
  cases t.member? u user with
  | none => rfl
  | some r => rfl

/-- A member under a text is a member of the organization that is named. -/
theorem hasMember_iff {u : Uuid} (parsed : Uuid.ofJson? org = some u) (kept : u.KeptAsText) :
    t.HasMember org (.str user) ↔ ∃ row, t.member? u user = some row := by
  rw [← Option.isSome_iff_exists, Tables.member?, List.find?_isSome]
  constructor
  · rintro ⟨u', parsed', m, hm, owner, name⟩
    obtain rfl := Option.some.inj (parsed.symm.trans parsed')
    refine ⟨m, hm, ?_⟩
    rw [owner, Json.str.inj name, Uuid.sameKey_refl, beq_self_eq_true]
    rfl
  · rintro ⟨m, hm, found⟩
    obtain ⟨same, name⟩ := Bool.and_eq_true_iff.1 found
    exact ⟨u, parsed, m, hm, ((Uuid.sameKey_iff_of_keptAsText kept).1 same).symm,
      congrArg Json.str (eq_of_beq name)⟩

theorem isMember_of_whole (seen : v.tables = .ok t) (present : t.HasOrg org)
    (clear : ¬ t.HasNumberedOrg org) (whole : Text.holdsHalf user = false)
    (texts : ¬ t.HasNumberedMember org (.str user)) :
    ∃ found, Store.isMember v org (.str user) = .ok found ∧
      (found = true ↔ t.HasMember org (.str user)) := by
  obtain ⟨u, parsed, -⟩ := id present
  rw [isMember_eq seen parsed whole, hasMember_iff parsed (present.keptAsText clear parsed)]
  cases found : t.member? u user with
  | none => exact ⟨false, rfl, by simp⟩
  | some row =>
    have kept : AreTexts [row.id] :=
      Classical.byContradiction fun number => texts ⟨u, user, row, parsed, rfl, found, number⟩
    simp only [load_of_areTexts kept]
    exact ⟨true, rfl, by simp⟩

/-- A row as a member that is numbered is not loaded. -/
theorem isMember_of_number (seen : v.tables = .ok t) (whole : Text.holdsHalf user = false)
    (number : t.HasNumberedMember org (.str user)) :
    ∃ fault, Store.isMember v org (.str user) = .error (.storedId fault) := by
  obtain ⟨u, name, row, parsed, same, found, number⟩ := number
  obtain rfl := Json.str.inj same
  obtain ⟨fault, -, stopped⟩ := load_of_not_areTexts number
  rw [isMember_eq seen parsed whole, found]
  simp only [stopped]
  exact ⟨fault, rfl⟩

/-- A missing organization is reported to everybody. -/
theorem checkAccess_of_missing (seen : v.tables = .ok t) (missing : ¬ t.HasOrg c.orgId)
    (clear : ¬ t.HasNumberedOrg c.orgId) :
    (checkAccess v c).result = .error (.failure (.orgNotFound c.orgId)) := by
  rw [checkAccess, org_of_missing seen missing clear]

theorem checkAccess_of_half (seen : v.tables = .ok t) (present : t.HasOrg c.orgId)
    (clear : ¬ t.HasNumberedOrg c.orgId) (named : c.userId = .str user)
    (half : Text.holdsHalf user = true) :
    ∃ fault, (checkAccess v c).result = .error (.bind (.unencodable fault)) := by
  obtain ⟨o, found⟩ := org_of_present seen present clear
  obtain ⟨u, parsed, -⟩ := id present
  obtain ⟨fault, unbound⟩ := unbound_of_half half
  refine ⟨fault, ?_⟩
  rw [checkAccess, found, named, isMember_of_unbound seen parsed unbound]
  rfl

/-- A check that has to load a number ends in a fault that nothing answers. -/
theorem checkAccess_of_number (seen : v.tables = .ok t) (named : c.userId = .str user)
    (number : t.LoadsNumber c) :
    ∃ fault escape, (checkAccess v c).result = .error fault ∧ Stop.ofStore fault = .escaped escape := by
  by_cases clear : t.HasNumberedOrg c.orgId
  · obtain ⟨fault, stopped⟩ := org_of_number seen clear
    rw [checkAccess, stopped]
    exact ⟨_, _, rfl, rfl⟩
  obtain ⟨present, member⟩ := number.resolve_left clear
  cases whole : Text.holdsHalf user with
  | true =>
    obtain ⟨fault, stopped⟩ := checkAccess_of_half seen present clear named whole
    rw [stopped]
    exact ⟨_, _, rfl, rfl⟩
  | false =>
    rw [named] at member
    obtain ⟨o, found⟩ := org_of_present seen present clear
    obtain ⟨fault, stopped⟩ := isMember_of_number seen whole member
    rw [checkAccess, found, named, stopped]
    exact ⟨_, _, rfl, rfl⟩

/-- A caller of an organization that exists may read if the tables admit the caller, and is refused
if not. -/
theorem checkAccess_of_whole (seen : v.tables = .ok t) (present : t.HasOrg c.orgId)
    (named : c.userId = .str user) (whole : Text.holdsHalf user = false)
    (clear : ¬ t.LoadsNumber c) :
    (t.Admits c ∧ (checkAccess v c).result = .ok ()) ∨
      (¬ t.Admits c ∧ (checkAccess v c).result = .error (.failure accessFailure)) := by
  obtain ⟨texts, member⟩ := not_or.1 clear
  have texts' : ¬ t.HasNumberedMember c.orgId (.str user) :=
    fun number => member ⟨present, named ▸ number⟩
  obtain ⟨o, found⟩ := org_of_present seen present texts
  obtain ⟨member, looked, isMember⟩ := isMember_of_whole seen present texts whole texts'
  rw [checkAccess, found, named, looked]
  rw [← named] at isMember
  cases member with
  | true => exact .inl ⟨⟨present, .inl (isMember.1 rfl)⟩, rfl⟩
  | false =>
    cases support : c.supportAccess with
    | true => exact .inl ⟨⟨present, .inr support⟩, by simp only [supportOrRefuse, support]; rfl⟩
    | false =>
      refine .inr ⟨fun admitted => ?_, by simp only [supportOrRefuse, support]; rfl⟩
      rcases admitted.2 with h | h
      · exact absurd (isMember.2 h) (by decide)
      · exact absurd (support.symm.trans h) (by decide)

/-- The check lets pass exactly the callers whom the tables admit and whose request does not end
without a prepared answer. -/
theorem authorized_iff (seen : v.tables = .ok t) (named : c.userId = .str user) :
    (checkAccess v c).result = .ok () ↔ t.Admits c ∧ ¬ t.Chokes c := by
  by_cases number : t.LoadsNumber c
  · obtain ⟨fault, escape, stopped, -⟩ := checkAccess_of_number seen named number
    rw [stopped]
    exact ⟨nofun, fun h => absurd (.inr (.inr number)) h.2⟩
  by_cases present : t.HasOrg c.orgId
  · cases whole : Text.holdsHalf user with
    | true =>
      obtain ⟨fault, stopped⟩ :=
        checkAccess_of_half seen present (fun h => number (.inl h)) named whole
      rw [stopped]
      exact ⟨nofun, fun h => absurd (.inl ⟨present, named ▸ whole⟩) h.2⟩
    | false =>
      have clear : ¬ t.Chokes c := by
        rintro (⟨-, half⟩ | ⟨missing, -⟩ | loads)
        · rw [named] at half
          exact absurd (whole.symm.trans half) (by decide)
        · exact missing present
        · exact number loads
      rcases checkAccess_of_whole seen present named whole number with
        ⟨admitted, given⟩ | ⟨refused, given⟩
      · exact iff_of_true given ⟨admitted, clear⟩
      · rw [given]
        exact ⟨nofun, fun h => absurd h.1 refused⟩
  · rw [checkAccess_of_missing seen present fun h => number (.inl h)]
    exact ⟨nofun, fun h => absurd h.1.1 present⟩

end Check

/-! ## Answers that refuse -/

/-- The answer refuses the caller, and says why. -/
def Reply.Refuses (y : Reply) : Prop :=
  y.response.status = 401 ∧
    ∃ reason, y.response.body = .json (.obj [("success", .bool false), ("reason", .str reason)])

theorem holdsHalf_envelopeOf (reason : String) :
    (Failure.envelopeOf (.str reason)).holdsHalf = Text.holdsHalf reason := by
  have names : Text.holdsHalf "success" = false ∧ Text.holdsHalf "reason" = false := by decide
  simp only [Failure.envelopeOf, Json.holdsHalf, Json.anyFieldHoldsHalf, names, Bool.false_or,
    Bool.or_false]

namespace Service
variable {s : Service} {r : Request} {page : Page}

/-- A response that has bytes is the answer, but for its headers. -/
theorem replyTo_of_sent {response : Response} (whole : response.canBeSent = true) :
    (s.replyTo r (.ok response)).response.status = response.status ∧
      (s.replyTo r (.ok response)).response.body = response.body := by
  have passed : (Except.ok response).bind (sent (originHeaders s.facade.origins r)) =
      .ok (response.withHeaders (originHeaders s.facade.origins r)) := if_pos whole
  rw [replyTo, passed]
  exact ⟨rfl, rfl⟩

/-- A response without bytes is no answer. -/
theorem replyTo_of_unsent {response : Response} (half : response.canBeSent = false) :
    s.replyTo r (.ok response) = ⟨.internalError, some .halfText⟩ := by
  have stopped : (Except.ok response).bind (sent (originHeaders s.facade.origins r)) =
      .error .halfText := if_neg (by simp [half])
  rw [replyTo, stopped]
  rfl

/-- A failure whose reason has bytes is answered with its status and reason. -/
theorem replyTo_of_failure {f : Failure} {reason : String} (stated : f.reason = .str reason)
    (whole : Text.holdsHalf reason = false) :
    (s.replyTo r (Stop.failure f).outcome).response.status = f.status ∧
      (s.replyTo r (Stop.failure f).outcome).response.body =
        .json (.obj [("success", .bool false), ("reason", .str reason)]) := by
  have body : f.envelope = Failure.envelopeOf (.str reason) := by rw [Failure.envelope, stated]
  have sendable : (Response.json f.status f.envelope).canBeSent = true := by
    show (!f.envelope.holdsHalf) = true
    rw [body, holdsHalf_envelopeOf, whole]
    rfl
  obtain ⟨status, sent⟩ := replyTo_of_sent (s := s) (r := r) sendable
  exact ⟨status, sent.trans (congrArg Body.json body)⟩

/-- A refusal whose reason has bytes is answered by refusing. -/
theorem refuses_of_failure {f : Failure} {reason : String} (refusal : f.status = 401)
    (stated : f.reason = .str reason) (whole : Text.holdsHalf reason = false) :
    (s.replyTo r (Stop.failure f).outcome).Refuses := by
  obtain ⟨status, body⟩ := replyTo_of_failure (s := s) (r := r) stated whole
  exact ⟨status.trans refusal, reason, body⟩

/-- A failure whose reason has no bytes is not answered. -/
theorem replyTo_of_halfFailure {f : Failure} {reason : String} (stated : f.reason = .str reason)
    (half : Text.holdsHalf reason = true) :
    s.replyTo r (Stop.failure f).outcome = ⟨.internalError, some .halfText⟩ := by
  refine replyTo_of_unsent ?_
  show (!f.envelope.holdsHalf) = false
  rw [Failure.envelope, stated, holdsHalf_envelopeOf, half]
  rfl

/-- Only a response that refuses is answered by refusing. -/
theorem status_replyTo_ne {response : Response} (other : response.status ≠ 401) :
    (s.replyTo r (.ok response)).response.status ≠ 401 := by
  cases sendable : response.canBeSent with
  | true =>
    rw [(replyTo_of_sent sendable).1]
    exact other
  | false =>
    rw [replyTo_of_unsent sendable]
    decide

/-- The answer that tells what a page came to does not refuse. -/
theorem status_page_ne {result : Except Stop PageData}
    (served : ∀ stop, result = .error stop → ¬ stop.IsRefusal) :
    (s.replyTo r (pageOutcome result)).response.status ≠ 401 := by
  cases result with
  | ok data => exact status_replyTo_ne (show 200 ≠ 401 by decide)
  | error stop =>
    have notRefusal := served stop rfl
    cases stop with
    | failure f => exact status_replyTo_ne notRefusal
    | database => exact status_replyTo_ne (show 500 ≠ 401 by decide)
    | unknownMetric given => exact status_replyTo_ne (show 422 ≠ 401 by decide)
    | escaped e => exact show (500 : Nat) ≠ 401 by decide

/-! ## Who is refused -/

section Refused
variable {k : KeptSettings} {cache : SettingsCache} {t : Tables} {c : Caller}

/-- The answer to a caller in whose way nothing stands: it refuses exactly those whom the tables do not
admit. -/
theorem refuses_iff_of_caller (visits : r.Visits page)
    (known : (identify s.room s.cache s.now r).1.result = .ok (k.settings, c))
    (seen : s.database.view.tables = .ok t) {user : String} (named : c.userId = .str user)
    (clear : ¬ t.Chokes c) : (s.answer r).1.Refuses ↔ ¬ t.Admits c := by
  rw [answer_of_known visits known seen]
  have texts : ¬ t.LoadsNumber c := fun number => clear (.inr (.inr number))
  by_cases present : t.HasOrg c.orgId
  · have whole : Text.holdsHalf user = false := by
      refine Bool.eq_false_iff.2 fun half => clear (.inl ⟨present, ?_⟩)
      rw [named]
      exact half
    rcases checkAccess_of_whole seen present named whole texts with
      ⟨admitted, given⟩ | ⟨refused, given⟩
    · have served : pageResult k.settings s.database.view c page =
          (page.read k.settings s.database.view c.orgId).result := by
        rw [pageResult, given]
      rw [served]
      refine ⟨fun refuses => absurd refuses.1 ?_, fun refused => absurd admitted refused⟩
      exact status_page_ne fun stop h => Page.not_isRefusal_read seen h
    · rw [pageResult, given]
      exact ⟨fun _ => refused, fun _ => refuses_of_failure (f := accessFailure) rfl rfl (by decide)⟩
  · -- The reason names the organization as the token does.
    have missing := checkAccess_of_missing seen present fun number => texts (.inl number)
    have whole : Text.holdsHalf ("Organization " ++ c.orgId.display ++ " not found") = false := by
      rw [holdsHalf_missing]
      exact Bool.eq_false_iff.2 fun half => clear (.inr (.inl ⟨present, half⟩))
    rw [pageResult, missing]
    exact ⟨fun _ admitted => present admitted.1,
      fun _ => refuses_of_failure (f := .orgNotFound c.orgId) rfl rfl whole⟩

/-- A caller with a text without bytes, or with a number, in the way gets no prepared answer. -/
theorem answer_of_chokes (visits : r.Visits page)
    (known : (identify s.room s.cache s.now r).1.result = .ok (k.settings, c))
    (seen : s.database.view.tables = .ok t) {user : String} (named : c.userId = .str user)
    (chokes : t.Chokes c) :
    (s.answer r).1.response = .internalError ∧ (s.answer r).1.escape.isSome = true := by
  rw [answer_of_known visits known seen]
  by_cases number : t.LoadsNumber c
  · obtain ⟨fault, escape, stopped, escapes⟩ := checkAccess_of_number seen named number
    rw [pageResult, stopped]
    simp only [escapes]
    exact ⟨rfl, rfl⟩
  have texts : ¬ t.HasNumberedOrg c.orgId := fun h => number (.inl h)
  rcases chokes with ⟨present, half⟩ | ⟨missing, half⟩ | loads
  · rw [named] at half
    obtain ⟨fault, unread⟩ := checkAccess_of_half seen present texts named half
    rw [pageResult, unread]
    exact ⟨rfl, rfl⟩
  · have reason : Text.holdsHalf ("Organization " ++ c.orgId.display ++ " not found") = true := by
      rw [holdsHalf_missing]
      exact half
    rw [pageResult, checkAccess_of_missing seen missing texts]
    have unsent := replyTo_of_halfFailure (s := s) (r := r) (f := .orgNotFound c.orgId) rfl reason
    show (s.replyTo r (Stop.failure (.orgNotFound c.orgId)).outcome).response = .internalError ∧
      (s.replyTo r (Stop.failure (.orgNotFound c.orgId)).outcome).escape.isSome = true
    rw [unsent]
    exact ⟨rfl, rfl⟩
  · exact absurd loads number

end Refused

/-- A visit of nobody whom a token names ends as a failure of authentication, which can be told. -/
theorem answer_of_nobody (visits : r.Visits page) {k : KeptSettings} {cache : SettingsCache}
    (kept : s.cache.get = (.ok k, cache)) (readable : r.IsReadable s.room k.settings s.now)
    (nobody : ¬ ∃ c, r.IsFrom s.room k.settings s.now c) :
    ∃ reason, reason ≠ "" ∧ Text.holdsHalf reason = false ∧
      (s.answer r).1 = s.replyTo r (Stop.failure (.authentication (.str reason))).outcome := by
  by_cases header : ∃ token, r.header? "authorization" = some ("Bearer " ++ token)
  · obtain ⟨token, header⟩ := header
    cases known : Token.authenticate s.room k.settings.secretKey s.now token with
    | ok c => exact absurd ⟨c, token, header, known⟩ nobody
    | error e =>
      cases e with
      | faulty fault => exact absurd known (readable token fault header)
      | refused f =>
        obtain ⟨reason, rfl, words, whole⟩ := refusal_of_authenticate known
        exact ⟨reason, words, whole, answer_of_stop visits (identify_of_refused header kept known)⟩
  · have missing := not_exists.1 header
    exact ⟨_, by decide, by decide, answer_of_stop visits (identify_of_missing missing)⟩

/-- A visit of nobody whom a token names is refused. -/
theorem refuses_of_nobody (visits : r.Visits page) {k : KeptSettings} {cache : SettingsCache}
    (kept : s.cache.get = (.ok k, cache)) (readable : r.IsReadable s.room k.settings s.now)
    (nobody : ¬ ∃ c, r.IsFrom s.room k.settings s.now c) : (s.answer r).1.Refuses := by
  obtain ⟨reason, -, whole, answered⟩ := answer_of_nobody visits kept readable nobody
  rw [answered]
  exact refuses_of_failure rfl rfl whole

/-- A visit is refused exactly if it is from no caller whom the tables admit, and from none in whose way
texts without bytes or identifiers stored as numbers are. The visit of such a caller ends without a
prepared answer. -/
theorem refuses_iff (visits : r.Visits page) {k : KeptSettings} {cache : SettingsCache}
    (kept : s.cache.get = (.ok k, cache)) {t : Tables} (seen : s.database.view.tables = .ok t)
    (readable : r.IsReadable s.room k.settings s.now) :
    ((s.answer r).1.Refuses ↔
      (¬ ∃ c, r.IsFrom s.room k.settings s.now c ∧ t.Admits c) ∧
        ¬ ∃ c, r.IsFrom s.room k.settings s.now c ∧ t.Chokes c) ∧
    ((∃ c, r.IsFrom s.room k.settings s.now c ∧ t.Chokes c) →
      (s.answer r).1.response = .internalError ∧ (s.answer r).1.escape.isSome = true) := by
  by_cases somebody : ∃ c, r.IsFrom s.room k.settings s.now c
  · obtain ⟨c, isFrom⟩ := somebody
    have known := identify_of_isFrom kept isFrom
    obtain ⟨user, named⟩ := isFrom.userId
    -- The request is from this caller only, so both conditions are about this caller.
    rw [isFrom.exists_iff t.Admits, isFrom.exists_iff t.Chokes]
    by_cases chokes : t.Chokes c
    · have answered := answer_of_chokes visits known seen named chokes
      refine ⟨⟨fun refuses => ?_, fun spared => absurd chokes spared.2⟩, fun _ => answered⟩
      rw [Reply.Refuses, answered.1] at refuses
      exact absurd refuses.1 (by decide)
    · refine ⟨?_, fun h => absurd h chokes⟩
      rw [refuses_iff_of_caller visits known seen named chokes]
      exact ⟨fun refused => ⟨refused, chokes⟩, fun h => h.1⟩
  · have nobody : ∀ p : Caller → Prop, ¬ ∃ c, r.IsFrom s.room k.settings s.now c ∧ p c := by
      rintro p ⟨c, isFrom, -⟩
      exact somebody ⟨c, isFrom⟩
    have refuses := refuses_of_nobody visits kept readable somebody
    exact ⟨⟨fun _ => ⟨nobody _, nobody _⟩, fun _ => refuses⟩, fun h => absurd h (nobody _)⟩

/-- Tables with an organization and a member. -/
def acme : Tables where
  orgs := [⟨some ⟨0xa⟩, "Acme"⟩]
  members := [⟨none, ⟨0xa⟩, "u-1"⟩]
  statistics := []
  days := []
  workflows := []
  executions := []
  apps := []

/-- The identifier of the organization, as a text. -/
def acmeId : String := "00000000-0000-0000-0000-00000000000a"

theorem acmeId_parsed : Uuid.ofJson? (.str acmeId) = some ⟨0xa⟩ := by decide

/-- The identifier of the organization is stored as a text, since it has a letter. -/
theorem acmeId_keptAsText : Uuid.KeptAsText ⟨0xa⟩ :=
  Uuid.keptAsText_of_letter (c := 'a') (by decide) (by decide)

theorem keepsTexts_acme : acme.KeepsTexts := by
  constructor <;> decide +kernel

/-- The member of the organization is admitted, and nothing stands in the way, in all tables that have
its organization and its members. -/
theorem admits_acmeMember {t : Tables} (orgs : t.orgs = acme.orgs) (members : t.members = acme.members) :
    t.Admits (Token.namedCaller "u-1" "" acmeId false) ∧
      ¬ t.Chokes (Token.namedCaller "u-1" "" acmeId false) := by
  have present : t.HasOrg (.str acmeId) :=
    ⟨_, acmeId_parsed, ⟨some ⟨0xa⟩, "Acme"⟩, by rw [orgs]; exact List.mem_singleton.2 rfl, rfl⟩
  have member : t.HasMember (.str acmeId) (.str "u-1") :=
    ⟨_, acmeId_parsed, ⟨none, ⟨0xa⟩, "u-1"⟩, by rw [members]; exact List.mem_singleton.2 rfl, rfl, rfl⟩
  refine ⟨⟨present, .inl member⟩, ?_⟩
  rintro (⟨-, half⟩ | ⟨missing, -⟩ | loads)
  · exact absurd half (by decide)
  · exact missing present
  · exact Tables.not_loadsNumber (orgs ▸ keepsTexts_acme.orgs) (members ▸ keepsTexts_acme.members) _ loads

/-- A visit of a user of this organization is from that user. -/
theorem isFrom_acmeVisit (target user : String) (support : Bool) (named : user ≠ "")
    (whole : Text.holdsHalf user = false) :
    (plainVisit target user acmeId support).IsFrom plainRoom plainSettings ⟨1700000000500000⟩
      (Token.namedCaller user "" acmeId support) :=
  isFrom_plainVisit target user acmeId support
    ⟨Json.isJoined_of_holdsHalf whole, Json.isJoined_of_holdsHalf (by decide)⟩ named (by decide)

/-- Without support access, only the member may read. -/
theorem not_admits_acme {user : String} (stranger : user ≠ "u-1") :
    ¬ acme.Admits (Token.namedCaller user "" acmeId false) := by
  rintro ⟨-, member | support⟩
  · obtain ⟨u, -, m, hm, -, huser⟩ := member
    obtain rfl := List.mem_singleton.1 hm
    exact stranger (Json.str.inj huser).symm
  · cases support

/-- A user who is no member is refused. -/
theorem refuses_iff_stranger :
    ((plainService acme).answer
      (plainVisit "/api/v1/dashboard/apps" "u-2" acmeId false)).1.Refuses := by
  have isFrom := isFrom_acmeVisit "/api/v1/dashboard/apps" "u-2" false (by decide) (by decide)
  have visits : (plainVisit "/api/v1/dashboard/apps" "u-2" acmeId false).Visits .apps :=
    visits_withBearer rfl rfl trivial
  refine (refuses_iff visits (k := { settings := plainSettings }) rfl
    (congrArg TableView.tables (view_plainService acme)) isFrom.isReadable).1.2 ⟨?_, ?_⟩
  · intro admitted
    exact not_admits_acme (by decide) ((isFrom.exists_iff acme.Admits).1 admitted)
  · intro choked
    rcases (isFrom.exists_iff acme.Chokes).1 choked with ⟨-, half⟩ | ⟨-, half⟩ | number
    · exact absurd half (by decide)
    · exact absurd half (by decide)
    · exact absurd number (Tables.not_loadsNumber keepsTexts_acme.orgs keepsTexts_acme.members _)

/-- A visit of a user who is half a character. -/
def halfVisit : Request :=
  plainVisit "/api/v1/dashboard/apps" (String.singleton (ofHalf 0xd800)) acmeId false

theorem isFrom_halfVisit : halfVisit.IsFrom plainRoom plainSettings (plainService acme).now
    (Token.namedCaller (String.singleton (ofHalf 0xd800)) "" acmeId false) := by
  have joined : Json.IsJoined (String.singleton (ofHalf 0xd800)).toList := by
    rw [String.toList_singleton]
    exact .singleton _
  exact isFrom_plainVisit "/api/v1/dashboard/apps" _ acmeId false
    ⟨joined, Json.isJoined_of_holdsHalf (by decide)⟩ (by decide) (by decide)

/-- A user who is half a character is no member, and yet is not refused. -/
theorem not_refuses_halfVisit :
    halfVisit.Visits .apps ∧ (plainService acme).database.view.tables = .ok acme ∧
      halfVisit.IsReadable plainRoom plainSettings (plainService acme).now ∧
      (¬ ∃ c, halfVisit.IsFrom plainRoom plainSettings (plainService acme).now c ∧ acme.Admits c) ∧
      ¬ ((plainService acme).answer halfVisit).1.Refuses ∧
      ((plainService acme).answer halfVisit).1.response = .internalError := by
  have half : (Json.str (String.singleton (ofHalf 0xd800))).holdsHalf = true := by decide
  have visits : halfVisit.Visits .apps := visits_withBearer rfl rfl trivial
  have seen := congrArg TableView.tables (view_plainService acme)
  have kept : (plainService acme).cache.get =
      (.ok { settings := plainSettings }, (plainService acme).cache) := rfl
  have known := identify_of_isFrom kept isFrom_halfVisit
  have chokes : acme.Chokes (Token.namedCaller (String.singleton (ofHalf 0xd800)) "" acmeId
      false) := .inl ⟨⟨⟨0xa⟩, acmeId_parsed, _, List.mem_singleton.2 rfl, rfl⟩, half⟩
  have answered := answer_of_chokes visits known seen rfl chokes
  refine ⟨visits, seen, isFrom_halfVisit.isReadable, ?_, ?_, answered.1⟩
  · rw [isFrom_halfVisit.exists_iff]
    exact not_admits_acme (by decide)
  · intro refuses
    rw [Reply.Refuses, answered.1] at refuses
    exact absurd refuses.1 (by decide)

/-- An identifier whose digits read as a number with an exponent, as a text. -/
def exponentId : String := "00000000-0000-0000-0000-0000000001e5"

theorem exponentId_parsed : Uuid.ofJson? (.str exponentId) = some ⟨0x1e5⟩ := by decide

theorem exponentId_number : ¬ Uuid.KeptAsText ⟨0x1e5⟩ := by decide +kernel

/-- A visit of a user of the organization under that identifier is from that user. -/
theorem isFrom_exponentVisit (target user : String) (named : user ≠ "")
    (whole : Text.holdsHalf user = false) :
    (plainVisit target user exponentId false).IsFrom plainRoom plainSettings ⟨1700000000500000⟩
      (Token.namedCaller user "" exponentId false) :=
  isFrom_plainVisit target user exponentId false
    ⟨Json.isJoined_of_holdsHalf whole, Json.isJoined_of_holdsHalf (by decide)⟩ named (by decide)

/-- Where the tables have that organization, no visit of its users has a prepared answer. -/
theorem answer_of_exponentVisit {t : Tables} (present : ∃ o ∈ t.orgs, o.id = some ⟨0x1e5⟩)
    {target user : String} (named : user ≠ "") (whole : Text.holdsHalf user = false)
    (visits : (plainVisit target user exponentId false).Visits page) :
    ((plainService t).answer (plainVisit target user exponentId false)).1.response =
      .internalError := by
  obtain ⟨o, ho, id⟩ := present
  have numbered : t.HasNumberedOrg (.str exponentId) :=
    ⟨_, exponentId_parsed, exponentId_number, o, ho, by rw [id]; exact Uuid.sameKey_refl _⟩
  have known := identify_of_isFrom (kept_plainService t)
    (isFrom_exponentVisit target user named whole)
  exact (answer_of_chokes visits (k := { settings := plainSettings }) known (tables_plainService t)
    rfl (.inr (.inr (.inl numbered)))).1

end Service

end Runboard
