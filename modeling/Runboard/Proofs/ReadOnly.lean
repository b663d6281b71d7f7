import Runboard.Proofs.RequestContext
import Runboard.Proofs.ServiceSteps

/-!
# `Runboard.Proofs.ReadOnly`: requests only read

A request may open the database, read the settings, use up a number, and put its identifier and its
caller in the context. Where the database is open, the settings are kept, and the request brings an
identifier of its own, nothing of this is left to be done or left behind: the service after the request
is the service before it, whatever came of the request. So each request of a list is answered as if it
were the only one, and no order of the list makes a difference.

The database is open to a start if there is an engine, and to a request if there are sessions. That
these are the same in every state that is reached is an invariant of the steps of the service.

## Contents

* `Service.whole_launch`, `whole_run`: the engine and its sessions;
* `Service.Settled`, `settled_run`: services of which a request has nothing to change;
* `Service.BringsId`, `still_answer`, `still_requestWith`: a request leaves a settled service;
* `Service.run_of_still`: steps that leave a service are independent of each other;
* `Service.reads_of_run`: lists of requests, and their orders.
-/

namespace Runboard

/-! ## The engine and its sessions -/

namespace Service

theorem whole_launch {environment : Environment} {secrets : Nat → String} {room : StackRoom}
    {setup : LogSetup} {now : Instant} {withDatabase : Bool} {s : Service}
    (launched : Service.launch environment secrets room setup now withDatabase = .ok s) :
    s.database.Whole := by
  rcases database_launch launched with closed | memory
  · rw [closed]
    exact Database.whole_closed
  · rw [memory]
    unfold Database.inMemory
    split
    · rfl
    · exact Database.whole_closed

variable {s : Service}

/-- In all that a service goes through, there are sessions exactly while there is an engine. -/
theorem whole_run (h : s.database.Whole) (steps : List ServiceStep) :
    (s.run steps).2.database.Whole := by
  refine database_run Database.whole_closed (fun whole move => ?_) h steps
  -- The tables are changed behind the engine.
  cases move with
  | opened gone => exact Database.whole_opened _
  | added added => exact whole
  | created made =>
    obtain ⟨connection, -, -, rfl⟩ := Database.created_eq_ok.1 made
    exact whole
  | dropped gone =>
    obtain ⟨connection, -, rfl⟩ := Database.dropped_eq_ok.1 gone
    exact whole

/-! ## Settled services -/

/-- A service of which a request has nothing to change: its settings are kept, its database is open,
and its context is empty. -/
structure Settled (s : Service) : Prop where
  kept : s.cache.kept.isSome = true
  opened : s.database.sessions.isSome = true
  clear : s.context = .empty

/-- Between the steps of a service, it is settled once its settings are kept and it has an engine. -/
theorem settled_run {environment : Environment} {secrets : Nat → String} {room : StackRoom}
    {setup : LogSetup} {now : Instant} {withDatabase : Bool}
    (launched : Service.launch environment secrets room setup now withDatabase = .ok s)
    (before : List ServiceStep)
    (kept : (s.run before).2.cache.kept.isSome = true)
    (engine : (s.run before).2.database.engine.isSome = true) : (s.run before).2.Settled where
  kept := kept
  opened := by
    rw [← (whole_run (whole_launch launched) before).isSome_eq]
    exact engine
  clear := context_run (congrArg (·.2.1) (journal_launch launched)) before

end Service

/-- A database that is open is not opened again. -/
theorem Database.ready_of_sessions {d : Database} (opened : d.sessions.isSome = true)
    (cache : SettingsCache) : d.ready cache = (.ok [], d, cache) := if_pos opened

/-- Settings that are kept are left. -/
theorem SettingsCache.Rereads.eq_of_kept {cache cache' : SettingsCache}
    (kept : cache.kept.isSome = true) (h : cache.Rereads cache') : cache' = cache := by
  obtain ⟨k, get⟩ := SettingsCache.get_of_kept kept
  rcases h with same | read
  · exact same
  · rw [read, get]

theorem readPage_still {d : Database} (opened : d.sessions.isSome = true) (settings : Settings)
    (c : Caller) (page : Page) (cache : SettingsCache) :
    (readPage settings c page d cache).2 = (d, cache) := by
  unfold readPage
  rw [Database.ready_of_sessions opened cache]

namespace Service

/-! ## Requests -/

/-- What comes of a request leaves the settings and the database of a service. -/
def Handled.Still (h : Handled) (s : Service) : Prop := h.cache = s.cache ∧ h.database = s.database

section Still
variable {s : Service} {r : Request}

theorem still_visit (settled : s.Settled) (context : LogContext) (r : Request) (page : Page) :
    Handled.Still (s.visit context r page) s := by
  have cache := (rereads_identify s.room s.cache s.now r).eq_of_kept settled.kept
  unfold visit
  split
  · next heq =>
    rw [heq] at cache
    exact ⟨cache, rfl⟩
  · next settings caller events cache' heq =>
    rw [heq] at cache
    have read := readPage_still settled.opened settings caller page cache'
    constructor
    · exact (congrArg Prod.snd read).trans cache
    · exact congrArg Prod.fst read

theorem still_handle (settled : s.Settled) (context : LogContext) (r : Request) :
    Handled.Still (s.handle context r) s := by
  unfold handle
  split
  · exact ⟨rfl, rfl⟩
  · show Handled.Still (s.dispatch context r) s
    unfold dispatch
    split
    · exact ⟨rfl, rfl⟩
    · exact ⟨rfl, rfl⟩
    · next e _ =>
      split
      · cases e with
        | page page => exact still_visit settled context r page
        | _ => exact ⟨rfl, rfl⟩
      · exact ⟨rfl, rfl⟩

/-- A request brings an identifier of its own. -/
def BringsId (r : Request) : Prop := ∃ own, r.header? "x-request-id" = some own ∧ own ≠ ""

/-- A request with an identifier of its own leaves a settled service as it is, whatever comes of
it. -/
theorem still_answer (settled : s.Settled) (brings : BringsId r) : (s.answer r).2.2 = s := by
  obtain ⟨own, header, named⟩ := brings
  have id := requestId_of_own s header named
  have still := still_handle settled (s.context.set { request := some (.str own) }) r
  unfold answer
  rw [id]
  dsimp only
  rw [still.1, still.2, ← settled.clear]

/-- A token after the other headers leaves the identifier. -/
theorem bringsId_withBearer (brings : BringsId r) (token : String) :
    BringsId (withBearer r token) := by
  obtain ⟨own, header, named⟩ := brings
  refine ⟨own, ?_, named⟩
  obtain ⟨h, found, rfl⟩ := Option.map_eq_some_iff.1 header
  unfold Request.header? withBearer
  rw [List.find?_append, found]
  rfl

theorem still_requestWith (settled : s.Settled) (brings : BringsId r) (order : Option TokenOrder) :
    (s.requestWith r order).2 = s := by
  cases order with
  | none => exact still_answer settled brings
  | some order =>
    have cache :=
      (rereads_create { cache := s.cache, room := s.room, now := s.now } order).eq_of_kept settled.kept
    unfold requestWith
    dsimp only
    split
    · next problem session heq =>
      rw [heq] at cache
      show ({ s with cache := session.cache } : Service) = s
      rw [show session.cache = s.cache from cache]
    · next token session heq =>
      rw [heq] at cache
      show (({ s with cache := session.cache } : Service).answer (withBearer r token)).2.2 = s
      rw [show session.cache = s.cache from cache]
      exact still_answer settled (bringsId_withBearer brings token)

end Still

/-! ## Lists of requests -/

/-- Steps each of which leaves the service are reported one by one as if each were the only one. -/
theorem run_of_still {s : Service} {steps : List ServiceStep}
    (still : ∀ x ∈ steps, (s.report x).2 = s) :
    s.run steps = (steps.map fun x => (s.report x).1, s) := by
  induction steps with
  | nil => rfl
  | cons x rest ih =>
    have first := still x List.mem_cons_self
    have others := ih fun y hy => still y (List.mem_cons_of_mem x hy)
    show ((s.report x).1 :: ((s.report x).2.run rest).1, ((s.report x).2.run rest).2) = _
    rw [first, others]
    rfl

/-- Once the settings are kept and there is an engine, requests that bring identifiers of their own
only read. A list of them leaves the service as it was, with its rows, its tables, its settings and its
database; each is reported as it is alone, whatever came of those before it; and in every other order
of the list it is reported the same. -/
theorem reads_of_run {environment : Environment} {secrets : Nat → String} {room : StackRoom}
    {setup : LogSetup} {now : Instant} {withDatabase : Bool}
    {s₀ s : Service} (launched : Service.launch environment secrets room setup now withDatabase = .ok s₀)
    {before : List ServiceStep} (reached : (s₀.run before).2 = s)
    (kept : s.cache.kept.isSome = true) (engine : s.database.engine.isSome = true)
    {requests : List ServiceStep}
    (named : ∀ x ∈ requests, ∃ r order, x = .request r order ∧ BringsId r) :
    (s.run requests).2 = s ∧
      (∀ (i : Nat) (x : ServiceStep), requests[i]? = some x →
        (s.run requests).1[i]? = some (s.report x).1) ∧
      (∀ (i : Nat) (r : Request), requests[i]? = some (.request r none) → ∃ report,
        (s.run requests).1[i]? = some report ∧ report.answer = .ok (.reply (s.answer r).1)) ∧
      ∀ reordered : List ServiceStep, reordered.Perm requests →
        (s.run reordered).2 = s ∧ ∀ (i j : Nat) (x : ServiceStep), requests[i]? = some x →
          reordered[j]? = some x → (s.run reordered).1[j]? = (s.run requests).1[i]? := by
  have settled : s.Settled := by
    subst reached
    exact settled_run launched before kept engine
  have still : ∀ x ∈ requests, (s.report x).2 = s := by
    intro x hx
    obtain ⟨r, order, rfl, brings⟩ := named x hx
    exact still_requestWith settled brings order
  have run : ∀ reordered : List ServiceStep, reordered.Perm requests →
      s.run reordered = (reordered.map fun x => (s.report x).1, s) :=
    fun reordered same => run_of_still fun x hx => still x (same.mem_iff.1 hx)
  have place : ∀ (reordered : List ServiceStep), reordered.Perm requests → ∀ (i : Nat) x,
      reordered[i]? = some x → (s.run reordered).1[i]? = some (s.report x).1 := by
    intro reordered same i x hx
    rw [run reordered same, List.getElem?_map, hx]
    rfl
  refine ⟨congrArg Prod.snd (run requests (List.Perm.refl _)), place requests (List.Perm.refl _),
    ?alone, ?reordered⟩
  case alone =>
    intro i r hr
    exact ⟨_, place requests (List.Perm.refl _) i _ hr, rfl⟩
  case reordered =>
    intro reordered same
    refine ⟨congrArg Prod.snd (run reordered same), fun i j x hi hj => ?_⟩
    rw [place requests (List.Perm.refl _) i x hi, place reordered same j x hj]

/-- After its tables are dropped, a service answers a visit without a token and a look at its health
in either order alike, and stays as it is. -/
theorem reads_of_run_bareVisit :
    ∃ s₀ s, Service.launch [] plainSecrets plainRoom freshSetup ⟨1700000000500000⟩ true = .ok s₀ ∧
      (s₀.run [.dropTables]).2 = s ∧
      (s.run [.request (bareVisit [("x-request-id", "a")]) none,
        .request ⟨"GET", "/health", [("x-request-id", "b")]⟩ none]).2 = s ∧
      (s.run [.request ⟨"GET", "/health", [("x-request-id", "b")]⟩ none,
          .request (bareVisit [("x-request-id", "a")]) none]).1[1]? =
        (s.run [.request (bareVisit [("x-request-id", "a")]) none,
          .request ⟨"GET", "/health", [("x-request-id", "b")]⟩ none]).1[0]? := by
  obtain ⟨s₀, launched, settings, engine⟩ : ∃ s₀,
      Service.launch [] plainSecrets plainRoom freshSetup ⟨1700000000500000⟩ true = .ok s₀ ∧
      (s₀.run [.dropTables]).2.cache.kept.isSome = true ∧
      (s₀.run [.dropTables]).2.database.engine.isSome = true := ⟨_, rfl, rfl, rfl⟩
  have named : ∀ x ∈ [ServiceStep.request (bareVisit [("x-request-id", "a")]) none,
      .request ⟨"GET", "/health", [("x-request-id", "b")]⟩ none],
      ∃ r order, x = .request r order ∧ BringsId r := by
    intro x hx
    simp only [List.mem_cons, List.not_mem_nil, or_false] at hx
    rcases hx with rfl | rfl
    · exact ⟨_, _, rfl, "a", by decide +kernel, by decide⟩
    · exact ⟨_, _, rfl, "b", by decide +kernel, by decide⟩
  obtain ⟨left, -, -, reordered⟩ := reads_of_run launched rfl settings engine named
  exact ⟨s₀, _, launched, rfl, left, (reordered _ (List.Perm.swap _ _ _)).2 0 1 _ rfl rfl⟩

end Service

end Runboard
