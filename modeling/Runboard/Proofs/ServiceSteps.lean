import Mathlib.Logic.Relation
import Runboard.Proofs.EngineLife
import Runboard.Proofs.Journal
import Runboard.Proofs.PageAnswer
import Runboard.Proofs.Stages

/-!
# `Runboard.Proofs.ServiceSteps`: what a step does to the settings and the database

Whatever a service is asked to do, it can do little to what it keeps. The settings are left or read,
and only a change of the environment may drop them before. The database is opened where it was not, a
row is added to its tables, the tables are made or dropped, or it is given up as a whole. Said once for
every step, this is what an invariant of the settings or of the database has to be checked against.

## Contents

* `SettingsCache.Rereads`, `SettingsCache.get_get`: settings that are left or read;
* `MoveKind`, `Database.Move`, `Database.Reaches`: what can happen to a database, by kinds;
* `Service.Goes`, with one lemma for each thing that a service does;
* `ServiceStep.Moves`, `Service.Does`, `Service.does_step`: what each step does;
* `Service.cache_step`, `Service.database_run`: invariants of the settings and of the database;
* `Service.reply_of_step`: only requests are answered with replies.
-/

namespace Runboard

/-! ## Settings -/

namespace SettingsCache

variable {c c' c'' : SettingsCache}

/-- The settings were left as they were kept, or read if there were none. -/
def Rereads (c c' : SettingsCache) : Prop := c' = c ∨ c' = c.get.2

theorem Rereads.refl (c : SettingsCache) : c.Rereads c := .inl rfl

theorem rereads_get (c : SettingsCache) : c.Rereads c.get.2 := .inr rfl

/-- A reading that fails leaves nothing behind. -/
theorem get_of_faults {faults : List SettingFault} (failed : c.get = (.faults faults, c')) :
    c' = c := by
  unfold get at failed
  split at failed
  · cases failed
  · split at failed
    · cases failed
    · exact (Prod.mk.inj failed).2.symm

/-- What was read is not read a second time. -/
theorem get_get (c : SettingsCache) : c.get.2.get.2 = c.get.2 := by
  cases read : c.get with
  | mk result c' =>
    cases result with
    | ok k => rw [get_again read]
    | faults faults =>
      rw [get_of_faults read, read]
      exact get_of_faults read

theorem Rereads.trans (h : c.Rereads c') (h' : c'.Rereads c'') : c.Rereads c'' := by
  rcases h with rfl | rfl
  · exact h'
  · rcases h' with rfl | rfl
    · exact rereads_get c
    · rw [get_get]
      exact rereads_get c

end SettingsCache

open SettingsCache (Rereads)

theorem rereads_identify (room : StackRoom) (cache : SettingsCache) (now : Instant) (r : Request) :
    cache.Rereads (identify room cache now r).2 := by
  unfold identify
  split
  · exact .refl cache
  · split <;> next heq =>
      exact .inr (congrArg Prod.snd heq).symm

theorem rereads_create (d : TokenSession) (order : TokenOrder) :
    d.cache.Rereads (d.create order).2.cache := by
  unfold TokenSession.create
  split
  · exact .refl d.cache
  · split
    · next heq => exact .inr (congrArg Prod.snd heq).symm
    · next heq =>
      split <;> exact .inr (congrArg Prod.snd heq).symm

/-! ## Databases -/

/-- The kinds of what can happen to a database. -/
inductive MoveKind where
  | opening
  | adding
  | creating
  | dropping

namespace Database

variable {d d' d'' : Database}

/-- What can happen to a database, apart from its being given up. -/
inductive Move : MoveKind → Database → Database → Prop
  | opened {d : Database} {e : Engine} (gone : d.engine = none) : Move .opening d (opened e)
  | added {d : Database} {table : Table} {columns : Columns} {t : Tables}
      (added : Service.addedTo d table columns = .ok t) : Move .adding d (d.withTables (some t))
  | created {d d' : Database} (made : d.created = .ok d') : Move .creating d d'
  | dropped {d d' : Database} (gone : d.dropped = .ok d') : Move .dropping d d'

/-- A database becomes another by some moves, all of certain kinds. -/
def Reaches (kinds : MoveKind → Prop) : Database → Database → Prop :=
  Relation.ReflTransGen fun d d' => ∃ k, kinds k ∧ Move k d d'

section Reaches
variable {kinds : MoveKind → Prop} {k : MoveKind}

theorem Reaches.refl (d : Database) : d.Reaches kinds d := Relation.ReflTransGen.refl

theorem Move.reaches (h : d.Move k d') (kind : kinds k) : d.Reaches kinds d' :=
  Relation.ReflTransGen.single ⟨k, kind, h⟩

theorem Reaches.trans (h : d.Reaches kinds d') (h' : d'.Reaches kinds d'') : d.Reaches kinds d'' :=
  Relation.ReflTransGen.trans h h'

/-- What every move preserves is preserved. -/
theorem Reaches.invariant {p : Database → Prop} (moves : ∀ {k d d'}, p d → Move k d d' → p d')
    (h : d.Reaches kinds d') (begins : p d) : p d' := by
  induction h with
  | refl => exact begins
  | tail _ move ih =>
    obtain ⟨k, -, move⟩ := move
    exact moves ih move

end Reaches

/-- Tables are made where the connection can be, except in a database that is only read: those there
are, or empty ones. -/
theorem created_eq_ok : d.created = .ok d' ↔ ∃ connection, d.reach = .ok connection ∧
    connection.storage ≠ .memory true ∧ d' = d.withTables (some (d.tables.getD .empty)) := by
  unfold created
  rw [bind_eq_ok]
  refine exists_congr fun connection => and_congr_right fun _ => ?_
  split
  · next readOnly =>
    constructor
    · intro made
      cases made
    · exact fun h => absurd readOnly h.1
  · next writable =>
    constructor
    · exact fun made => ⟨writable, (Except.ok.inj made).symm⟩
    · rintro ⟨-, rfl⟩
      rfl

/-- Tables are dropped where the connection can be made. -/
theorem dropped_eq_ok : d.dropped = .ok d' ↔ ∃ connection, d.reach = .ok connection ∧
    d' = d.withTables none := by
  unfold dropped
  rw [bind_eq_ok]
  refine exists_congr fun connection => and_congr_right fun _ => ?_
  exact ⟨fun gone => (Except.ok.inj gone).symm, fun h => h ▸ rfl⟩

/-- A row is added to the tables that are seen. -/
theorem tables_of_addedTo {table : Table} {columns : Columns} {t : Tables}
    (added : Service.addedTo d table columns = .ok t) :
    ∃ before row, d.view.tables = .ok before ∧ before.add row = .ok t := by
  -- The last of the stages adds the row; those before it only let it pass.
  obtain ⟨cells, -, added⟩ := bind_eq_ok.1 added
  obtain ⟨-, -, added⟩ := bind_eq_ok.1 added
  obtain ⟨connection, -, added⟩ := bind_eq_ok.1 added
  obtain ⟨-, -, added⟩ := bind_eq_ok.1 added
  obtain ⟨before, seen, added⟩ := bind_eq_ok.1 added
  obtain ⟨row, -, added⟩ := bind_eq_ok.1 added
  exact ⟨before, row, mapError_eq_ok.1 seen, added⟩

theorem rereads_addressFor (given : Option String) (cache : SettingsCache) :
    cache.Rereads (addressFor given cache).2 := by
  unfold addressFor
  split
  · exact .refl cache
  · split <;> next heq =>
      exact .inr (congrArg Prod.snd heq).symm

/-- A start opens the database or leaves it, and may read the settings for its address. -/
theorem goes_start {kinds : MoveKind → Prop} (opens : kinds .opening) (d : Database)
    (given : Option String) (cache : SettingsCache) :
    cache.Rereads (d.start given cache).2.2 ∧ d.Reaches kinds (d.start given cache).2.1 := by
  have address := rereads_addressFor given cache
  have does := d.starts given cache
  cases hs : d.start given cache with
  | mk result rest =>
    rw [hs] at does
    cases does with
    | standing there => exact ⟨.refl _, .refl _⟩
    | addressless gone found =>
      rw [found] at address
      exact ⟨address, .refl _⟩
    | unmade gone found unmade =>
      rw [found] at address
      exact ⟨address, .refl _⟩
    | made gone found made =>
      rw [found] at address
      exact ⟨address, Move.reaches (.opened gone) opens⟩

theorem goes_ready {kinds : MoveKind → Prop} (opens : kinds .opening) (d : Database)
    (cache : SettingsCache) :
    cache.Rereads (d.ready cache).2.2 ∧ d.Reaches kinds (d.ready cache).2.1 := by
  unfold ready
  split
  · exact ⟨.refl _, .refl _⟩
  · exact goes_start opens d none cache

end Database

theorem goes_readPage {kinds : MoveKind → Prop} (opens : kinds .opening) (settings : Settings)
    (c : Caller) (page : Page) (d : Database) (cache : SettingsCache) :
    cache.Rereads (readPage settings c page d cache).2.2 ∧
      d.Reaches kinds (readPage settings c page d cache).2.1 := by
  have ready := Database.goes_ready opens d cache
  unfold readPage
  split <;> next heq =>
    rw [heq] at ready
    exact ready

/-! ## Services -/

namespace Service

/-- The settings were left or read, and the database made moves of certain kinds. -/
structure Goes (kinds : MoveKind → Prop) (s s' : Service) : Prop where
  cache : s.cache.Rereads s'.cache
  database : s.database.Reaches kinds s'.database

section Goes
variable {kinds : MoveKind → Prop} {s s' s'' : Service}

theorem Goes.trans (h : Goes kinds s s') (h' : Goes kinds s' s'') : Goes kinds s s'' :=
  ⟨h.cache.trans h'.cache, h.database.trans h'.database⟩

/-- Nothing happens to the settings and the database. -/
theorem goes_of_eq (cache : s'.cache = s.cache) (database : s'.database = s.database) :
    Goes kinds s s' := ⟨.inl cache, database ▸ .refl _⟩

theorem goes_withSession (opens : kinds .opening) {α : Type} (work : Database → Traced StepFault α) :
    Goes kinds s (s.withSession work).2 := by
  obtain ⟨cache, database⟩ := Database.goes_ready opens s.database s.cache
  unfold withSession
  split <;> next heq =>
    rw [heq] at cache database
    exact ⟨cache, database⟩

theorem goes_insert (adds : kinds .adding) (table : Table) (columns : Columns) :
    Goes kinds s (s.insert table columns).2 := by
  unfold insert
  split
  · exact goes_of_eq rfl rfl
  · split
    · exact goes_of_eq rfl rfl
    · next added => exact ⟨.refl _, Database.Move.reaches (.added added) adds⟩

theorem goes_insertAll (adds : kinds .adding) (table : Table) (rows : List Columns) :
    Goes kinds s (s.insertAll table rows).2 := by
  induction rows generalizing s with
  | nil => exact goes_of_eq rfl rfl
  | cons columns rest ih => exact (goes_insert adds table columns).trans ih

theorem goes_insertWithin (opens : kinds .opening) (adds : kinds .adding) (table : Table)
    (columns : Columns) (keep : Bool) (failing : String) :
    Goes kinds s (s.insertWithin table columns keep failing).2 := by
  obtain ⟨cache, database⟩ := Database.goes_ready opens s.database s.cache
  unfold insertWithin withSession
  rcases ready : s.database.ready s.cache with ⟨fault | events, d, cache'⟩
  · rw [ready] at cache database
    exact ⟨cache, database⟩
  · rw [ready] at cache database
    dsimp only [Traced.after, Traced.ofExcept]
    cases added : addedTo d table columns with
    | error fault => exact ⟨cache, database⟩
    | ok t =>
      have opened : Goes kinds s { s with database := d, cache := cache' } := ⟨cache, database⟩
      have kept : Goes kinds s ({ s with database := d, cache := cache' }.withTables t) :=
        ⟨cache, database.trans (Database.Move.reaches (.added added) adds)⟩
      dsimp only [Except.mapError]
      cases keep <;> split
      · exact opened
      · exact opened
      · exact kept
      · exact kept

/-- A visit does nothing to the settings but read them, and nothing to the database but open it. -/
theorem goes_visit (opens : kinds .opening) (context : LogContext) (r : Request) (page : Page) :
    s.cache.Rereads (s.visit context r page).cache ∧
      s.database.Reaches kinds (s.visit context r page).database := by
  have identified := rereads_identify s.room s.cache s.now r
  unfold visit
  split
  · next heq =>
    rw [heq] at identified
    exact ⟨identified, .refl _⟩
  · next settings caller events cache heq =>
    rw [heq] at identified
    obtain ⟨reread, opened⟩ := goes_readPage opens settings caller page s.database cache
    exact ⟨identified.trans reread, opened⟩

theorem goes_answer (opens : kinds .opening) (r : Request) : Goes kinds s (s.answer r).2.2 := by
  have goes : s.cache.Rereads (s.handle (s.requestContext r) r).cache ∧
      s.database.Reaches kinds (s.handle (s.requestContext r) r).database := by
    unfold handle
    split
    · exact ⟨.refl _, .refl _⟩
    · dsimp only
      unfold dispatch
      split
      · exact ⟨.refl _, .refl _⟩
      · exact ⟨.refl _, .refl _⟩
      · next e _ =>
        split
        · cases e with
          | page page => exact goes_visit opens _ r page
          | _ => exact ⟨.refl _, .refl _⟩
        · exact ⟨.refl _, .refl _⟩
  exact ⟨goes.1, goes.2⟩

theorem goes_requestWith (opens : kinds .opening) (r : Request) (order : Option TokenOrder) :
    Goes kinds s (s.requestWith r order).2 := by
  cases order with
  | none => exact goes_answer opens r
  | some order =>
    have created := rereads_create { cache := s.cache, room := s.room, now := s.now } order
    unfold requestWith
    dsimp only
    split
    · next heq =>
      rw [heq] at created
      exact ⟨created, .refl _⟩
    · next token session heq =>
      rw [heq] at created
      have session : Goes kinds s { s with cache := session.cache } := ⟨created, .refl _⟩
      exact session.trans (goes_answer opens _)

/-- Tables are changed by a move. -/
theorem goes_changeTables (opens : kinds .opening) {k : MoveKind} (changes : kinds k)
    {change : Database → Except TableFault Database}
    (moves : ∀ {d d' : Database}, change d = .ok d' → d.Move k d') :
    Goes kinds s (s.changeTables change).2 := by
  obtain ⟨cache, database⟩ := Database.goes_start opens s.database none s.cache
  unfold changeTables
  split
  · next heq =>
    rw [heq] at cache database
    exact ⟨cache, database⟩
  · next heq =>
    rw [heq] at cache database
    split
    · exact ⟨cache, database⟩
    · next changed => exact ⟨cache, database.trans ((moves changed).reaches changes)⟩

theorem goes_startUp (opens : kinds .opening) (creates : kinds .creating) :
    Goes kinds s s.startUp.2 := by
  have read := SettingsCache.rereads_get s.cache
  unfold startUp
  dsimp only
  split
  · next heq =>
    rw [heq] at read
    exact ⟨read, .refl _⟩
  · next kept cache heq =>
    rw [heq] at read
    have configured : ∀ setup, Goes kinds s
        { s with cache := cache, setup := setup, life := .after } := fun _ => ⟨read, .refl _⟩
    have opened := fun setup =>
      (configured setup).trans (goes_changeTables opens creates Database.Move.created)
    split <;> next heq =>
      have goes := (congrArg (fun x => Goes kinds s x.2) heq).mp (opened _)
      exact ⟨goes.cache, goes.database⟩

theorem rereads_rebuild : s.cache.Rereads s.rebuild.2.cache := by
  unfold rebuild
  split <;> next heq =>
    exact .inr (congrArg Prod.snd heq).symm

/-- A change of the environment leaves the database, and may drop the settings, after which they may be
read again. -/
theorem goes_changeEnvironment (changes : List (String × Option Json))
    (dropSettings rebuilding : Bool) :
    (s.changeEnvironment changes dropSettings rebuilding).2.database = s.database ∧
      ((s.cache.setVariables changes).2.Rereads
          (s.changeEnvironment changes dropSettings rebuilding).2.cache ∨
        (s.cache.setVariables changes).2.drop.Rereads
          (s.changeEnvironment changes dropSettings rebuilding).2.cache) := by
  have built : ∀ c, ({ s with cache := c } : Service).rebuild.2.database = s.database := by
    intro c
    unfold rebuild
    split <;> rfl
  have read := fun c => @rereads_rebuild { s with cache := c }
  unfold changeEnvironment
  split
  · next heq =>
    rw [heq]
    exact ⟨rfl, .inl (.refl _)⟩
  · next cache heq =>
    rw [heq]
    cases dropSettings <;> cases rebuilding
    · exact ⟨rfl, .inl (.refl _)⟩
    · exact ⟨built cache, .inl (read cache)⟩
    · exact ⟨rfl, .inr (.refl _)⟩
    · exact ⟨built cache.drop, .inr (read cache.drop)⟩

end Goes

end Service

/-- The kinds of moves that a step may make the database make. -/
def ServiceStep.Moves : ServiceStep → MoveKind → Prop
  | .ask _, k => k = .opening
  | .insert _ _, k => k = .adding
  | .insertWithin _ _ _ _, k => k = .opening ∨ k = .adding
  | .request _ _, k => k = .opening
  | .createTables, k => k = .opening ∨ k = .creating
  | .dropTables, k => k = .opening ∨ k = .dropping
  | .startUp, k => k = .opening ∨ k = .creating
  | _, _ => False

namespace Service

/-- What a step does to the settings and the database. -/
inductive Does (s : Service) : ServiceStep → Service → Prop
  /-- Any step may leave or read the settings, and move the database in its own ways. -/
  | goes {x : ServiceStep} {s' : Service} (goes : Goes x.Moves s s') : Does s x s'
  | environment {changes : List (String × Option Json)} {dropSettings rebuilding : Bool}
      {s' : Service} (database : s'.database = s.database)
      (cache : (s.cache.setVariables changes).2.Rereads s'.cache ∨
        (s.cache.setVariables changes).2.drop.Rereads s'.cache) :
      Does s (.environment changes dropSettings rebuilding) s'
  | close {s' : Service} (cache : s'.cache = s.cache) (database : s'.database = s.database.close) :
      Does s .close s'
  | shutDown {s' : Service} (cache : s'.cache = s.cache)
      (database : s'.database = s.database.close) : Does s .shutDown s'

theorem does_step (s : Service) (x : ServiceStep) : s.Does x (s.step x).2 := by
  cases x with
  | ask q =>
    have opens : (ServiceStep.ask q).Moves .opening := rfl
    exact .goes (goes_withSession opens _)
  | insert table rows =>
    have adds : (ServiceStep.insert table rows).Moves .adding := rfl
    exact .goes (goes_insertAll adds table rows)
  | insertWithin table row keep failing =>
    exact .goes (goes_insertWithin (.inl rfl) (.inr rfl) table row keep failing)
  | request r order =>
    have opens : (ServiceStep.request r order).Moves .opening := rfl
    exact .goes (goes_requestWith opens r order)
  | advance seconds =>
    refine .goes ?_
    show Goes _ s (s.advance seconds).2
    unfold advance
    split <;> exact goes_of_eq rfl rfl
  | environment changes dropSettings rebuilding =>
    obtain ⟨database, cache⟩ := @goes_changeEnvironment s changes dropSettings rebuilding
    exact .environment database cache
  | createTables => exact .goes (goes_changeTables (.inl rfl) (.inr rfl) Database.Move.created)
  | dropTables => exact .goes (goes_changeTables (.inl rfl) (.inr rfl) Database.Move.dropped)
  | close => exact .close rfl rfl
  | startUp => exact .goes (goes_startUp (.inl rfl) (.inr rfl))
  | shutDown =>
    show s.Does .shutDown s.shutDown.2
    unfold shutDown
    split
    · exact .goes (goes_of_eq rfl rfl)
    · exact .goes (goes_of_eq rfl rfl)
    · exact .shutDown rfl rfl

/-! ## Invariants -/

/-- What a step does to the settings: it leaves or reads them, and only with a change of the
environment they may be dropped before. -/
theorem cache_step (s : Service) (x : ServiceStep) :
    s.cache.Rereads (s.step x).2.cache ∨
      ∃ changes, (s.cache.setVariables changes).2.Rereads (s.step x).2.cache ∨
        (s.cache.setVariables changes).2.drop.Rereads (s.step x).2.cache := by
  cases does_step s x with
  | goes goes => exact .inl goes.cache
  | environment database cache => exact .inr ⟨_, cache⟩
  | close cache database => exact .inl (.inl cache)
  | shutDown cache database => exact .inl (.inl cache)

/-- A step moves the database in its own ways, or gives it up. -/
theorem database_step (s : Service) (x : ServiceStep) :
    s.database.Reaches x.Moves (s.step x).2.database ∨
      (s.step x).2.database = s.database.close := by
  cases does_step s x with
  | goes goes => exact .inl goes.database
  | environment database cache => exact .inl (database ▸ .refl _)
  | close cache database => exact .inr database
  | shutDown cache database => exact .inr database

/-- What holds of a database that is given up and is preserved by every move holds in all that a service
goes through. -/
theorem database_run {p : Database → Prop} (closed : p .closed)
    (moves : ∀ {k d d'}, p d → Database.Move k d d' → p d') {s : Service} (begins : p s.database)
    (steps : List ServiceStep) : p (s.run steps).2.database := by
  refine run_invariant (p := (p ·.database)) (fun x _ s holds => ?_) begins
  rcases database_step s x with moved | gone
  · exact moved.invariant moves holds
  · rw [gone]
    exact closed

/-- A service begins with its database closed, or in memory. -/
theorem database_launch {environment : Environment} {secrets : Nat → String} {room : StackRoom}
    {setup : LogSetup} {now : Instant} {withDatabase : Bool}
    {s : Service} (launched : Service.launch environment secrets room setup now withDatabase = .ok s) :
    s.database = .closed ∨ s.database = .inMemory := by
  unfold launch at launched
  split at launched
  · cases launched
  · obtain rfl := Checked.ok.inj launched
    cases withDatabase with
    | false => exact .inl rfl
    | true => exact .inr rfl

/-! ## Replies -/

section Replies
variable {s : Service}

/-- A question is not answered with a reply. -/
theorem answerOf_ne_reply (v : TableView) (q : Question) (y : Reply) :
    (answerOf v q).result ≠ .ok (.reply y) := by
  have mapped : ∀ {α : Type} (x : Except StoreFault α) (f : α → StepAnswer), (∀ a, f a ≠ .reply y) →
      (Traced.ofExcept (x.map f)).result ≠ .ok (.reply y) := by
    intro α x f other replied
    cases x with
    | error fault => cases replied
    | ok a => exact other a (Except.ok.inj replied)
  intro replied
  cases q with
  | statistics id =>
    rw [answerOf, Traced.result_bind] at replied
    split at replied <;> cases replied
  | access caller =>
    rw [answerOf, Traced.result_bind] at replied
    split at replied <;> cases replied
  | org =>
    rw [answerOf] at replied
    exact mapped _ .org (fun _ => nofun) replied
  | isMember =>
    rw [answerOf] at replied
    exact mapped _ .truth (fun _ => nofun) replied
  | workflows =>
    rw [answerOf] at replied
    exact mapped _ .workflows (fun _ => nofun) replied
  | executionCount =>
    rw [answerOf] at replied
    exact mapped _ .count (fun _ => nofun) replied
  | apps =>
    rw [answerOf] at replied
    exact mapped _ .apps (fun _ => nofun) replied

theorem ask_ne_reply (q : Question) (y : Reply) : (s.ask q).1.result ≠ .ok (.reply y) := by
  intro replied
  unfold ask withSession at replied
  split at replied
  · cases replied
  · exact answerOf_ne_reply _ q y (mapError_eq_ok.1 replied)

theorem changeTables_ne_reply (change : Database → Except TableFault Database) (y : Reply) :
    (answerless (s.changeTables change)).1.answer ≠ .ok (.reply y) := by
  intro replied
  replace replied : ((s.changeTables change).1 >>= fun _ =>
    (pure .nothing : Traced StepFault StepAnswer)).result = .ok (.reply y) := replied
  rw [Traced.result_bind] at replied
  split at replied <;> cases replied

/-- A step that answers with a reply makes a request, under the settings of the service or of a
reading of them. -/
theorem reply_of_step {x : ServiceStep} {y : Reply} (replied : (s.step x).1.answer = .ok (.reply y)) :
    ∃ cache r, s.cache.Rereads cache ∧ y = (({ s with cache := cache } : Service).answer r).1 := by
  cases x with
  | ask q => exact absurd replied (ask_ne_reply q y)
  | insert table rows => cases replied
  | insertWithin table row keep failing =>
    exfalso
    replace replied : (s.insertWithin table row keep failing).1.result = .ok (.reply y) := replied
    unfold insertWithin at replied
    split at replied
    · cases replied
    · dsimp only at replied
      split at replied <;> cases replied
  | request r order =>
    cases order with
    | none =>
      obtain rfl := StepAnswer.reply.inj (Except.ok.inj replied)
      exact ⟨s.cache, r, .refl s.cache, rfl⟩
    | some order =>
      have created := rereads_create { cache := s.cache, room := s.room, now := s.now } order
      replace replied : (s.requestWith r (some order)).1.answer = .ok (.reply y) := replied
      unfold requestWith at replied
      dsimp only at replied
      split at replied
      · cases replied
      · next token session heq =>
        rw [heq] at created
        obtain rfl := StepAnswer.reply.inj (Except.ok.inj replied)
        exact ⟨session.cache, withBearer r token, created, rfl⟩
  | advance seconds =>
    exfalso
    replace replied : (s.advance seconds).1.result = .ok (.reply y) := replied
    unfold advance at replied
    split at replied <;> cases replied
  | environment changes dropSettings rebuilding =>
    exfalso
    replace replied :
      (s.changeEnvironment changes dropSettings rebuilding).1.result = .ok (.reply y) := replied
    unfold changeEnvironment at replied
    split at replied
    · cases replied
    · dsimp only at replied
      split at replied
      · unfold rebuild at replied
        split at replied <;> cases replied
      · cases replied
  | createTables => exact absurd replied (changeTables_ne_reply _ y)
  | dropTables => exact absurd replied (changeTables_ne_reply _ y)
  | close => cases replied
  | startUp =>
    exfalso
    replace replied : s.startUp.1.result = .ok (.reply y) := replied
    unfold startUp at replied
    dsimp only at replied
    split at replied
    · cases replied
    · split at replied <;> cases replied
  | shutDown =>
    exfalso
    replace replied : s.shutDown.1.result = .ok (.reply y) := replied
    unfold shutDown at replied
    split at replied <;> cases replied

end Replies

end Service

end Runboard
