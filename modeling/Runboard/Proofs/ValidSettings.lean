import Runboard.Proofs.Callers
import Runboard.Proofs.RecentDays
import Runboard.Proofs.ServiceSteps

/-!
# `Runboard.Proofs.ValidSettings`: settings under which no window is refused

Settings that were read have windows of at least one day, a limit of at least one app, and a secret,
wherever they were read from: each of these is a default that will do, or a value that was checked.
What the service keeps is what it has read, and the only steps that touch it read it again, or drop it
together with a change of the environment. So the lengths of windows that a page of the service works
with are lengths of windows, and no request fails for one that is not.

## Contents

* `Settings.IsValid`, `Settings.setting_induction`, `Settings.isValid_read`: settings that were read;
* `SettingsCache.Valid`, `Service.valid_launch`, `valid_step`, `valid_run`: settings that are kept;
* `Stop.IsWindow`, `Page.read_spares`, `Service.sparesWindow_answer`: pages under valid settings;
* `Service.windows_of_run`: the windows of a run.
-/

namespace Runboard

/-! ## Settings that were read -/

namespace Settings

/-- Settings with windows of at least one day, a limit of at least one app, and a secret. -/
structure IsValid (s : Settings) : Prop where
  week : 1 ≤ s.weekLength
  month : 1 ≤ s.monthLength
  apps : 1 ≤ s.maxAppCount
  secret : s.secretKey ≠ ""

/-- A setting is as its default and all that can be read for it are. -/
theorem setting_induction {α : Type} {p : α → Prop} {s : Sources} {name : String} {default a : α}
    {read : Json → Checked Problem α} (found : setting s name default read = .ok a)
    (absent : p default) (given : ∀ v a, read v = .ok a → p a) : p a := by
  unfold setting at found
  split at found
  · obtain rfl := Checked.ok.inj found
    exact absent
  · next v _ =>
    split at found
    · next a' read =>
      obtain rfl := Checked.ok.inj found
      exact given v a' read
    · cases found

theorem le_of_readPositive (v : Json) (n : Int) (read : readPositive v = .ok n) : 1 ≤ n :=
  of_decide_eq_true (Checked.ensure_eq_ok.1 read).2

/-- A secret is a text that is there, or the one that is drawn. -/
theorem ne_empty_of_readSecret {drawn : String} (present : drawn ≠ "") (v : Json) (secret : String)
    (read : readSecret drawn v = .ok secret) : secret ≠ "" := by
  unfold readSecret at read
  split at read
  · next truthy =>
    cases v with
    | str text =>
      replace read : readWholeText text .ok = .ok secret := read
      unfold readWholeText at read
      split at read
      · cases read
      · obtain rfl := Checked.ok.inj read
        exact bne_iff_ne.1 truthy
    | _ => cases read
  · obtain rfl := Checked.ok.inj read
    exact present

theorem isValid_build {drawn : String} (present : drawn ≠ "") {sources : Sources} {s : Settings}
    (built : build drawn sources = .ok s) : s.IsValid := by
  -- Each setting was found by itself; they are taken apart from the last to the first.
  unfold build at built
  obtain ⟨_, -, built₁₃, -, rfl⟩ := Checked.seq_eq_ok.1 built
  obtain ⟨_, month, built₁₂, hmonth, rfl⟩ := Checked.seq_eq_ok.1 built₁₃
  obtain ⟨_, week, built₁₁, hweek, rfl⟩ := Checked.seq_eq_ok.1 built₁₂
  obtain ⟨_, apps, built₁₀, happs, rfl⟩ := Checked.seq_eq_ok.1 built₁₁
  obtain ⟨_, -, built₉, -, rfl⟩ := Checked.seq_eq_ok.1 built₁₀
  obtain ⟨_, -, built₈, -, rfl⟩ := Checked.seq_eq_ok.1 built₉
  obtain ⟨_, secret, built₇, hsecret, rfl⟩ := Checked.seq_eq_ok.1 built₈
  obtain ⟨_, -, built₆, -, rfl⟩ := Checked.seq_eq_ok.1 built₇
  obtain ⟨_, -, built₅, -, rfl⟩ := Checked.seq_eq_ok.1 built₆
  obtain ⟨_, -, built₄, -, rfl⟩ := Checked.seq_eq_ok.1 built₅
  obtain ⟨_, -, built₃, -, rfl⟩ := Checked.seq_eq_ok.1 built₄
  obtain ⟨_, -, built₂, -, rfl⟩ := Checked.seq_eq_ok.1 built₃
  obtain ⟨_, -, built₁, -, rfl⟩ := Checked.seq_eq_ok.1 built₂
  obtain ⟨name, -, rfl⟩ := Checked.map_eq_ok.1 built₁
  exact
    { week := setting_induction hweek (by decide) le_of_readPositive
      month := setting_induction hmonth (by decide) le_of_readPositive
      apps := setting_induction happs (by decide) le_of_readPositive
      secret := setting_induction (p := (· ≠ "")) hsecret present
        (ne_empty_of_readSecret present) }

/-- Wherever settings were read from and under whatever options, they are valid. -/
theorem isValid_read {drawn : String} (present : drawn ≠ "") {sources : Sources} {s : Settings}
    (found : read drawn sources = .ok (.ok s)) : s.IsValid := by
  unfold read at found
  split at found
  · cases found
  · exact isValid_build present (Except.ok.inj found)

end Settings

/-! ## Settings that are kept -/

namespace SettingsCache

variable {c c' : SettingsCache}

/-- What is kept, if anything, is valid, and every secret that is drawn is there. -/
structure Valid (c : SettingsCache) : Prop where
  kept : ∀ k, c.kept = some k → k.settings.IsValid
  drawn : ∀ i, c.secrets i ≠ ""

theorem Valid.drop (h : c.Valid) : c.drop.Valid :=
  ⟨fun k kept => absurd kept.symm (Option.some_ne_none k), h.drawn⟩

/-- Changes of the environment leave what is kept. -/
theorem Valid.setVariables (h : c.Valid) (changes : List (String × Option Json)) :
    (c.setVariables changes).2.Valid := ⟨h.kept, h.drawn⟩

/-- Settings that are answered are valid. -/
theorem Valid.of_get (h : c.Valid) {k : KeptSettings} (answered : c.get = (.ok k, c')) :
    k.settings.IsValid := by
  unfold get at answered
  split at answered
  · next k' kept =>
    obtain rfl := Checked.ok.inj (Prod.mk.inj answered).1
    exact h.kept k' kept
  · split at answered
    · next s built =>
      obtain rfl := Checked.ok.inj (Prod.mk.inj answered).1
      exact Settings.isValid_build (h.drawn _) built
    · cases answered

theorem secrets_get (c : SettingsCache) : c.get.2.secrets = c.secrets := by
  unfold get
  split
  · rfl
  · split <;> rfl

theorem Valid.get (h : c.Valid) : c.get.2.Valid := by
  refine ⟨?_, by rw [secrets_get]; exact h.drawn⟩
  cases read : c.get with
  | mk result c' =>
    cases result with
    | ok k =>
      intro k' kept
      have same : c'.get = (.ok k', c') := by rw [SettingsCache.get, kept]
      obtain rfl := Checked.ok.inj (Prod.mk.inj (same.symm.trans (get_again read))).1
      exact h.of_get read
    | faults faults =>
      rw [get_of_faults read]
      exact h.kept

theorem Valid.rereads (h : c.Valid) (reread : c.Rereads c') : c'.Valid := by
  rcases reread with rfl | rfl
  · exact h
  · exact h.get

end SettingsCache

/-! ## Services with valid settings -/

namespace Service

variable {s : Service}

theorem valid_launch {environment : Environment} {secrets : Nat → String} {room : StackRoom}
    (drawn : ∀ i, secrets i ≠ "") {setup : LogSetup} {now : Instant} {withDatabase : Bool}
    (launched : Service.launch environment secrets room setup now withDatabase = .ok s) :
    s.cache.Valid := by
  have fresh : ({ environment, secrets } : SettingsCache).Valid :=
    ⟨fun k kept => absurd kept.symm (Option.some_ne_none k), drawn⟩
  unfold launch at launched
  split at launched
  · cases launched
  · next heq =>
    obtain rfl := Checked.ok.inj launched
    have read := fresh.get
    rw [heq] at read
    exact read

theorem valid_step (valid : s.cache.Valid) (x : ServiceStep) : (s.step x).2.cache.Valid := by
  rcases cache_step s x with reread | ⟨changes, reread | reread⟩
  · exact valid.rereads reread
  · exact (valid.setVariables changes).rereads reread
  · exact (valid.setVariables changes).drop.rereads reread

theorem valid_run (valid : s.cache.Valid) (steps : List ServiceStep) :
    (s.run steps).2.cache.Valid :=
  run_invariant (p := (·.cache.Valid)) (fun x _ _ valid => valid_step valid x) valid

/-- A caller who is known is known under valid settings. -/
theorem isValid_of_known (valid : s.cache.Valid) {r : Request} {settings : Settings} {c : Caller}
    (known : (identify s.room s.cache s.now r).1.result = .ok (settings, c)) : settings.IsValid := by
  unfold identify at known
  split at known
  · cases known
  · split at known
    · cases known
    · next kept cache read =>
      -- The settings of the caller are those that were read for the token.
      rw [Traced.result_bind] at known
      split at known
      · cases known
      · obtain ⟨rfl, -⟩ := Prod.mk.inj (Except.ok.inj known)
        exact valid.of_get read

end Service

/-! ## Pages -/

/-- There are no figures because a window is refused. -/
def FigureFault.IsWindow (fault : FigureFault) : Prop := ∃ e, fault = .window e

/-- A request ends because a window is refused. -/
def Stop.IsWindow (stop : Stop) : Prop := ∃ e, stop = .escaped (.figures (.window e))

/-- A request that ends does so for another reason than a refused window. -/
def Traced.Spares {α : Type} (x : Traced Stop α) : Prop := ¬ FailsWith Stop.IsWindow x.result

section Spares
variable {α β : Type}

theorem spares_bind {x : Traced Stop α} {f : α → Traced Stop β} (first : x.Spares)
    (second : ∀ a, (f a).Spares) : (x >>= f).Spares := by
  unfold Traced.Spares
  rw [Traced.result_bind]
  cases found : x.result with
  | error stop =>
    unfold Traced.Spares at first
    rw [found, failsWith_error] at first
    rw [failsWith_error]
    exact first
  | ok a => exact second a

theorem spares_ok {x : Traced Stop α} {a : α} (found : x.result = .ok a) : x.Spares := by
  unfold Traced.Spares
  rw [found]
  exact not_failsWith_ok

theorem spares_error {x : Traced Stop α} {stop : Stop} (stopped : x.result = .error stop)
    (other : ¬ stop.IsWindow) : x.Spares := by
  unfold Traced.Spares
  rw [stopped, failsWith_error]
  exact other

theorem spares_after {x : Traced Stop α} (events : List Event) (spared : x.Spares) :
    (x.after events).Spares := spared

/-- No question to the tables ends because a window is refused. -/
theorem not_isWindow_ofStore (fault : StoreFault) : ¬ (Stop.ofStore fault).IsWindow := by
  rintro ⟨e, window⟩
  cases fault with
  | table fault => cases fault <;> cases window
  | bind fault =>
    rw [Stop.ofStore] at window
    split at window <;> cases window
  | storedId fault => cases window
  | dayKind => cases window
  | failure f => cases window

theorem not_isWindow_ofOpen (fault : OpenFault) : ¬ (Stop.ofOpen fault).IsWindow := by
  rintro ⟨e, window⟩
  cases fault with
  | settings faults => cases window
  | engine fault =>
    rw [Stop.ofOpen] at window
    split at window <;> cases window

theorem spares_ofStore (x : Except StoreFault α) (events : List Event) :
    (⟨x.mapError Stop.ofStore, events⟩ : Traced Stop α).Spares := by
  cases x with
  | error fault => exact spares_error rfl (not_isWindow_ofStore fault)
  | ok a => exact spares_ok rfl

theorem spares_readSnapshot (v : TableView) (org : Json) : (Page.readSnapshot v org).Spares := by
  unfold Page.readSnapshot
  cases Store.statistics v org with
  | error fault => exact spares_error rfl (not_isWindow_ofStore fault)
  | ok found => exact spares_ok rfl

theorem spares_shown (x : Option α) : (Page.shown x).Spares := by
  cases x with
  | none =>
    have stopped : (Page.shown (none : Option α)).result =
        .error (.escaped (.figures .notShown)) := rfl
    refine spares_error stopped ?_
    rintro ⟨e, window⟩
    cases window
  | some a => exact spares_ok rfl

/-- Figures that fail do so for another reason than a refused window. -/
theorem spares_figured {x : Except FigureFault α}
    (spared : ¬ FailsWith FigureFault.IsWindow x) : (Page.figured x).Spares := by
  cases x with
  | error fault =>
    refine spares_error rfl ?_
    rintro ⟨e, window⟩
    injection window with window
    injection window with window
    exact spared ⟨fault, rfl, e, window⟩
  | ok a => exact spares_ok rfl

end Spares

/-! ### Figures -/

section Figures
variable {n : Int}

theorem not_window_ofNumbers {α : Type} (x : Option α) :
    ¬ FailsWith FigureFault.IsWindow (ofNumbers x) := by
  cases x with
  | none =>
    unfold ofNumbers
    rw [failsWith_error]
    rintro ⟨e, window⟩
    cases window
  | some a => exact not_failsWith_ok

/-- A history has entries within every window of at least one day. -/
theorem entriesWithin_eq {α : Type} (history : List α) (long : 1 ≤ n) :
    entriesWithin history (.int n) = .ok (history.reverse.take (n - 1).toNat) := by
  unfold entriesWithin
  rw [recentEntries_eq history (by omega)]
  rfl

theorem not_window_chartFigures (s : Snapshot Amount) (m : Metric) (long : 1 ≤ n) :
    ¬ FailsWith FigureFault.IsWindow (chartFigures s m (.int n)) := by
  unfold chartFigures
  split
  · rw [chart_eq _ m (by omega)]
    exact not_failsWith_ok
  · -- Of the stages of a chart only that of the entries looks at the window.
    have figures : ¬ FailsWith FigureFault.IsWindow
        (chartOfAmounts s m (.int n)) := by
      unfold chartOfAmounts
      simp only [failsWith_bind, not_window_ofNumbers, entriesWithin_eq _ long, not_failsWith_ok,
        pure, Except.pure, and_false, exists_false, or_self, not_false_eq_true]
    cases made : chartOfAmounts s m (.int n) with
    | error fault =>
      rw [made, failsWith_error] at figures
      intro failed
      exact figures (failsWith_error.1 failed)
    | ok chart => exact not_failsWith_ok

theorem not_window_reportFigures (s : Snapshot Amount) (long : 1 ≤ n) :
    ¬ FailsWith FigureFault.IsWindow (reportFigures s (.int n)) := by
  unfold reportFigures
  split
  · rw [report, dailySeries_eq _ (by omega)]
    exact not_failsWith_ok
  · have figures : ¬ FailsWith FigureFault.IsWindow
        (reportOfAmounts s (.int n)) := by
      unfold reportOfAmounts
      simp only [failsWith_bind, not_window_ofNumbers, entriesWithin_eq _ long, not_failsWith_ok,
        pure, Except.pure, and_false, exists_false, or_self, not_false_eq_true]
    cases made : reportOfAmounts s (.int n) with
    | error fault =>
      rw [made, failsWith_error] at figures
      intro failed
      exact figures (failsWith_error.1 failed)
    | ok report => exact not_failsWith_ok

end Figures

/-- Under valid settings no page is given up for a refused window. -/
theorem Page.read_spares {settings : Settings} (valid : settings.IsValid) (v : TableView)
    (org : Json) (page : Page) : (page.read settings v org).Spares := by
  cases page with
  | workflows => exact spares_ofStore _ _
  | apps => exact spares_ofStore _ _
  | apiUsage =>
    refine spares_bind (spares_readSnapshot v org) fun snapshot => ?_
    refine spares_bind (spares_shown _) fun total => ?_
    exact spares_bind (spares_shown _) fun daily => spares_ok rfl
  | executions =>
    refine spares_bind (spares_readSnapshot v org) fun snapshot => ?_
    refine spares_bind (spares_figured (not_window_reportFigures snapshot valid.month)) fun _ => ?_
    exact spares_bind (spares_shown _) fun report => spares_ok rfl
  | chart metric =>
    rw [Page.read]
    split
    · have stopped : (Traced.fail (.unknownMetric metric) : Traced Stop PageData).result =
          .error (.unknownMetric metric) := rfl
      refine spares_error stopped ?_
      rintro ⟨e, window⟩
      cases window
    · next m _ =>
      refine spares_bind (spares_readSnapshot v org) fun snapshot => ?_
      refine spares_bind (spares_figured (not_window_chartFigures snapshot m valid.week)) fun _ => ?_
      refine spares_bind (spares_ok rfl) fun _ => ?_
      exact spares_bind (spares_shown _) fun figures => spares_ok rfl

theorem readPage_spares {settings : Settings} (valid : settings.IsValid) (c : Caller) (page : Page)
    (d : Database) (cache : SettingsCache) : (readPage settings c page d cache).1.Spares := by
  unfold readPage
  split
  · next fault _ _ _ => exact spares_error rfl (not_isWindow_ofOpen fault)
  · exact spares_after _ (spares_bind (spares_ofStore _ _) fun _ => Page.read_spares valid _ _ page)

/-- A response that has no refused window behind it. -/
def SparesWindow (outcome : Except Escape Response) : Prop :=
  ∀ e, outcome ≠ .error (.figures (.window e))

theorem sparesWindow_outcome {stop : Stop} (other : ¬ stop.IsWindow) :
    SparesWindow stop.outcome := by
  intro e escaped
  cases stop with
  | escaped escape =>
    obtain rfl := Except.error.inj escaped
    exact other ⟨e, rfl⟩
  | _ => cases escaped

theorem sparesWindow_pageOutcome {x : Traced Stop PageData} (spared : x.Spares) :
    SparesWindow (pageOutcome x.result) := by
  unfold Traced.Spares at spared
  cases found : x.result with
  | error stop =>
    rw [found, failsWith_error] at spared
    exact sparesWindow_outcome spared
  | ok data =>
    intro e escaped
    cases escaped

/-- What a response is sent with makes no window be refused. -/
theorem sparesWindow_sent {outcome : Except Escape Response} (spared : SparesWindow outcome)
    (headers : Headers) : SparesWindow (outcome.bind (Service.sent headers)) := by
  intro e escaped
  cases outcome with
  | error escape => exact spared e escaped
  | ok response =>
    replace escaped : Service.sent headers response = .error (.figures (.window e)) := escaped
    unfold Service.sent at escaped
    split at escaped <;> cases escaped

/-! ## Runs -/

namespace Service

variable {s : Service}

/-- A caller who is not known is turned away for another reason than a refused window. -/
theorem not_isWindow_of_identify {room : StackRoom} {cache : SettingsCache} {now : Instant}
    {r : Request} {stop : Stop}
    (stopped : (identify room cache now r).1.result = .error stop) : ¬ stop.IsWindow := by
  rintro ⟨e, rfl⟩
  unfold identify at stopped
  split at stopped
  · cases stopped
  · next token _ =>
    split at stopped
    · cases stopped
    · next kept _ _ =>
      rw [Traced.result_bind, callerOf] at stopped
      cases read : Token.authenticate room kept.settings.secretKey now token with
      | ok c =>
        rw [read] at stopped
        cases stopped
      | error problem =>
        rw [read] at stopped
        cases problem <;> cases stopped

theorem sparesWindow_visit (valid : s.cache.Valid) (context : LogContext) (r : Request)
    (page : Page) : SparesWindow (s.visit context r page).outcome := by
  cases found : (identify s.room s.cache s.now r).1.result with
  | error stop =>
    rw [(visit_of_stop found context page).1]
    exact sparesWindow_outcome (not_isWindow_of_identify found)
  | ok known =>
    rw [outcome_visit found]
    exact sparesWindow_pageOutcome (readPage_spares (isValid_of_known valid found) _ page _ _)

/-- No answer under valid settings has a refused window behind it. -/
theorem sparesWindow_answer (valid : s.cache.Valid) (r : Request) (e : WindowError) :
    (s.answer r).1.escape ≠ some (.figures (.window e)) := by
  have plain : ∀ response : Response, SparesWindow (.ok response) :=
    fun response e escaped => by cases escaped
  have spared : SparesWindow (s.handle (s.requestContext r) r).outcome := by
    cases direct : r.preflight? with
    | some p =>
      unfold handle
      rw [direct]
      exact plain _
    | none =>
      rw [outcome_handle direct]
      refine sparesWindow_sent ?_ _
      unfold dispatch
      split
      · exact plain _
      · exact plain _
      · next endpoint _ =>
        split
        · cases endpoint with
          | page page => exact sparesWindow_visit valid _ r page
          | _ => exact plain _
        · exact plain _
  show (replyOf _ (s.handle (s.requestContext r) r).outcome).escape ≠ _
  cases outcome : (s.handle (s.requestContext r) r).outcome with
  | ok response =>
    intro escaped
    cases escaped
  | error escape =>
    intro escaped
    obtain rfl := Option.some.inj escaped
    exact spared e outcome

/-- Settings that were read, from whatever variables and values given by name, have windows of at least
one day, a limit of at least one app, and a secret, as long as a secret that is drawn for them is one.
And whatever a service goes through after it was put together, with the settings dropped and the
environment changed at any time, the settings under which the caller of a request is known are such,
their week and their month are lengths of windows, and no request fails because a window is
refused. -/
theorem windows_of_run {secrets : Nat → String} (drawn : ∀ i, secrets i ≠ "") (room : StackRoom)
    (setup : LogSetup) (sources : Sources) (environment : Environment) (now : Instant)
    (withDatabase : Bool) (steps : List ServiceStep) :
    (∀ i settings, Settings.read (secrets i) sources = .ok (.ok settings) → settings.IsValid) ∧
      ∀ s₀, Service.launch environment secrets room setup now withDatabase = .ok s₀ →
        (∀ r settings c,
          (identify (s₀.run steps).2.room (s₀.run steps).2.cache (s₀.run steps).2.now r).1.result =
              .ok (settings, c) →
            settings.IsValid ∧
              checkWindow (.int settings.weekLength) = .ok settings.weekLength ∧
              checkWindow (.int settings.monthLength) = .ok settings.monthLength) ∧
          ∀ report ∈ (s₀.run steps).1, ∀ reply, report.answer = .ok (.reply reply) →
            ∀ e, reply.escape ≠ some (.figures (.window e)) := by
  refine ⟨fun i settings => Settings.isValid_read (drawn i), fun s₀ launched => ⟨?known, ?spared⟩⟩
  case known =>
    intro r settings c known
    have valid := isValid_of_known (valid_run (valid_launch drawn launched) steps) known
    exact ⟨valid, checkWindow_int valid.week, checkWindow_int valid.month⟩
  case spared =>
    intro report listed reply replied e
    obtain ⟨before, x, -, rfl⟩ := report_of_mem listed
    obtain ⟨cache, r, reread, rfl⟩ := reply_of_step replied
    exact sparesWindow_answer ((valid_run (valid_launch drawn launched) before).rereads reread) r e

/-- A week of no days that is set while the service runs. -/
def shortWeek : List ServiceStep :=
  [.environment [("DASHBOARD_WEEK_LENGTH", some (.str "0"))] false false,
    .request ⟨"GET", "/health", []⟩ none]

/-- A week of three days is read, and a week of no days that is set later reaches nobody. -/
theorem windows_of_run_shortWeek :
    (∃ settings, Settings.read (plainSecrets 0) ⟨[("DASHBOARD_WEEK_LENGTH", "3")], []⟩ =
        .ok (.ok settings) ∧ settings.IsValid) ∧
      ∃ s₀, Service.launch [("SECRET_KEY", "plain text key")] plainSecrets plainRoom freshSetup
          ⟨1700000000500000⟩ true = .ok s₀ ∧
        (∃ settings c, (identify (s₀.run shortWeek).2.room (s₀.run shortWeek).2.cache
            (s₀.run shortWeek).2.now
            (plainVisit "/api/v1/dashboard/apps" "u-1" "o-1" false)).1.result = .ok (settings, c) ∧
          checkWindow (.int settings.weekLength) = .ok settings.weekLength) ∧
        ∃ report reply, report ∈ (s₀.run shortWeek).1 ∧ report.answer = .ok (.reply reply) ∧
          ∀ e, reply.escape ≠ some (.figures (.window e)) := by
  obtain ⟨read, runs⟩ := windows_of_run plainSecrets_ne_empty plainRoom freshSetup
    ⟨[("DASHBOARD_WEEK_LENGTH", "3")], []⟩ [("SECRET_KEY", "plain text key")] ⟨1700000000500000⟩ true
    shortWeek
  obtain ⟨s₀, launched, now, k, cache, kept, secret⟩ : ∃ s₀,
      Service.launch [("SECRET_KEY", "plain text key")] plainSecrets plainRoom freshSetup
        ⟨1700000000500000⟩ true = .ok s₀ ∧
      (s₀.run shortWeek).2.now = ⟨1700000000500000⟩ ∧
      ∃ k cache, (s₀.run shortWeek).2.cache.get = (.ok k, cache) ∧
        k.settings.secretKey = plainSettings.secretKey := ⟨_, rfl, rfl, _, _, rfl, rfl⟩
  obtain ⟨known, spared⟩ := runs s₀ launched
  have isFrom : (plainVisit "/api/v1/dashboard/apps" "u-1" "o-1" false).IsFrom
      (s₀.run shortWeek).2.room k.settings (s₀.run shortWeek).2.now
        (Token.namedCaller "u-1" "" "o-1" false) := by
    rw [now]
    exact (isFrom_plainVisit _ "u-1" "o-1" false ⟨Json.isJoined_of_holdsHalf (by decide),
      Json.isJoined_of_holdsHalf (by decide)⟩ (by decide) (by decide)).of_secret secret
  have found := identify_of_isFrom kept isFrom
  have listed : ∃ report reply, report ∈ (s₀.run shortWeek).1 ∧ report.answer = .ok (.reply reply) :=
    ⟨_, _, List.mem_cons_of_mem _ (List.mem_singleton.2 rfl), rfl⟩
  obtain ⟨report, reply, listed, replied⟩ := listed
  refine ⟨⟨_, rfl, read 0 _ rfl⟩, s₀, launched, ⟨_, _, found, (known _ _ _ found).2.1⟩, report, reply,
    listed, replied, spared report listed reply replied⟩

end Service

end Runboard
