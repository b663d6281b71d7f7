import Runboard.Service.Basic

/-!
# `Runboard.Proofs.PageAnswer`: how a page is answered

A request for a page goes through the caller, the access of the caller, and the reading of the page.
Who the caller is does not depend on the database; and a database whose tables can be seen is open
already, so that nothing happens to it. What remains is one result, which the answer tells.

## Contents

* `Page.path`, `Page.IsSegment`, `ofPath?_path`: where the pages are;
* `Request.Visits`, `Request.Shows`: requests for a page;
* `Service.replyTo`, `answer_of_shows`: the answer to a visit;
* `Service.requestContext`, `entries_of_shows`, `entries_of_shows_nothing`: what it leaves to be
  recorded;
* `Traced.result_bind`: the result of a sequence;
* `pageResult`, `visit_of_stop`, `outcome_visit`, `visit_of_known`: what a visit comes to;
* `database_answer`: what a request does to the database;
* `answer_congr`: services that differ in the database only.
-/

namespace Runboard

/-! ## Paths -/

/-- The path of a page. -/
def Page.path : Page → List Char
  | .workflows => (Endpoint.dashboardPath ++ "/workflows").toList
  | .apps => (Endpoint.dashboardPath ++ "/apps").toList
  | .apiUsage => (Endpoint.dashboardPath ++ "/api-usage").toList
  | .executions => (Endpoint.dashboardPath ++ "/workflow-executions").toList
  | .chart metric => Endpoint.chartPath.toList ++ metric.toList

/-- A page whose path can be written: the metric of a chart is one part of the path, and not
empty. -/
def Page.IsSegment : Page → Prop
  | .chart metric => metric ≠ "" ∧ '/' ∉ metric.toList
  | _ => True

namespace Endpoint

/-- No path of its own begins as those of charts do, with or without a line break. -/
theorem chartPath_not_fixed (debug : Bool) :
    ∀ e ∈ fixedPaths debug, ¬ chartPath.toList <+: e.1.toList ∧
      ¬ chartPath.toList <+: e.1.toList ++ ['\n'] := by
  cases debug <;> decide

theorem chartMetric?_append {metric : String} (h : metric ≠ "" ∧ '/' ∉ metric.toList) :
    chartMetric? (chartPath.toList ++ metric.toList) = some metric := by
  have lead : chartPath.toList.isPrefixOf (chartPath.toList ++ metric.toList) = true :=
    List.isPrefixOf_iff_prefix.2 (List.prefix_append _ _)
  have length : chartPath.length = chartPath.toList.length := rfl
  have part : (metric.toList.isEmpty || metric.toList.contains '/') = false := by
    simp only [Bool.or_eq_false_iff, List.isEmpty_eq_false_iff, List.contains_eq_mem,
      decide_eq_false_iff_not]
    exact ⟨fun empty => h.1 (String.toList_eq_nil_iff.1 empty), h.2⟩
  rw [chartMetric?, if_pos lead, length, List.drop_left]
  simp only [part, Bool.false_eq_true, ↓reduceIte, String.ofList_toList]

/-- Every page is found under its path. -/
theorem ofPath?_path (debug : Bool) {page : Page} (h : page.IsSegment) :
    ofPath? debug page.path = some (.page page) := by
  cases page with
  | chart metric =>
    have unfixed : ((fixedPaths debug).find? fun e => isPath e.1 (Page.path (.chart metric))) =
        none := by
      -- A fixed path is also found with a line break after it; neither begins as those of charts do.
      refine List.find?_eq_none.2 fun e he same => ?_
      obtain ⟨bare, broken⟩ := chartPath_not_fixed debug e he
      simp only [isPath, Bool.or_eq_true, beq_iff_eq] at same
      rcases same with same | same
      · exact bare (same ▸ List.prefix_append _ _)
      · exact broken (same ▸ List.prefix_append _ _)
    rw [ofPath?, unfixed]
    simp only [Page.path, chartMetric?_append h, Option.map_some]
  | workflows => cases debug <;> decide
  | apps => cases debug <;> decide
  | apiUsage => cases debug <;> decide
  | executions => cases debug <;> decide

end Endpoint

/-- A request that visits a page. -/
structure Request.Visits (r : Request) (page : Page) : Prop where
  method : r.method = "GET"
  path : r.path = page.path
  segment : page.IsSegment

/-- A request that is shown a page, whether by the path of the page or by another that leads
there. -/
def Request.Shows (r : Request) (debug : Bool) (page : Page) : Prop :=
  r.method = "GET" ∧ destinationOf debug r.path = .endpoint (.page page)

theorem Request.Visits.shows {r : Request} {page : Page} (h : r.Visits page) (debug : Bool) :
    r.Shows debug page :=
  ⟨h.method, by rw [destinationOf, h.path, Endpoint.ofPath?_path _ h.segment]⟩

/-! ## Visits -/

namespace Traced

variable {ε α β : Type}

/-- The result of a sequence is that of its second part, if the first has a value. -/
theorem result_bind (x : Traced ε α) (f : α → Traced ε β) :
    (x >>= f).result = match x.result with
      | .error e => .error e
      | .ok a => (f a).result := by
  cases h : x.result with
  | error e => rw [bind_of_error f h]
  | ok a => rw [bind_of_ok f h, after]

end Traced

/-- What a caller is told of a page of tables that can be seen, or why nothing. -/
def pageResult (settings : Settings) (v : TableView) (c : Caller) (page : Page) :
    Except Stop PageData :=
  match (checkAccess v c).result with
  | .error fault => .error (Stop.ofStore fault)
  | .ok () => (page.read settings v c.orgId).result

namespace Database

/-- A database whose tables can be seen is open. -/
theorem ready_of_view {d : Database} {t : Tables} (h : d.view.tables = .ok t)
    (cache : SettingsCache) : d.ready cache = (.ok [], d, cache) := by
  have open' : d.engine.isSome = true := by
    cases engine : d.engine with
    | some e => rfl
    | none =>
      simp only [view, reach, engine] at h
      cases h
  rw [ready, start]
  simp only [open', ↓reduceIte, ite_self]

end Database

namespace Service

variable {s : Service} {r : Request} {page : Page}

/-- The answer to a request with some outcome. -/
def replyTo (s : Service) (r : Request) (outcome : Except Escape Response) : Reply :=
  replyOf (s.requestId r).1 (outcome.bind (sent (originHeaders s.facade.origins r)))

/-- A visit that ends before the caller is known touches no database. -/
theorem visit_of_stop {stop : Stop} (stopped : (identify s.room s.cache s.now r).1.result = .error stop)
    (context : LogContext) (page : Page) :
    (s.visit context r page).outcome = stop.outcome ∧
      (s.visit context r page).database = s.database := by
  unfold visit
  split
  · next heq =>
    rw [heq] at stopped
    cases stopped
    exact ⟨rfl, rfl⟩
  · next heq =>
    rw [heq] at stopped
    cases stopped

/-- The result of a page is read after access to it is given, from the database as it is opened. -/
theorem result_readPage {d d' : Database} {cache cache' : SettingsCache} {events : List Event}
    (ready : d.ready cache = (.ok events, d', cache')) (settings : Settings) (c : Caller)
    (page : Page) :
    (readPage settings c page d cache).1.result = pageResult settings d'.view c page := by
  unfold readPage pageResult
  simp only [ready]
  dsimp only [Traced.after]
  refine (Traced.result_bind _ _).trans ?_
  cases (checkAccess d'.view c).result <;> rfl

/-- A visit of a known caller comes to what is read of the page. -/
theorem outcome_visit {settings : Settings} {c : Caller}
    (known : (identify s.room s.cache s.now r).1.result = .ok (settings, c)) (context : LogContext)
    (page : Page) :
    (s.visit context r page).outcome = pageOutcome
      (readPage settings c page s.database (identify s.room s.cache s.now r).2).1.result := by
  unfold visit
  split
  · next heq =>
    rw [heq] at known
    cases known
  · next heq =>
    rw [heq] at known ⊢
    cases known
    rfl

/-- A visit of a known caller to tables that can be seen comes to what the page says. -/
theorem visit_of_known {settings : Settings} {c : Caller} {t : Tables}
    (known : (identify s.room s.cache s.now r).1.result = .ok (settings, c))
    (seen : s.database.view.tables = .ok t) (context : LogContext) (page : Page) :
    (s.visit context r page).outcome =
      pageOutcome (pageResult settings s.database.view c page) := by
  rw [outcome_visit known, result_readPage (Database.ready_of_view seen _)]

/-- What comes of a request that is no preflight comes of where it leads. -/
theorem outcome_handle (direct : r.preflight? = none) (context : LogContext) :
    (s.handle context r).outcome =
      (s.dispatch context r).outcome.bind (sent (originHeaders s.facade.origins r)) := by
  unfold handle
  rw [direct]

theorem entries_handle (direct : r.preflight? = none) (context : LogContext) :
    (s.handle context r).entries = (s.dispatch context r).entries := by
  unfold handle
  rw [direct]

/-- The context in which a request is handled. -/
def requestContext (s : Service) (r : Request) : LogContext :=
  s.context.set { request := some (.str (s.requestId r).1) }

/-- A request that is shown a page is no preflight. -/
theorem direct_of_shows {debug : Bool} (shows : r.Shows debug page) : r.preflight? = none := by
  unfold Request.preflight?
  rw [shows.1]
  rfl

theorem dispatch_of_shows (shows : r.Shows s.facade.debug page) (context : LogContext) :
    s.dispatch context r = s.visit context r page := by
  have taken : (Endpoint.page page).methods.contains r.method = true := by
    rw [shows.1]
    rfl
  rw [dispatch, shows.2]
  simp only [taken, ↓reduceIte, serve]

/-- What is recorded of a request that is shown a page is what the visit leaves. -/
theorem entries_of_shows (shows : r.Shows s.facade.debug page) :
    (s.answer r).2.1 = (s.visit (s.requestContext r) r page).entries := by
  rw [← dispatch_of_shows shows]
  exact entries_handle (direct_of_shows shows) _

/-- The answer to a request that is shown a page tells what the visit comes to, and what is recorded
is what the visit leaves. -/
theorem answer_of_shows (shows : r.Shows s.facade.debug page) :
    ∃ context, (s.answer r).1 = s.replyTo r (s.visit context r page).outcome ∧
      (s.answer r).2.1 = (s.visit context r page).entries := by
  refine ⟨s.requestContext r, congrArg (replyOf (s.requestId r).1) ?_, entries_of_shows shows⟩
  rw [← dispatch_of_shows shows]
  exact outcome_handle (direct_of_shows shows) _

/-- A request that is shown no page leaves nothing to be recorded. -/
theorem entries_of_shows_nothing (hidden : ∀ page, ¬ r.Shows s.facade.debug page) :
    (s.answer r).2.1 = [] := by
  show (s.handle _ r).entries = []
  unfold handle
  split
  · rfl
  · show (s.dispatch _ r).entries = []
    unfold dispatch
    split
    · rfl
    · rfl
    · next e found =>
      split
      · next taken =>
        cases e with
        | page page =>
          have method : r.method = "GET" := by simpa [Endpoint.methods] using taken
          exact absurd ⟨method, found⟩ (hidden page)
        | _ => rfl
      · rfl

theorem answer_of_visits (visits : r.Visits page) :
    ∃ context, (s.answer r).1 = s.replyTo r (s.visit context r page).outcome := by
  obtain ⟨context, answered, -⟩ := answer_of_shows (visits.shows s.facade.debug)
  exact ⟨context, answered⟩

/-- The answer to a visit that ends before the caller is known. -/
theorem answer_of_stop (visits : r.Visits page) {stop : Stop}
    (stopped : (identify s.room s.cache s.now r).1.result = .error stop) :
    (s.answer r).1 = s.replyTo r stop.outcome := by
  obtain ⟨context, answered⟩ := answer_of_visits (s := s) visits
  rw [answered, (visit_of_stop stopped context page).1]

/-- The answer to a visit of a known caller to tables that can be seen. -/
theorem answer_of_known (visits : r.Visits page) {settings : Settings} {c : Caller} {t : Tables}
    (known : (identify s.room s.cache s.now r).1.result = .ok (settings, c))
    (seen : s.database.view.tables = .ok t) :
    (s.answer r).1 =
      s.replyTo r (pageOutcome (pageResult settings s.database.view c page)) := by
  obtain ⟨context, answered⟩ := answer_of_visits (s := s) visits
  rw [answered, visit_of_known known seen]

/-- What a request does to the database, it does by a visit. -/
theorem database_answer (s : Service) (r : Request) :
    (s.answer r).2.2.database = s.database ∨
      ∃ context page, (s.answer r).2.2.database = (s.visit context r page).database := by
  show (s.handle _ r).database = s.database ∨
    ∃ context page, (s.handle _ r).database = (s.visit context r page).database
  unfold handle
  split
  · exact .inl rfl
  · show (s.dispatch _ r).database = s.database ∨
      ∃ context page, (s.dispatch _ r).database = (s.visit context r page).database
    unfold dispatch
    split
    · exact .inl rfl
    · exact .inl rfl
    · next e _ =>
      split
      · cases e with
        | page page => exact .inr ⟨_, page, rfl⟩
        | _ => exact .inl rfl
      · exact .inl rfl

/-! ## Services with another database -/

/-- A service with another database. -/
def withDatabase (s : Service) (d : Database) : Service := { s with database := d }

section WithDatabase
variable {d d' : Database}

/-- Where no page is visited, the database says nothing about what comes of a request. -/
theorem outcome_dispatch_congr (context : LogContext)
    (visits : ∀ page, r.Shows s.facade.debug page → ((s.withDatabase d).visit context r page).outcome =
      ((s.withDatabase d').visit context r page).outcome) :
    ((s.withDatabase d).dispatch context r).outcome =
      ((s.withDatabase d').dispatch context r).outcome := by
  have facades : ∀ d, (s.withDatabase d).facade = s.facade := fun _ => rfl
  unfold dispatch
  simp only [facades]
  split
  · rfl
  · rfl
  · next e found =>
    split
    · next taken =>
      cases e with
      | page page =>
        have method : r.method = "GET" := by simpa [Endpoint.methods] using taken
        exact visits page ⟨method, found⟩
      | _ => rfl
    · rfl

/-- Two databases give one answer if the visits to the page that is shown come to the same. -/
theorem answer_congr
    (visits : ∀ context page, r.Shows s.facade.debug page →
      ((s.withDatabase d).visit context r page).outcome =
        ((s.withDatabase d').visit context r page).outcome) :
    ((s.withDatabase d).answer r).1 = ((s.withDatabase d').answer r).1 := by
  refine congrArg (replyOf (s.requestId r).1) ?_
  cases direct : r.preflight? with
  | some p =>
    unfold handle
    rw [direct]
    rfl
  | none =>
    rw [outcome_handle direct, outcome_handle direct, outcome_dispatch_congr _ (visits _)]
    rfl

end WithDatabase

end Service

end Runboard
