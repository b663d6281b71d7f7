import Mathlib.Algebra.Order.BigOperators.Group.List
import Runboard.Proofs.MetricDuality

/-!
# `Runboard.Proofs.WindowGrowth`: windows that grow

Windows are added and compared success by success and failure by failure. The week of a chart is the
window of today and those of the days that the week takes, and a longer week takes these and some
before them. So a longer week has no fewer successes and no fewer failures, as long as those of each
day are at least zero; and a week that has taken the whole history no longer grows.

Those of a day are at least zero where the part that is counted lies between zero and all runs. The
totals need no such thing. They are those of the counters whatever the counters are.

## Contents

* windows as an ordered monoid: `Window.le_def`;
* `foldl_add_eq`, `chart_eq_sum`: the week of a chart as a sum of windows;
* `sum_take_mono`, `sum_take_whole`: sums of the days of longer weeks, and of the whole history;
* `Metric.WellFormed`, `Metric.split_nonneg`: the counters of a period;
* `Snapshot.WellFormedOn`, `Snapshot.splits_nonneg`: the counters of a snapshot;
* `total_week_newest`: the total of a week;
* `windows_grow`: the windows of a chart, for weeks of any length.
-/

namespace Runboard

/-! ## Windows as an ordered monoid -/

namespace Window

instance : Zero Window := ⟨⟨0, 0⟩⟩

/-- Windows are compared success by success and failure by failure. -/
instance : LE Window := ⟨fun v w => v.success ≤ w.success ∧ v.failure ≤ w.failure⟩

theorem le_def {v w : Window} : v ≤ w ↔ v.success ≤ w.success ∧ v.failure ≤ w.failure := Iff.rfl

instance (v w : Window) : Decidable (v ≤ w) := inferInstanceAs (Decidable (_ ∧ _))

instance : AddCommMonoid Window where
  add_assoc u v w := congrArg₂ mk (Int.add_assoc _ _ _) (Int.add_assoc _ _ _)
  zero_add w := congrArg₂ mk (Int.zero_add _) (Int.zero_add _)
  add_zero w := congrArg₂ mk (Int.add_zero _) (Int.add_zero _)
  add_comm v w := congrArg₂ mk (Int.add_comm _ _) (Int.add_comm _ _)
  nsmul := nsmulRec

instance : PartialOrder Window where
  le_refl w := ⟨Int.le_refl _, Int.le_refl _⟩
  le_trans _ _ _ huv hvw := ⟨Int.le_trans huv.1 hvw.1, Int.le_trans huv.2 hvw.2⟩
  le_antisymm _ _ hvw hwv :=
    congrArg₂ mk (Int.le_antisymm hvw.1 hwv.1) (Int.le_antisymm hvw.2 hwv.2)

instance : IsOrderedAddMonoid Window where
  add_le_add_left _ _ hvw u :=
    ⟨Int.add_le_add_right hvw.1 u.success, Int.add_le_add_right hvw.2 u.failure⟩

end Window

/-! ## Weeks as sums -/

/-- Days added to a window one by one come to their sum. -/
theorem foldl_add_eq (days : List Window) (w : Window) :
    days.foldl (· + ·) w = w + days.sum := by
  induction days generalizing w with
  | nil => exact (add_zero w).symm
  | cons day days ih => rw [List.foldl_cons, ih, List.sum_cons, add_assoc]

/-- The week of a chart is today and the latest days, one fewer than the week has. -/
theorem chart_eq_sum (s : Snapshot) (m : Metric) {n : Int} (positive : 0 < n) :
    chart s m (.int n) = .ok
      { day := m.split s.today
        week := m.split s.today + ((s.splits m).reverse.take (n - 1).toNat).sum
        month := m.split s.month } := by
  rw [chart_eq_chartOfSplits, chartOfSplits, recentEntries_eq _ positive, Except.map, foldl_add_eq]

/-- More days come to no less, where none of them has less than zero. -/
theorem sum_take_mono {days : List Window} (nonneg : ∀ w ∈ days, 0 ≤ w) {k k' : Nat} (le : k ≤ k') :
    (days.take k).sum ≤ (days.take k').sum := by
  have shorter : (days.take k).Sublist (days.take k') := (List.take_prefix_take_left le).sublist
  exact shorter.sum_le_sum fun w taken => nonneg w (List.mem_of_mem_take taken)

/-- A week that is longer than the history takes it whole. -/
theorem sum_take_whole {days : List Window} {k : Nat} (long : days.length ≤ k) :
    (days.reverse.take k).sum = days.sum := by
  rw [List.take_of_length_le (by rwa [List.length_reverse])]
  exact (List.reverse_perm days).sum_eq

/-! ## Well-formed counters -/

namespace Metric

/-- The part of the runs that a metric counts lies between zero and all of them. -/
def WellFormed (m : Metric) (c : Counters) : Prop :=
  0 ≤ (m.counted c).2 ∧ (m.counted c).2 ≤ (m.counted c).1

instance (m : Metric) (c : Counters) : Decidable (m.WellFormed c) :=
  inferInstanceAs (Decidable (_ ∧ _))

/-- Successes and failures are at least zero. -/
theorem split_nonneg {m : Metric} {c : Counters} (wellFormed : m.WellFormed c) : 0 ≤ m.split c := by
  obtain ⟨nonneg, le⟩ := wellFormed
  rw [split_eq_tally, Window.le_def]
  cases m with
  | workflow => exact ⟨nonneg, Int.sub_nonneg_of_le le⟩
  | app => exact ⟨Int.sub_nonneg_of_le le, nonneg⟩

end Metric

namespace Snapshot

/-- The counters of a metric are well-formed today, in the month, and in every entry of the
history. -/
structure WellFormedOn (m : Metric) (s : Snapshot) : Prop where
  today : m.WellFormed s.today
  month : m.WellFormed s.month
  history : ∀ e ∈ s.history, m.WellFormed e.counters

theorem splits_nonneg {m : Metric} {s : Snapshot} (wellFormed : s.WellFormedOn m) :
    ∀ w ∈ (s.splits m).reverse, 0 ≤ w := by
  intro w mem
  obtain ⟨e, he, rfl⟩ := List.mem_map.1 (List.mem_reverse.1 mem)
  exact Metric.split_nonneg (wellFormed.history e he)

end Snapshot

/-! ## The windows of a chart -/

/-- The latest entries of a history are its last, from the end on. -/
theorem take_reverse_newest {α : Type} (history : List α) (k : Nat) :
    ∃ older newest, history = older ++ newest ∧ newest.length = min k history.length ∧
      history.reverse.take k = newest.reverse := by
  refine ⟨history.take (history.length - k), history.drop (history.length - k),
    (List.take_append_drop _ _).symm, ?_, List.take_reverse⟩
  rw [List.length_drop]
  omega

/-- The total of a week is that of today and those of the last entries of the history, as many as
the week has completed days. -/
theorem total_week_newest (s : Snapshot) (m : Metric) {n : Int} (positive : 0 < n) :
    ∃ c older newest, chart s m (.int n) = .ok c ∧ s.history = older ++ newest ∧
      newest.length = min (n - 1).toNat s.history.length ∧
      c.week.total = m.runs s.today + (newest.map fun e => m.runs e.counters).sum := by
  obtain ⟨c, made, total⟩ := total_week s m positive
  obtain ⟨older, newest, parts, length, taken⟩ := take_reverse_newest s.history (n - 1).toNat
  refine ⟨c, older, newest, made, parts, length, ?_⟩
  rw [total, taken, List.map_reverse, (List.reverse_perm _).sum_eq]

/-- The windows of a chart, for weeks of any length. The totals are those of the counters: of today,
of the month, and of today and the last entries of the history, as many as the week has completed
days or as there are. Weeks that are longer than the history are all the same, today and the whole
history. And where the counters are well-formed, the successes and failures of every window are at
least zero, those of the week are no fewer than those of the day, and those of a longer week no fewer
than those of the week. -/
theorem windows_grow (s : Snapshot) (m : Metric) {n : Int} (positive : 0 < n) :
    ∃ c, chart s m (.int n) = .ok c ∧
      c.day.total = m.runs s.today ∧ c.month.total = m.runs s.month ∧
      (∃ older newest, s.history = older ++ newest ∧
        newest.length = min (n - 1).toNat s.history.length ∧
        c.week.total = m.runs s.today + (newest.map fun e => m.runs e.counters).sum) ∧
      (s.history.length < n →
        c.week = m.split s.today + (s.history.map fun e => m.split e.counters).sum ∧
        ∀ n' : Int, s.history.length < n' →
          ∃ c', chart s m (.int n') = .ok c' ∧ c'.week = c.week) ∧
      (s.WellFormedOn m → 0 ≤ c.day ∧ 0 ≤ c.week ∧ 0 ≤ c.month ∧ c.day ≤ c.week ∧
        ∀ n' : Int, n ≤ n' → ∃ c', chart s m (.int n') = .ok c' ∧ c.week ≤ c'.week) := by
  have made := chart_eq_sum s m positive
  have whole : ∀ {n : Int}, s.history.length < n →
      ((s.splits m).reverse.take (n - 1).toNat).sum = (s.splits m).sum := by
    intro n long
    refine sum_take_whole ?_
    rw [Snapshot.splits, List.length_map]
    omega
  refine ⟨_, made, m.total_split s.today, m.total_split s.month, ?totals, ?whole, ?runs⟩
  case totals =>
    obtain ⟨c, older, newest, made', parts, length, total⟩ := total_week_newest s m positive
    obtain rfl := Except.ok.inj (made.symm.trans made')
    exact ⟨older, newest, parts, length, total⟩
  case whole =>
    intro long
    refine ⟨congrArg (m.split s.today + ·) (whole long), fun n' long' => ?_⟩
    refine ⟨_, chart_eq_sum s m (by omega), ?_⟩
    exact congrArg (m.split s.today + ·) ((whole long').trans (whole long).symm)
  case runs =>
    intro wellFormed
    have day := Metric.split_nonneg wellFormed.today
    have days := Snapshot.splits_nonneg wellFormed
    have sum_nonneg := sum_take_mono days (Nat.zero_le (n - 1).toNat)
    refine ⟨day, add_nonneg day sum_nonneg, Metric.split_nonneg wellFormed.month,
      le_add_of_nonneg_right sum_nonneg, fun n' longer => ?_⟩
    refine ⟨_, chart_eq_sum s m (by omega), ?_⟩
    exact add_le_add_right (sum_take_mono days (by omega)) (m.split s.today)

/-- Two completed days: a week of two days, and longer ones. -/
theorem windows_grow_twoDays : ∃ c, chart twoDays .app (.int 2) = .ok c ∧
    c.week.total = 6 ∧ c.day ≤ c.week ∧
    (∃ c', chart twoDays .app (.int 7) = .ok c' ∧ c.week ≤ c'.week) ∧
    ∃ c' c'', chart twoDays .app (.int 3) = .ok c' ∧ chart twoDays .app (.int 99) = .ok c'' ∧
      c''.week = c'.week := by
  obtain ⟨c, made, -, -, -, -, runs⟩ := windows_grow twoDays .app (n := 2) (by decide)
  obtain ⟨-, -, -, day, longer⟩ := runs ⟨by decide, by decide, by decide⟩
  obtain ⟨c', made', -, -, -, whole, -⟩ := windows_grow twoDays .app (n := 3) (by decide)
  obtain ⟨-, same⟩ := whole (by decide)
  obtain ⟨c'', made'', week⟩ := same 99 (by decide)
  refine ⟨c, made, ?_, day, longer 7 (by decide), c', c'', made', made'', week⟩
  obtain rfl := Except.ok.inj ((chart_eq_sum twoDays .app (by decide)).symm.trans made)
  decide

end Runboard
