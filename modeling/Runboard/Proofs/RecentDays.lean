import Mathlib.Algebra.Ring.Int.Defs
import Mathlib.Data.List.Nodup
import Runboard.Stats.Amount
import Runboard.Stats.History

/-!
# `Runboard.Proofs.RecentDays`: what a window takes of a history

A walk reads a history from its end and stops after the entries of its window. So the entries of a
window are the first of the reversed history. Over a history in which every day stands once, the
order of the days is the only one there is: it does not depend on the order in which the entries
came, and the window takes the latest days.

## Contents

* `Walk.pull_under`, `Walk.pull_fresh`, `recentEntries_eq`, `recentEntries_of_refused`: the entries of
  a walk;
* `pairwise_mergeSort_key`, `filter_mergeSort_key`: lists that are sorted by a key;
* `inDayOrder`, `inDayOrder_congr`: the order of the days does not depend on how they came;
* `inDayOrder_strict`, `reverse_inDayOrder_strict`: the days ascend strictly, and descend strictly from
  the latest on;
* `latest`, `earlier`, `earlier_lt_latest`: the latest days and the others;
* `Metric.tally`, `chart_eq`: successes and failures of a chart, summed over a window;
* `dailySeries_eq`: the runs of the days of a window.
-/

namespace Runboard

/-! ## Walks -/

namespace Walk

variable {α : Type}

/-- Past its limit a walk takes nothing. -/
theorem take?_end (history : List α) (i : Nat) : take? history (i + 1) i = none := by
  rw [take?, if_neg (by omega)]

/-- Within its limit a walk takes the entry as many places into the reversed history. -/
theorem take?_next (history : List α) {i limit : Nat} (within : i < limit)
    (inside : i < history.reverse.length) :
    take? history (i + 1) limit = some (history.reverse[i], .under history (i + 2) limit) := by
  have short : i < history.length := by simpa using inside
  have place : history.length - (i + 1) = history.length - 1 - i := by omega
  have entry : history[history.length - (i + 1)]? = some history.reverse[i] := by
    rw [place, ← List.getElem?_reverse short, List.getElem?_eq_getElem inside]
  rw [take?, if_pos (by omega), entry]
  rfl

/-- A walk under way yields what is left of its window of the reversed history, as far as it is
pulled. -/
theorem pull_under (history : List α) (count : Nat) {i k : Nat} (fits : i + k ≤ history.length) :
    (under history (i + 1) (i + k)).pull count =
      .ok (((history.reverse.drop i).take k).take count) := by
  induction count generalizing i k with
  | zero => rfl
  | succ count ih =>
    cases k with
    | zero =>
      have ended : (under history (i + 1) (i + 0)).next = .ok none :=
        congrArg Except.ok (take?_end history i)
      rw [pull, ended]
      rfl
    | succ k =>
      have inside : i < history.reverse.length := by
        rw [List.length_reverse]
        omega
      have rest : (under history (i + 2) (i + (k + 1))).pull count =
          .ok (((history.reverse.drop (i + 1)).take k).take count) := by
        rw [show i + (k + 1) = i + 1 + k by omega]
        exact ih (by omega)
      rw [pull, next, take?_next history (by omega) inside]
      simp only [rest]
      rw [List.drop_eq_getElem_cons inside, List.take_succ_cons, List.take_succ_cons]

/-- What a walk reaches of a history are the latest entries within its window. -/
theorem take_reach (history : List α) (n : Int) :
    history.reverse.take (reach history.length n) = history.reverse.take (n - 1).toNat := by
  rw [reach, Nat.min_comm, ← List.length_reverse, ← List.take_eq_take_min]

/-- A walk from its beginning yields the latest entries within its window, as far as it is pulled. -/
theorem pull_fresh (history : List α) {n : Int} (positive : 0 < n) (count : Nat) :
    (fresh history (.int n)).pull count =
      .ok ((history.reverse.take (n - 1).toNat).take count) := by
  have fits : 0 + reach history.length n ≤ history.length := by
    rw [Nat.zero_add]
    exact Nat.min_le_left _ _
  have begun := pull_under history count fits
  rw [Nat.zero_add, Nat.zero_add, List.drop_zero, take_reach] at begun
  rw [← begun]
  -- The first step only fixes how far the walk goes.
  cases count with
  | zero => rfl
  | succ count => rw [pull, pull, next, next, checkWindow_int positive]

end Walk

/-- The entries of a window of some days are the latest of the history, one fewer than the days,
since today is none of them. -/
theorem recentEntries_eq {α : Type} (history : List α) {n : Int} (h : 0 < n) :
    recentEntries history (.int n) = .ok (history.reverse.take (n - 1).toNat) := by
  have whole : (history.reverse.take (n - 1).toNat).length ≤ history.length + 1 := by
    rw [List.length_take, List.length_reverse]
    omega
  rw [recentEntries, Walk.pull_fresh history h, List.take_of_length_le whole]

/-- What is no length of a window is refused whatever the history is. -/
theorem recentEntries_of_refused {α : Type} (history : List α) {window : Json} {e : WindowError}
    (refused : checkWindow window = .error e) : recentEntries history window = .error e := by
  rw [recentEntries, Walk.pull, Walk.next, refused]

/-! ## The order of a key -/

section ByKey
variable {α κ : Type} [LE κ] [DecidableLE κ] [Std.IsLinearPreorder κ] (key : α → κ)

theorem byKey_trans (a b c : α) (hab : decide (key a ≤ key b) = true)
    (hbc : decide (key b ≤ key c) = true) : decide (key a ≤ key c) = true :=
  decide_eq_true
    (Std.IsPreorder.le_trans _ _ _ (of_decide_eq_true hab) (of_decide_eq_true hbc))

theorem byKey_total (a b : α) : (decide (key a ≤ key b) || decide (key b ≤ key a)) = true := by
  rw [Bool.or_eq_true, decide_eq_true_eq, decide_eq_true_eq]
  exact Std.IsLinearPreorder.le_total (key a) (key b)

/-- A list that is sorted by a key is in its order. -/
theorem pairwise_mergeSort_key (things : List α) :
    (things.mergeSort fun a b => decide (key a ≤ key b)).Pairwise fun a b => key a ≤ key b :=
  (List.pairwise_mergeSort (byKey_trans key) (byKey_total key) things).imp of_decide_eq_true

/-- The things of one key stay as they stood. -/
theorem filter_mergeSort_key [DecidableEq κ] (things : List α) (k : κ) :
    (things.mergeSort fun a b => decide (key a ≤ key b)).filter (key · = k) =
      things.filter (key · = k) := by
  -- A part of the list in which nothing descends is also a part of the sorted list.
  have level : (things.filter (key · = k)).Pairwise fun a b => decide (key a ≤ key b) = true := by
    apply List.pairwise_of_forall_mem_list
    intro a ha b hb
    have hka : key a = k := of_decide_eq_true (List.mem_filter.1 ha).2
    have hkb : key b = k := of_decide_eq_true (List.mem_filter.1 hb).2
    rw [hka, hkb]
    exact decide_eq_true (Std.IsPreorder.le_refl k)
  have part := List.sublist_mergeSort (byKey_trans key) (byKey_total key) level List.filter_sublist
  have within := part.filter (key · = k)
  rw [List.filter_filter] at within
  simp only [Bool.and_self] at within
  -- It is as long as what the sorted list has of the key, so it is all of that.
  have sorted := List.mergeSort_perm things fun a b => decide (key a ≤ key b)
  exact (within.eq_of_length (sorted.filter (key · = k)).length_eq.symm).symm

end ByKey

/-! ## The order of the days -/

section ByDay
variable {α β : Type} {day : α → Day}

/-- Things in the order of their days. -/
def inDayOrder (day : α → Day) (things : List α) : List α :=
  things.mergeSort fun a b => decide (day a ≤ day b)

/-- A history is put in the order of the days of its entries. -/
theorem History.byDay_eq (entries : List (DayEntry α)) :
    History.byDay entries = inDayOrder History.sortDay entries := rfl

theorem inDayOrder_perm (day : α → Day) (things : List α) : (inDayOrder day things).Perm things :=
  List.mergeSort_perm things _

theorem inDayOrder_sorted (day : α → Day) (things : List α) :
    (inDayOrder day things).Pairwise fun a b => day a ≤ day b :=
  pairwise_mergeSort_key day things

theorem map_inDayOrder {f : α → β} {day' : β → Day} (h : ∀ a, day' (f a) = day a)
    (things : List α) : (inDayOrder day things).map f = inDayOrder day' (things.map f) :=
  List.map_mergeSort fun a _ b _ => by rw [h, h]

/-- Where every day stands once, the order of the days is the only one there is. -/
theorem inDayOrder_congr {things others : List α} (same : things.Perm others)
    (once : (things.map day).Nodup) : inDayOrder day things = inDayOrder day others := by
  have reordered : (inDayOrder day things).Perm (inDayOrder day others) :=
    (inDayOrder_perm day things).trans (same.trans (inDayOrder_perm day others).symm)
  refine List.Perm.eq_of_pairwise ?_ (inDayOrder_sorted day things) (inDayOrder_sorted day others)
    reordered
  intro a b ha hb hab hba
  exact List.inj_on_of_nodup_map once ((inDayOrder_perm day things).mem_iff.1 ha)
    (same.mem_iff.2 ((inDayOrder_perm day others).mem_iff.1 hb)) (Day.le_antisymm hab hba)

/-- The things of the latest days. -/
def latest (day : α → Day) (k : Nat) (things : List α) : List α :=
  (inDayOrder day things).reverse.take k

/-- The things of all days before the latest. -/
def earlier (day : α → Day) (k : Nat) (things : List α) : List α :=
  (inDayOrder day things).reverse.drop k

theorem latest_append_earlier (day : α → Day) (k : Nat) (things : List α) :
    (latest day k things ++ earlier day k things).Perm things := by
  rw [latest, earlier, List.take_append_drop]
  exact (List.reverse_perm _).trans (inDayOrder_perm day things)

theorem length_latest (day : α → Day) (k : Nat) (things : List α) :
    (latest day k things).length = min k things.length := by
  rw [latest, List.length_take, List.length_reverse, (inDayOrder_perm day things).length_eq]

/-- Where every day stands once, the days ascend strictly. -/
theorem inDayOrder_strict {things : List α} (once : (things.map day).Nodup) :
    (inDayOrder day things).Pairwise fun a b => day a < day b := by
  have distinct : (inDayOrder day things).Pairwise fun a b => day a ≠ day b := by
    have reordered := (inDayOrder_perm day things).map day
    exact List.pairwise_map.1 (reordered.nodup_iff.2 once)
  exact (inDayOrder_sorted day things).imp₂ (fun _ _ => Day.lt_of_le_of_ne) distinct

/-- Where every day stands once, the days descend strictly from the latest on. -/
theorem reverse_inDayOrder_strict {things : List α} (once : (things.map day).Nodup) :
    (inDayOrder day things).reverse.Pairwise fun a b => day b < day a :=
  List.pairwise_reverse.2 (inDayOrder_strict once)

/-- The latest days are later than all others. -/
theorem earlier_lt_latest {things : List α} (once : (things.map day).Nodup) (k : Nat) :
    ∀ a ∈ latest day k things, ∀ b ∈ earlier day k things, day b < day a := by
  have descending := reverse_inDayOrder_strict once
  rw [← List.take_append_drop k (inDayOrder day things).reverse] at descending
  exact (List.pairwise_append.1 descending).2.2

end ByDay

/-! ## Charts and series over a window -/

/-- The successes and failures among some runs, each from what is counted: finished workflow runs
succeeded and the others failed, failed app runs failed and the others succeeded. -/
def Metric.tally : Metric → Counters → Window
  | .workflow, c => ⟨c.workflowFinished, c.workflowRuns - c.workflowFinished⟩
  | .app, c => ⟨c.appRuns - c.appFailed, c.appFailed⟩

theorem Metric.split_eq_tally (m : Metric) (c : Counters) : m.split c = m.tally c := by
  cases m with
  | workflow => rfl
  | app =>
    simp only [Metric.split, Metric.tally, Window.mk.injEq, true_and]
    omega

/-- The runs of several periods after those of another, kind by kind. -/
theorem foldl_tally (m : Metric) (entries : List DayEntry) (w : Window) :
    entries.foldl (fun w entry => w + m.tally entry.counters) w =
      ⟨w.success + (entries.map fun e => (m.tally e.counters).success).sum,
        w.failure + (entries.map fun e => (m.tally e.counters).failure).sum⟩ := by
  induction entries generalizing w with
  | nil => simp
  | cons e entries ih =>
    rw [List.foldl_cons, ih]
    simp only [Window.success_add, Window.failure_add, List.map_cons, List.sum_cons, Int.add_assoc]

/-- A chart adds to the day the runs of the entries in its week, and takes the month as it is. -/
theorem chart_eq (s : Snapshot) (m : Metric) {n : Int} (h : 0 < n) :
    chart s m (.int n) = .ok {
      day := m.tally s.today
      week :=
        ⟨(m.tally s.today).success + ((s.history.reverse.take (n - 1).toNat).map
            fun e => (m.tally e.counters).success).sum,
          (m.tally s.today).failure + ((s.history.reverse.take (n - 1).toNat).map
            fun e => (m.tally e.counters).failure).sum⟩
      month := m.tally s.month } := by
  rw [chart, recentEntries_eq s.history h]
  simp only [Metric.split_eq_tally, foldl_tally]

/-- A series has the runs of today, and then those of the entries in its window. -/
theorem dailySeries_eq (s : Snapshot) {n : Int} (h : 0 < n) :
    dailySeries s (.int n) = .ok (s.today.workflowRuns ::
      (s.history.reverse.take (n - 1).toNat).map (·.counters.workflowRuns)) := by
  rw [dailySeries, checkWindow_int h, recentEntries_eq s.history h]

end Runboard
