import Runboard.Proofs.RecentDays

/-!
# `Runboard.Proofs.HistoryWalk`: a walk over a history, step by step

A walk is made one step at a time, and may be left at any point. What it has yielded by then is a
beginning of its window of the reversed history, and the place that it reads next lies inside the
history: after `k` entries it is the one `k + 1` places from the end, and there is such a place as
long as the window is not used up. The invariant of a walk is therefore where it stands.

The length of the window is looked at in the first step. So a walk with no length refuses its first
step, before it has yielded anything, and a walk that makes no step refuses nothing.

## Contents

* `Walk.place?`, `take?_eq_place`: the place that the next step reads;
* `Walk.Yields`, `yields_of_pull`: the points of a walk;
* `Walk.Stands`, `Stands.reads`, `Stands.inside`, `Stands.ended_iff`, `Stands.after`: where a walk
  stands;
* `checkWindow_of_refused`: what is refused, and how;
* `history_walked`: the whole.
-/

namespace Runboard

namespace Walk

variable {α : Type} {history : List α} {n : Int} {k : Nat} {w w' : Walk α} {entries : List α}

/-! ## Places -/

/-- The place `offset` places from the end, as long as the offset does not exceed the limit. It is an
integer, so that a place before the beginning would be told from the first. -/
def placeOf (size offset limit : Nat) : Option Int :=
  if offset ≤ limit then some ((size : Int) - offset) else none

/-- The place that the next step of a walk reads. -/
def place? : Walk α → Option Int
  | .fresh history window =>
    match checkWindow window with
    | .error _ => none
    | .ok n => placeOf history.length 1 (reach history.length n)
  | .under history offset limit => placeOf history.length offset limit

/-- What a walk takes is what stands in its place. -/
theorem take?_eq_place (history : List α) (offset limit : Nat) :
    take? history offset limit =
      ((placeOf history.length offset limit).bind fun place => history[place.toNat]?).map
        (·, .under history (offset + 1) limit) := by
  unfold take? placeOf
  by_cases within : offset ≤ limit
  · have place : ((history.length : Int) - offset).toNat = history.length - offset := by omega
    rw [if_pos within, if_pos within, Option.bind_some, place]
  · rw [if_neg within, if_neg within, Option.bind_none, Option.map_none]

/-! ## Points of a walk -/

/-- A walk yields some entries, one after another, and is then at the point of another. -/
inductive Yields : Walk α → List α → Walk α → Prop where
  | none (w : Walk α) : Yields w [] w
  | next {w rest w' : Walk α} {entry : α} {entries : List α} :
      w.next = .ok (some (entry, rest)) → Yields rest entries w' → Yields w (entry :: entries) w'

/-- What is pulled is yielded. -/
theorem yields_of_pull {count : Nat} (pulled : w.pull count = .ok entries) :
    ∃ w', w.Yields entries w' := by
  induction count generalizing w entries with
  | zero =>
    obtain rfl := Except.ok.inj pulled
    exact ⟨w, .none w⟩
  | succ count ih =>
    rw [pull] at pulled
    split at pulled
    · cases pulled
    · obtain rfl := Except.ok.inj pulled
      exact ⟨w, .none w⟩
    · next entry rest moved =>
      split at pulled
      · cases pulled
      · next others later =>
        obtain rfl := Except.ok.inj pulled
        obtain ⟨w', walked⟩ := ih later
        exact ⟨w', .next moved walked⟩

/-! ## Where a walk stands -/

/-- A walk of a window of `n` days that has yielded `k` entries. -/
inductive Stands (history : List α) (n : Int) : Nat → Walk α → Prop where
  | begun : Stands history n 0 (.fresh history (.int n))
  | under {k : Nat} : k ≤ reach history.length n →
      Stands history n k (.under history (k + 1) (reach history.length n))

theorem Stands.le_reach (h : Stands history n k w) : k ≤ reach history.length n := by
  cases h with
  | begun => exact Nat.zero_le _
  | under within => exact within

/-- Whether or not a walk has begun, its next step depends only on how much it has yielded. -/
theorem Stands.next_eq (h : Stands history n k w) (positive : 0 < n) :
    w.next = .ok (take? history (k + 1) (reach history.length n)) ∧
      w.place? = placeOf history.length (k + 1) (reach history.length n) := by
  cases h with
  | begun =>
    rw [next, place?, checkWindow_int positive]
    exact ⟨rfl, rfl⟩
  | under within => exact ⟨rfl, rfl⟩

/-- The next step of a walk yields what stands in its place. -/
theorem Stands.reads (h : Stands history n k w) (positive : 0 < n) :
    ∃ rest, w.next = .ok ((w.place?.bind fun place => history[place.toNat]?).map (·, rest)) := by
  obtain ⟨taken, place⟩ := h.next_eq positive
  rw [taken, place, take?_eq_place]
  exact ⟨_, rfl⟩

/-- The place that a walk reads lies inside the history. -/
theorem Stands.inside (h : Stands history n k w) (positive : 0 < n) {place : Int}
    (reading : w.place? = some place) : 0 ≤ place ∧ place < history.length := by
  have reach_le : reach history.length n ≤ history.length := Nat.min_le_left _ _
  rw [(h.next_eq positive).2, placeOf] at reading
  split at reading
  · obtain rfl := Option.some.inj reading
    omega
  · cases reading

/-- A walk that has not used up its window goes on. -/
theorem Stands.moves (h : Stands history n k w) (positive : 0 < n)
    (within : k < reach history.length n) :
    ∃ (inside : k < history.reverse.length) (rest : Walk α),
      w.next = .ok (some (history.reverse[k], rest)) ∧ Stands history n (k + 1) rest := by
  have inside : k < history.reverse.length := by
    rw [List.length_reverse]
    exact Nat.lt_of_lt_of_le within (Nat.min_le_left _ _)
  have taken := (h.next_eq positive).1
  rw [take?_next history within inside] at taken
  exact ⟨inside, _, taken, .under within⟩

/-- A walk ends where it has used up its window. -/
theorem Stands.ended_iff (h : Stands history n k w) (positive : 0 < n) :
    w.next = .ok none ↔ k = reach history.length n := by
  constructor
  · intro ended
    by_contra early
    obtain ⟨_, rest, moved, -⟩ := h.moves positive (Nat.lt_of_le_of_ne h.le_reach early)
    rw [ended] at moved
    cases moved
  · rintro rfl
    rw [(h.next_eq positive).1, take?_end]

/-- A step leads from one stand to the next. -/
theorem Stands.step {rest : Walk α} {entry : α} (h : Stands history n k w) (positive : 0 < n)
    (moved : w.next = .ok (some (entry, rest))) :
    Stands history n (k + 1) rest ∧
      (history.reverse.take (n - 1).toNat).drop k =
        entry :: (history.reverse.take (n - 1).toNat).drop (k + 1) := by
  have within : k < reach history.length n := by
    refine Nat.lt_of_le_of_ne h.le_reach fun used => ?_
    rw [(h.ended_iff positive).2 used] at moved
    cases moved
  obtain ⟨inside, rest', moved', stands⟩ := h.moves positive within
  rw [moved'] at moved
  obtain ⟨rfl, rfl⟩ := Prod.mk.inj (Option.some.inj (Except.ok.inj moved))
  refine ⟨stands, ?_⟩
  have reached : k < (history.reverse.take (reach history.length n)).length := by
    rw [List.length_take]
    omega
  rw [← take_reach, List.drop_eq_getElem_cons reached, List.getElem_take]

/-- Wherever a walk has come to, it has yielded the entries of its window up to there. -/
theorem Stands.after (h : Stands history n k w) (positive : 0 < n) (walked : w.Yields entries w') :
    Stands history n (k + entries.length) w' ∧
      entries = ((history.reverse.take (n - 1).toNat).drop k).take entries.length := by
  induction walked generalizing k with
  | none w => exact ⟨h, rfl⟩
  | @next w rest w' entry entries moved _ ih =>
    obtain ⟨stands, window⟩ := h.step positive moved
    obtain ⟨later, others⟩ := ih stands
    rw [List.length_cons, window, List.take_succ_cons, ← others]
    exact ⟨by rwa [Nat.add_assoc, Nat.add_comm 1] at later, rfl⟩

end Walk

/-! ## Refused windows -/

/-- What is no positive integer is no length of a window: another integer is told as it is, and
anything else by its kind. -/
theorem checkWindow_of_refused {window : Json} (unfit : ∀ n : Int, 0 < n → window ≠ .int n) :
    ∃ e, checkWindow window = .error e ∧
      ((∃ m ≤ 0, window = .int m ∧ e = .notPositive m) ∨
        (∀ m, window ≠ .int m) ∧ e = .notInteger window.kind) := by
  cases window with
  | int m =>
    have low : m ≤ 0 := Int.not_lt.1 fun positive => unfit m positive rfl
    exact ⟨.notPositive m, if_pos low, .inl ⟨m, low, rfl, rfl⟩⟩
  | null => exact ⟨_, rfl, .inr ⟨nofun, rfl⟩⟩
  | bool b => exact ⟨_, rfl, .inr ⟨nofun, rfl⟩⟩
  | float x => exact ⟨_, rfl, .inr ⟨nofun, rfl⟩⟩
  | str s => exact ⟨_, rfl, .inr ⟨nofun, rfl⟩⟩
  | arr items => exact ⟨_, rfl, .inr ⟨nofun, rfl⟩⟩
  | obj fields => exact ⟨_, rfl, .inr ⟨nofun, rfl⟩⟩

/-! ## The whole -/

/-- A walk over a history is a walk over the reversed history, cut to one entry fewer than the window
has days. As far as it is pulled, it yields the beginning of that. At every point its next step yields
what stands in one place, which lies inside the history, and it ends where it has yielded as many
entries as the history and the window allow. The window of a walk begins the window of every longer
one. A walk whose window is no positive integer refuses its first step, and one that makes no step
refuses nothing. -/
theorem history_walked {α : Type} (history : List α) :
    (∀ n : Int, 0 < n →
      let begun : Walk α := .fresh history (.int n)
      let window := history.reverse.take (n - 1).toNat
      (∀ count, begun.pull count = .ok (window.take count) ∧
        ∃ w, begun.Yields (window.take count) w) ∧
      (∀ entries w, begun.Yields entries w →
        entries = window.take entries.length ∧
        (∃ rest, w.next = .ok ((w.place?.bind fun place => history[place.toNat]?).map (·, rest))) ∧
        (∀ place, w.place? = some place → 0 ≤ place ∧ place < history.length) ∧
        (w.next = .ok none ↔ (entries.length : Int) = min (history.length : Int) (n - 1))) ∧
      recentEntries history (.int n) = .ok window ∧
      (window.length : Int) = min (history.length : Int) (n - 1) ∧
      ∀ m : Int, n ≤ m → window <+: history.reverse.take (m - 1).toNat) ∧
    (∀ window : Json, (∀ n : Int, 0 < n → window ≠ .int n) →
      ∃ e : WindowError, (Walk.fresh history window).next = .error e ∧
        (∀ count, (Walk.fresh history window).pull (count + 1) = .error e) ∧
        ((∃ m ≤ 0, window = .int m ∧ e = .notPositive m) ∨
          (∀ m, window ≠ .int m) ∧ e = .notInteger window.kind)) ∧
    ∀ window : Json, (Walk.fresh history window).pull 0 = .ok [] := by
  refine ⟨?fit, ?unfit, fun _ => rfl⟩
  case fit =>
    intro n positive begun window
    have reach : (Walk.reach history.length n : Int) = min (history.length : Int) (n - 1) := by
      rw [Walk.reach]
      omega
    refine ⟨?pulled, ?points, recentEntries_eq history positive, ?whole, ?longer⟩
    case pulled =>
      intro count
      have pulled := Walk.pull_fresh history positive count
      exact ⟨pulled, Walk.yields_of_pull pulled⟩
    case points =>
      intro entries w walked
      obtain ⟨stands, yielded⟩ := Walk.Stands.begun.after positive walked
      rw [Nat.zero_add] at stands
      refine ⟨yielded, stands.reads positive, fun _ => stands.inside positive, ?_⟩
      rw [stands.ended_iff positive, ← reach, Int.natCast_inj]
    case whole =>
      rw [List.length_take, List.length_reverse]
      omega
    case longer =>
      intro m longer
      exact List.take_prefix_take_left (by omega)
  case unfit =>
    intro window unfit
    obtain ⟨e, refused, named⟩ := checkWindow_of_refused unfit
    have first : (Walk.fresh history window).next = .error e := by
      rw [Walk.next, refused]
    refine ⟨e, first, ?_, named⟩
    intro count
    rw [Walk.pull, first]

/-- Of three days a window of three takes the last two, whether it is pulled once or often; a window
that is `true` is refused by its kind. -/
theorem history_walked_threeDays :
    (Walk.fresh ["a", "b", "c"] (.int 3)).pull 1 = .ok ["c"] ∧
      (Walk.fresh ["a", "b", "c"] (.int 3)).pull 9 = .ok ["c", "b"] ∧
      (Walk.fresh ["a", "b", "c"] (.int 3)).place? = some 2 ∧
      ∃ e, (Walk.fresh ["a", "b", "c"] (.bool true)).pull 1 = .error e := by
  obtain ⟨fit, unfit, -⟩ := history_walked ["a", "b", "c"]
  obtain ⟨pulled, -⟩ := fit 3 (by decide)
  obtain ⟨e, -, refused, -⟩ := unfit (.bool true) (fun _ _ => nofun)
  exact ⟨(pulled 1).1, (pulled 9).1, rfl, e, refused 0⟩

end Runboard
