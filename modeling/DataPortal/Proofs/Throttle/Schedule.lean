import DataPortal.Throttle
import Mathlib.Algebra.Order.Ring.Rat
import Mathlib.Order.Bounds.Basic
import Mathlib.Tactic.Linarith
import Mathlib.Tactic.Ring
/-!
# The schedule of a throttle

Turns are taken one after the other, each at some reading of the clock, and the clock may stand
still or go back. The start of a turn is the greatest of what the readings until then demand: a
reading demands a start no earlier, and an interval later for each turn since. So the starts are
a legal schedule, and no legal schedule has an earlier start in any place.
-/
namespace DataPortal.Throttle

/-- A turn at the throttle: what the clock showed, and the start that was taken. -/
structure Turn (τ : Type) where
  now : τ
  start : τ
  deriving DecidableEq, Repr

section Turns

variable {τ : Type} [Add τ] [LT τ] [DecidableLT τ] {interval : τ} {turns : List (Turn τ)}
  {t : Throttle τ}

/-- The turns that brought a throttle from idle to where it stands. -/
inductive Taken (interval : τ) : List (Turn τ) → Throttle τ → Prop where
  | idle : Taken interval [] idle
  | turn {turns : List (Turn τ)} {t : Throttle τ} (now : τ) : Taken interval turns t →
      Taken interval (turns ++ [⟨now, t.nextStart interval now⟩]) (t.reserve interval now)

theorem Taken.lastStart (h : Taken interval turns t) :
    t.lastStart = turns.getLast?.map Turn.start := by
  cases h with
  | idle => rfl
  | turn now _ => simp [reserve]

/-- Every turn is counted. -/
theorem Taken.requests (h : Taken interval turns t) : t.requests = turns.length := by
  induction h with
  | idle => rfl
  | turn now _ ih => simp [reserve, ih]

/-- The turns whose start lay ahead are counted. -/
theorem Taken.delayed (h : Taken interval turns t) :
    t.delayed = turns.countP fun turn => turn.now < turn.start := by
  induction h with
  | idle => rfl
  | @turn turns t now _ ih =>
    rw [reserve, List.countP_append, List.countP_singleton, ← ih]
    by_cases hahead : now < t.nextStart interval now <;> simp [hahead]

end Turns

/-! ## What the readings demand -/

variable {interval : ℚ} {nows starts : List ℚ}

/-- What the readings of the clock demand of the start in a place: each of them, up to the one in
that place, and an interval for each place since. -/
def Demands (interval : ℚ) (nows : List ℚ) (n : ℕ) : Set ℚ :=
  {x | ∃ j ≤ n, ∃ now, nows[j]? = some now ∧ x = now + (n - j : ℕ) * interval}

/-- A start for each reading of the clock, none earlier than its reading, and each at least an
interval after the one before. -/
structure Legal (interval : ℚ) (nows starts : List ℚ) : Prop where
  one_each : starts.length = nows.length
  not_early : ∀ {n : ℕ} {now start : ℚ}, nows[n]? = some now → starts[n]? = some start →
    now ≤ start
  apart : ∀ {n : ℕ} {start next : ℚ}, starts[n]? = some start → starts[n + 1]? = some next →
    start + interval ≤ next

theorem mem_demands_self {n : ℕ} {now : ℚ} (h : nows[n]? = some now) :
    now ∈ Demands interval nows n :=
  ⟨n, le_rfl, now, h, by simp⟩

/-- What was demanded in a place is demanded in the next one an interval later. -/
theorem add_interval_mem_demands {n : ℕ} {x : ℚ} (hx : x ∈ Demands interval nows n) :
    x + interval ∈ Demands interval nows (n + 1) := by
  obtain ⟨j, hj, now, hnow, rfl⟩ := hx
  refine ⟨j, by omega, now, hnow, ?_⟩
  rw [Nat.succ_sub hj]
  push_cast
  ring

/-- The demands in a place are its own reading, and those in the place before, an interval
later. -/
theorem mem_demands_succ {n : ℕ} {x : ℚ} (hx : x ∈ Demands interval nows (n + 1)) :
    nows[n + 1]? = some x ∨ ∃ y ∈ Demands interval nows n, x = y + interval := by
  obtain ⟨j, hj, now, hnow, rfl⟩ := hx
  rcases Nat.lt_or_eq_of_le hj with hlt | rfl
  · refine .inr ⟨now + (n - j : ℕ) * interval, ⟨j, by omega, now, hnow, rfl⟩, ?_⟩
    rw [Nat.succ_sub (by omega)]
    push_cast
    ring
  · exact .inl (by simpa using hnow)

/-- What is demanded in the first place is its reading. -/
theorem mem_demands_zero {x : ℚ} (hx : x ∈ Demands interval nows 0) : nows[0]? = some x := by
  obtain ⟨j, hj, now, hnow, rfl⟩ := hx
  obtain rfl : j = 0 := by omega
  simpa using hnow

/-- The demands in a place do not depend on later readings. -/
theorem demands_append {n : ℕ} (hn : n < nows.length) (later : List ℚ) :
    Demands interval (nows ++ later) n = Demands interval nows n := by
  ext x
  constructor <;>
  · rintro ⟨j, hj, now, hnow, hx⟩
    have hbefore : (nows ++ later)[j]? = nows[j]? := List.getElem?_append_left (by omega)
    exact ⟨j, hj, now, by simpa [hbefore] using hnow, hx⟩

/-- A legal schedule meets the demands. -/
theorem Legal.demands_le (h : Legal interval nows starts) {n : ℕ} {x start : ℚ}
    (hx : x ∈ Demands interval nows n) (hstart : starts[n]? = some start) : x ≤ start := by
  induction n generalizing x start with
  | zero => exact h.not_early (mem_demands_zero hx) hstart
  | succ n ih =>
    rcases mem_demands_succ hx with hnow | ⟨y, hy, rfl⟩
    · exact h.not_early hnow hstart
    · obtain ⟨hlength, -⟩ := List.getElem?_eq_some_iff.1 hstart
      have hbefore := List.getElem?_eq_getElem (Nat.lt_of_succ_lt hlength)
      exact (add_le_add_left (ih hy hbefore) interval).trans (h.apart hbefore hstart)

/-- Starts that are the greatest of the demands are a legal schedule. -/
theorem legal_of_isGreatest (hlength : starts.length = nows.length)
    (h : ∀ n start, starts[n]? = some start → IsGreatest (Demands interval nows n) start) :
    Legal interval nows starts where
  one_each := hlength
  not_early hnow hstart := (h _ _ hstart).2 (mem_demands_self hnow)
  apart hstart hnext := (h _ _ hnext).2 (add_interval_mem_demands (h _ _ hstart).1)

/-! ## The starts that are taken -/

variable {turns : List (Turn ℚ)} {t : Throttle ℚ}

theorem nextStart_first (h : t.lastStart = none) (now : ℚ) : t.nextStart interval now = now := by
  simp [nextStart, h]

theorem nextStart_later {last : ℚ} (h : t.lastStart = some last) (now : ℚ) :
    t.nextStart interval now = max now (last + interval) := by
  simp only [nextStart, h, max_def_lt]

/-- A turn after some turns whose starts are the greatest of the demands: so is its own. -/
theorem isGreatest_nextStart (h : Taken interval turns t)
    (hturns : ∀ n turn, turns[n]? = some turn →
      IsGreatest (Demands interval (turns.map Turn.now) n) turn.start) (now : ℚ) :
    IsGreatest (Demands interval (turns.map Turn.now ++ [now]) turns.length)
      (t.nextStart interval now) := by
  have hself : (turns.map Turn.now ++ [now])[turns.length]? = some now := by simp
  have hlast := h.lastStart
  rcases List.eq_nil_or_concat turns with rfl | ⟨before, last, rfl⟩
  · -- the first turn has its own reading alone
    rw [nextStart_first hlast]
    refine ⟨mem_demands_self hself, fun x hx => ?_⟩
    have hx := mem_demands_zero hx
    simp at hx
    exact hx.ge
  · rw [List.concat_eq_append] at hturns hself hlast ⊢
    have hbefore := hturns before.length last List.getElem?_concat_length
    rw [← demands_append (by simp) [now]] at hbefore
    obtain ⟨hmem, hupper⟩ := hbefore
    rw [List.getLast?_concat, Option.map_some] at hlast
    rw [nextStart_later hlast]
    rw [List.length_append, List.length_singleton] at hself ⊢
    constructor
    · rcases max_choice now (last.start + interval) with hmax | hmax <;> rw [hmax]
      · exact mem_demands_self hself
      · exact add_interval_mem_demands hmem
    · intro x hx
      rcases mem_demands_succ hx with hx | ⟨y, hy, rfl⟩
      · rw [hself] at hx
        cases hx
        exact le_max_left _ _
      · exact (add_le_add_left (hupper hy) interval).trans (le_max_right _ _)

/-- **The start of a turn is the greatest of the demands in its place.** -/
theorem Taken.isGreatest (h : Taken interval turns t) (n : ℕ) (turn : Turn ℚ)
    (hturn : turns[n]? = some turn) :
    IsGreatest (Demands interval (turns.map Turn.now) n) turn.start := by
  induction h generalizing n turn with
  | idle => simp at hturn
  | @turn turns t now htaken ih =>
    rw [List.map_append, List.map_singleton]
    obtain ⟨hn, -⟩ := List.getElem?_eq_some_iff.1 hturn
    rw [List.length_append, List.length_singleton] at hn
    rcases Nat.lt_or_eq_of_le (Nat.le_of_lt_succ hn) with hlt | rfl
    · rw [List.getElem?_append_left hlt] at hturn
      rw [demands_append (by simpa using hlt)]
      exact ih n turn hturn
    · rw [List.getElem?_concat_length] at hturn
      cases hturn
      exact isGreatest_nextStart htaken ih now

/-- The starts of some turns are the greatest of what the readings demand; they are a legal
schedule, and none has an earlier start in any place. -/
structure LeastSchedule (interval : ℚ) (turns : List (Turn ℚ)) : Prop where
  isGreatest : ∀ n turn, turns[n]? = some turn →
    IsGreatest (Demands interval (turns.map Turn.now) n) turn.start
  legal : Legal interval (turns.map Turn.now) (turns.map Turn.start)
  least : ∀ starts, Legal interval (turns.map Turn.now) starts →
    ∀ (n : ℕ) (turn : Turn ℚ) (start : ℚ), turns[n]? = some turn → starts[n]? = some start →
      turn.start ≤ start

/-- **The turns are on the least legal schedule.** -/
theorem Taken.leastSchedule (h : Taken interval turns t) : LeastSchedule interval turns where
  isGreatest := h.isGreatest
  legal := by
    refine legal_of_isGreatest (by simp) fun n start hstart => ?_
    rw [List.getElem?_map, Option.map_eq_some_iff] at hstart
    obtain ⟨turn, hturn, rfl⟩ := hstart
    exact h.isGreatest n turn hturn
  least starts hlegal n turn start hturn hstart :=
    hlegal.demands_le (h.isGreatest n turn hturn).1 hstart

end DataPortal.Throttle
