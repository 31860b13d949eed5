import DataPortal.Client.Paging
import DataPortal.Proofs.Number.Amount
/-!
# Waiting before a retry

A policy in whole numbers waits before each retry, and each wait is twice the one before it up
to a maximum. Only a wait beyond the range of floating point fails.
-/
namespace DataPortal

/-- A policy in whole numbers that retries. -/
structure Schedule where
  pageSize : Value
  initialMs : Int
  mostMs : Int
  attempts : Int

namespace Schedule

def policy (s : Schedule) : RetryPolicy :=
  ⟨s.pageSize, .int s.initialMs, .int s.mostMs, .int s.attempts, .bool false⟩

/-- The wait before a retry, counted from one, in milliseconds. -/
def waitMs (s : Schedule) (retry : Nat) : Int :=
  min (s.initialMs * 2 ^ (retry - 1)) s.mostMs

/-- The same in seconds. -/
def waitSeconds (s : Schedule) (retry : Nat) : Binary64 :=
  Binary64.ofRat (mkRat (s.waitMs retry) 1000)

/-- A wait that floating point can hold. -/
def InRange (s : Schedule) (retry : Nat) : Prop :=
  ∀ negative, s.waitSeconds retry ≠ .infinite negative

theorem isLess_int (m n : Int) : Value.isLess (.int m) (.int n) = .ok (decide (m < n)) := by
  have hanswer : Value.isLess (.int m) (.int n) =
      .ok ((Amount.ofInt m).order (Amount.ofInt n)).isLT := rfl
  rw [hanswer, Amount.order_ofInt]
  congr 1
  rw [Bool.eq_iff_iff, decide_eq_true_iff, Ordering.isLT_iff_eq_lt, Int.compare_eq_lt]

theorem isAtMost_whole (m n : Int) :
    Quantity.isAtMost (.whole m) (.whole n) = .ok (decide (m ≤ n)) := by
  have hanswer : Quantity.isAtMost (.whole m) (.whole n) =
      .ok ((Amount.ofInt m).order (Amount.ofInt n)).isLE := rfl
  rw [hanswer, Amount.order_ofInt]
  congr 1
  rw [Bool.eq_iff_iff, decide_eq_true_iff, Int.isLE_compare]

/-- The lesser one of a multiple and a bound. -/
theorem timesAtMost_int (m n bound : Int) :
    Value.timesAtMost (.int m) (.whole n) (.int bound) = .ok (.int (min (m * n) bound)) := by
  have hmultiple : ∀ most, Value.timesUpTo most (.int m) (.whole n) = .ok (.int (m * n)) :=
    fun _ => rfl
  rw [Value.timesAtMost, hmultiple, hmultiple]
  by_cases h : bound < m * n
  · have hmin : min (m * n) bound = bound := by omega
    simp only [bind, Except.bind, isLess_int, h, hmin, decide_true, if_true]
    rfl
  · have hmin : min (m * n) bound = m * n := by omega
    simp only [bind, Except.bind, isLess_int, h, hmin, decide_false, Bool.false_eq_true, if_false]

/-- **Each wait is twice the one before it**, up to the maximum. -/
theorem backoff_eq (s : Schedule) (n : Nat) :
    s.policy.backoff (.int (n + 1 : Nat)) = .ok (.int (s.waitMs (n + 1))) := by
  have hpower : Quantity.twoToThe (.whole n) = .ok (.whole (2 ^ n)) := by
    simp [Quantity.twoToThe]
  have hpred : ((n + 1 : Nat) : Int) - 1 = n := by omega
  have hbackoff : s.policy.backoff (.int (n + 1 : Nat)) =
      (Quantity.twoToThe (.whole ((n + 1 : Nat) - 1))).bind fun factor =>
        Value.timesAtMost (.int s.initialMs) factor (.int s.mostMs) := rfl
  rw [hbackoff, hpred, hpower]
  exact timesAtMost_int s.initialMs (2 ^ n) s.mostMs

theorem givesUp_eq (s : Schedule) (n : Nat) :
    s.policy.givesUp n = .ok (decide (s.attempts ≤ n)) :=
  isAtMost_whole s.attempts n

/-- A policy with attempts left waits, if the wait can be told. -/
theorem slowDown_eq {s : Schedule} {n : Nat} (h : (n + 1 : Nat) < s.attempts) (body : Value)
    (fetched : Nat) :
    PageWalk.slowDown s.policy body fetched (n + 1) =
      match s.waitSeconds (n + 1) with
      | .infinite _ => .error .overflow
      | x => .ok x := by
  have hgoesOn : decide (s.attempts ≤ (n + 1 : Nat)) = false := by
    rw [decide_eq_false_iff_not]
    omega
  rw [PageWalk.slowDown, givesUp_eq, hgoesOn, backoff_eq]
  rfl

theorem slowDown_of_inRange {s : Schedule} {n : Nat} (h : (n + 1 : Nat) < s.attempts)
    (hrange : s.InRange (n + 1)) (body : Value) (fetched : Nat) :
    PageWalk.slowDown s.policy body fetched (n + 1) = .ok (s.waitSeconds (n + 1)) := by
  rw [slowDown_eq h]
  split
  · rename_i negative hinfinite
    exact absurd hinfinite (hrange negative)
  · rfl

/-! ## Giving up -/

/-- The same policy, which retries or not. -/
def policyWith (p : Schedule) (noRetry : Bool) : RetryPolicy :=
  { p.policy with noRetry := .bool noRetry }

/-- How often a page is sent at most. -/
def mostSends (p : Schedule) (noRetry : Bool) : Int :=
  if noRetry then 1 else max 1 p.attempts

theorem one_le_mostSends (p : Schedule) (noRetry : Bool) : 1 ≤ p.mostSends noRetry := by
  cases noRetry with
  | true => exact Int.le_refl 1
  | false => exact Int.le_max_left 1 p.attempts

/-- After a refusal the last attempt is given up; before that a policy waits, if the wait can be
told. -/
theorem slowDown_cases (p : Schedule) {noRetry : Bool} {sent : Nat}
    (hsent : (sent : Int) < p.mostSends noRetry) (body : Value) (fetched : Nat) :
    ((sent + 1 : Nat) = p.mostSends noRetry ∧
        PageWalk.slowDown (p.policyWith noRetry) body fetched (sent + 1) =
          .error (PageWalk.gaveUp body fetched (sent + 1))) ∨
      (sent + 1 : Nat) < p.mostSends noRetry ∧
        ((∃ negative, p.waitSeconds (sent + 1) = .infinite negative) ∧
            PageWalk.slowDown (p.policyWith noRetry) body fetched (sent + 1) = .error .overflow ∨
          PageWalk.slowDown (p.policyWith noRetry) body fetched (sent + 1) =
            .ok (p.waitSeconds (sent + 1))) := by
  cases noRetry with
  | true =>
    -- the first refusal is the last one
    have hmost : p.mostSends true = 1 := rfl
    obtain rfl : sent = 0 := by omega
    exact .inl ⟨rfl, rfl⟩
  | false =>
    have hmost : p.mostSends false = max 1 p.attempts := rfl
    have hpolicy : p.policyWith false = p.policy := rfl
    rw [hpolicy, hmost]
    rw [hmost] at hsent
    by_cases hleft : (sent + 1 : Nat) < p.attempts
    · refine .inr ⟨by omega, ?_⟩
      rw [slowDown_eq hleft]
      cases hwait : p.waitSeconds (sent + 1) with
      | infinite negative => exact .inl ⟨⟨negative, rfl⟩, rfl⟩
      | _ => exact .inr rfl
    · refine .inl ⟨by omega, ?_⟩
      have hspent : decide (p.attempts ≤ (sent + 1 : Nat)) = true := by
        rw [decide_eq_true_iff]
        omega
      rw [PageWalk.slowDown, givesUp_eq, hspent]
      rfl

end Schedule
end DataPortal
