import DataPortal.Client.Walk
/-!
# Pulling with steps enough

What a walk gives when the number of its steps does not matter: what it gives with every
number from some one on. Pulling stops when it has enough, and goes on otherwise from what
one step leads to.
-/
namespace DataPortal.Walk

variable {σ ρ α : Type} {step : ρ → Action σ (Progress ρ α)} {wanted : Option Nat}
  {place : ρ} {s s' : Session σ} {r : Pulled ρ α × Session σ}

/-- What comes out with every budget from some one on is one result. -/
theorem unique_of_enough {β : Type} {run : Nat → β} {x y : β}
    (h : ∃ n, ∀ budget, n ≤ budget → run budget = x)
    (h' : ∃ n, ∀ budget, n ≤ budget → run budget = y) : y = x := by
  obtain ⟨n, hn⟩ := h
  obtain ⟨n', hn'⟩ := h'
  rw [← hn (max n n') (by omega), ← hn' (max n n') (by omega)]

/-- Pulling comes to a result, with every number of steps from some one on. -/
def Pulls (step : ρ → Action σ (Progress ρ α)) (wanted : Option Nat) (place : ρ)
    (s : Session σ) (r : Pulled ρ α × Session σ) : Prop :=
  ∃ n, ∀ budget, n ≤ budget → pull step budget wanted place s = r

/-- Pulling comes to one result. -/
theorem Pulls.unique {r' : Pulled ρ α × Session σ} (h : Pulls step wanted place s r)
    (h' : Pulls step wanted place s r') : r' = r :=
  unique_of_enough h h'

/-! ## What a step leads to -/

/-- What pulling comes to after a step. -/
def Resumes (step : ρ → Action σ (Progress ρ α)) (wanted : Option Nat)
    (progress : Except Failure (Progress ρ α)) (s : Session σ)
    (r : Pulled ρ α × Session σ) : Prop :=
  match progress with
  | .error f => r = (⟨[], .failed f, none⟩, s)
  | .ok .ended => r = (⟨[], .ended, none⟩, s)
  | .ok (.moved next) => Pulls step wanted next s r
  | .ok (.item a next) =>
    ∃ r', Pulls step (wanted.map (· - 1)) next s r' ∧ r = (r'.1.cons a, r'.2)

theorem Pulls.enough : Pulls step (some 0) place s (⟨[], .enough, some place⟩, s) := by
  refine ⟨0, ?_⟩
  intro budget _
  cases budget <;> rfl

/-- One more step, where some items are still wanted. -/
theorem pull_succ (h : wanted ≠ some 0) (budget : Nat) :
    pull step (budget + 1) wanted place s =
      match step place s with
      | (.error f, s) => (⟨[], .failed f, none⟩, s)
      | (.ok .ended, s) => (⟨[], .ended, none⟩, s)
      | (.ok (.moved next), s) => pull step budget wanted next s
      | (.ok (.item a next), s) =>
        let (pulled, s) := pull step budget (wanted.map (· - 1)) next s
        (pulled.cons a, s) := by
  cases wanted with
  | none => rfl
  | some n =>
    cases n with
    | zero => exact absurd rfl h
    | succ n => rfl

/-- Where items are wanted, one step is taken and pulling goes on from there. -/
theorem Pulls.of_step (hwanted : wanted ≠ some 0)
    {progress : Except Failure (Progress ρ α)} (hstep : step place s = (progress, s'))
    (h : Resumes step wanted progress s' r) : Pulls step wanted place s r := by
  -- the steps that the rest needs, and one
  obtain ⟨n, hn⟩ : ∃ n, ∀ budget, n ≤ budget → pull step (budget + 1) wanted place s = r := by
    cases progress with
    | error f => exact ⟨0, fun budget _ => by rw [pull_succ hwanted, hstep]; exact h.symm⟩
    | ok progress =>
      cases progress with
      | ended => exact ⟨0, fun budget _ => by rw [pull_succ hwanted, hstep]; exact h.symm⟩
      | moved next =>
        obtain ⟨n, hn⟩ := h
        exact ⟨n, fun budget hbudget => by rw [pull_succ hwanted, hstep]; exact hn budget hbudget⟩
      | item a next =>
        obtain ⟨r', ⟨n, hn⟩, rfl⟩ := h
        refine ⟨n, ?_⟩
        intro budget hbudget
        rw [pull_succ hwanted, hstep]
        simp only [hn budget hbudget]
  refine ⟨n + 1, ?_⟩
  intro budget hbudget
  obtain ⟨m, rfl⟩ : ∃ m, budget = m + 1 := ⟨budget - 1, by omega⟩
  exact hn m (by omega)

end DataPortal.Walk
