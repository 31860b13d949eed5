import DataPortal.Proofs.Client.Pulls
/-!
# The places that a walk reaches

A walk is somewhere after any number of its steps, with what it has yielded until then. What
holds of all these places and is kept by one step is proved along `Reaches`; what steps keep to
(`Keeps`) also holds wherever pulling stops, with the number of steps that were taken.
-/
namespace DataPortal.Walk

variable {σ ρ α : Type} {step : ρ → Action σ (Progress ρ α)} {start place next : ρ}
  {s₀ s s' : Session σ} {items : List α}

/-- Where a walk can be after some steps, and the items that these have yielded. -/
inductive Reaches (step : ρ → Action σ (Progress ρ α)) (start : ρ) (s₀ : Session σ) :
    List α → ρ → Session σ → Prop where
  | start : Reaches step start s₀ [] start s₀
  | moved {items : List α} {place next : ρ} {s s' : Session σ} :
      Reaches step start s₀ items place s → step place s = (.ok (.moved next), s') →
      Reaches step start s₀ items next s'
  | item {items : List α} {place next : ρ} {s s' : Session σ} {a : α} :
      Reaches step start s₀ items place s → step place s = (.ok (.item a next), s') →
      Reaches step start s₀ (items ++ [a]) next s'

/-- Pulling from the start comes to what pulling from a reached place comes to, after the items
yielded on the way. -/
theorem Reaches.pulls (h : Reaches step start s₀ items place s) {rest : List α}
    {ending : Ending} {last : Option ρ}
    (hpull : Pulls step none place s (⟨rest, ending, last⟩, s')) :
    Pulls step none start s₀ (⟨items ++ rest, ending, last⟩, s') := by
  induction h generalizing rest with
  | start => exact hpull
  | moved _ hstep ih => exact ih (Pulls.of_step (by simp) hstep hpull)
  | item _ hstep ih =>
    rw [List.append_assoc]
    exact ih (Pulls.of_step (by simp) hstep ⟨_, hpull, rfl⟩)

/-- A walk that reaches its end has yielded what was yielded until then. -/
theorem Reaches.pulls_ended (h : Reaches step start s₀ items place s)
    (hend : step place s = (.ok .ended, s')) :
    Pulls step none start s₀ (⟨items, .ended, none⟩, s') := by
  have hpull := h.pulls (Pulls.of_step (by simp) hend rfl)
  rwa [List.append_nil] at hpull

/-! ## Where pulling stops -/

/-- Steps keep to what holds of their number, of the items yielded, of the place and of the
session. -/
structure Keeps (step : ρ → Action σ (Progress ρ α))
    (holds : Nat → List α → ρ → Session σ → Prop) : Prop where
  moved : ∀ {steps items place next s s'}, holds steps items place s →
    step place s = (.ok (.moved next), s') → holds (steps + 1) items next s'
  item : ∀ {steps items place next s s' a}, holds steps items place s →
    step place s = (.ok (.item a next), s') → holds (steps + 1) (items ++ [a]) next s'

/-- How pulling stops, with the items yielded until then: where enough were pulled, where a number
of steps was spent, or by a step that ends the walk or fails. -/
inductive Stops (step : ρ → Action σ (Progress ρ α))
    (holds : Nat → List α → ρ → Session σ → Prop) (spent : Nat) (items : List α) :
    Ending → Session σ → Prop where
  | enough {steps : Nat} {place : ρ} {s : Session σ} : holds steps items place s →
      Stops step holds spent items .enough s
  | spent {place : ρ} {s : Session σ} : holds spent items place s →
      Stops step holds spent items (.failed .budgetSpent) s
  | ended {steps : Nat} {place : ρ} {s s' : Session σ} : holds steps items place s →
      step place s = (.ok .ended, s') → Stops step holds spent items .ended s'
  | failed {steps : Nat} {place : ρ} {s s' : Session σ} {f : Failure} :
      holds steps items place s → step place s = (.error f, s') →
      Stops step holds spent items (.failed f) s'

/-- What steps keep to holds where pulling stops. -/
theorem Keeps.stops {holds : Nat → List α → ρ → Session σ → Prop} (hkeeps : Keeps step holds)
    {steps : Nat} (h : holds steps items place s) (budget : Nat) (wanted : Option Nat) :
    Stops step holds (steps + budget) (items ++ (pull step budget wanted place s).1.items)
      (pull step budget wanted place s).1.ending (pull step budget wanted place s).2 := by
  induction budget generalizing steps items wanted place s with
  | zero =>
    rw [← List.append_nil items] at h
    match wanted with
    | none => exact .spent h
    | some 0 => exact .enough h
    | some (n + 1) => exact .spent h
  | succ budget ih =>
    have hstay : holds steps (items ++ []) place s := by rwa [List.append_nil]
    have hspent : steps + (budget + 1) = steps + 1 + budget := by omega
    by_cases hwanted : wanted = some 0
    · subst hwanted
      exact .enough hstay
    · rw [pull_succ hwanted, hspent]
      cases hstep : step place s with
      | mk progress s' =>
        cases progress with
        | error f => exact .failed hstay hstep
        | ok progress =>
          cases progress with
          | ended => exact .ended hstay hstep
          | moved next => exact ih (hkeeps.moved h hstep) wanted
          | item a next =>
            have hrest := ih (hkeeps.item h hstep) (wanted.map (· - 1))
            rwa [List.append_assoc] at hrest

end DataPortal.Walk
