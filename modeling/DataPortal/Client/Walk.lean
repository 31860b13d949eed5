import DataPortal.Client.Session
/-!
# Walks

A walk produces items one after the other, and does no more work than the items that
are pulled from it need. It is given by the places where it can stand and by one step
from each of them; a step sends at most one request for data.
-/
namespace DataPortal

/-- What a step of a walk leads to: an item and the next place, the next place alone, or
the end. -/
inductive Progress (ρ α : Type) where
  | item (a : α) (next : ρ)
  | moved (next : ρ)
  | ended

/-- How pulling ends: with as many items as were wanted, at the end of the walk, or with
a failure, which also ends the walk. -/
inductive Ending where
  | enough
  | ended
  | failed (f : Failure)

/-- The items that were pulled, how pulling ended, and where the walk stands now unless
it is over. -/
structure Pulled (ρ α : Type) where
  items : List α
  ending : Ending
  place : Option ρ

variable {σ ρ α : Type}

/-- Puts an item in front of those that were pulled after it. -/
def Pulled.cons (a : α) (p : Pulled ρ α) : Pulled ρ α :=
  { p with items := a :: p.items }

namespace Walk

/-- Pulls items from a place on: as many as are wanted, or all of them. The budget bounds
the number of steps. -/
def pull (step : ρ → Action σ (Progress ρ α)) :
    Nat → Option Nat → ρ → Session σ → Pulled ρ α × Session σ
  | _, some 0, place, s => (⟨[], .enough, some place⟩, s)
  | 0, _, _, s => (⟨[], .failed .budgetSpent, none⟩, s)
  | budget + 1, wanted, place, s =>
    match step place s with
    | (.error f, s) => (⟨[], .failed f, none⟩, s)
    | (.ok .ended, s) => (⟨[], .ended, none⟩, s)
    | (.ok (.moved next), s) => pull step budget wanted next s
    | (.ok (.item a next), s) =>
      let (pulled, s) := pull step budget (wanted.map (· - 1)) next s
      (pulled.cons a, s)

end Walk
end DataPortal
