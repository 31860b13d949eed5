/-!
# Spacing requests

Requests start at least an interval apart. There is no allowance for bursts: each caller
takes the next free start, in the order of the calls, and waits for it. Times are numbers
of any kind that can be added and compared.
-/
namespace DataPortal

/-- The start taken last, how many starts were taken, and how many of them lay ahead. -/
structure Throttle (τ : Type) where
  lastStart : Option τ
  requests : Nat
  delayed : Nat
  deriving DecidableEq, Repr

namespace Throttle

variable {τ : Type} [Add τ] [LT τ] [DecidableLT τ]

/-- No start has been taken. -/
def idle : Throttle τ :=
  ⟨none, 0, 0⟩

/-- The first free start at a time: that time, or an interval after the last start if that
is later. -/
def nextStart (t : Throttle τ) (interval now : τ) : τ :=
  match t.lastStart with
  | none => now
  | some last => if now < last + interval then last + interval else now

/-- Takes the first free start at a time. -/
def reserve (t : Throttle τ) (interval now : τ) : Throttle τ :=
  let start := t.nextStart interval now
  { lastStart := some start
    requests := t.requests + 1
    delayed := if now < start then t.delayed + 1 else t.delayed }

/-- How long to wait at a time for a start, if it lies ahead. -/
def wait? [Sub τ] [OfNat τ 0] (start now : τ) : Option τ :=
  if 0 < start - now then some (start - now) else none

end Throttle
end DataPortal
