import DataPortal.Client.Session
/-!
# Actions in a row

What an action does first decides what the rest of it does.
-/
namespace DataPortal.Action

variable {σ α β : Type} {a : Action σ α} {f : α → Action σ β} {s s' : Session σ}

theorem bind_of_ok {x : α} (h : a s = (.ok x, s')) : (a >>= f) s = f x s' := by
  simp only [bind, ExceptT.bind, ExceptT.mk, StateT.bind, h, ExceptT.bindCont]

theorem bind_of_error {e : Failure} (h : a s = (.error e, s')) :
    (a >>= f) s = (.error e, s') := by
  simp only [bind, ExceptT.bind, ExceptT.mk, StateT.bind, h, ExceptT.bindCont]
  rfl

/-- A result is settled after an action: the world stays as the action left it. -/
theorem bind_settle (a : Action σ α) (g : α → Except Failure β) (s : Session σ) :
    (a >>= fun x => settle (g x)) s = ((a s).1 >>= g, (a s).2) := by
  cases h : a s with
  | mk r s' =>
    cases r with
    | error e => rw [bind_of_error h]; rfl
    | ok x => rw [bind_of_ok h]; rfl

end DataPortal.Action
