/-!
# Steps that may fail

How a result that came out of steps in a row is taken apart.
-/
namespace DataPortal.Outcome

variable {ε α β : Type}

theorem bind_eq_ok {x : Except ε α} {f : α → Except ε β} {b : β} :
    (x >>= f) = .ok b ↔ ∃ a, x = .ok a ∧ f a = .ok b := by
  cases x <;> simp [bind, Except.bind]

theorem pure_eq_ok {a b : α} : (pure a : Except ε α) = .ok b ↔ a = b := by
  simp [pure, Except.pure]

/-- Steps that cannot fail on the members of a list come to a result over all of it. -/
theorem exists_foldlM {f : β → α → Except ε β} {xs : List α}
    (h : ∀ b, ∀ a ∈ xs, ∃ b', f b a = .ok b') (b : β) : ∃ b', xs.foldlM f b = .ok b' := by
  induction xs generalizing b with
  | nil => exact ⟨b, rfl⟩
  | cons a xs ih =>
    obtain ⟨b', hb'⟩ := h b a List.mem_cons_self
    obtain ⟨b'', hb''⟩ := ih (fun b a ha => h b a (List.mem_cons_of_mem _ ha)) b'
    exact ⟨b'', bind_eq_ok.2 ⟨b', hb', hb''⟩⟩

end DataPortal.Outcome
