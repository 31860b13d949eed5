import DataPortal.Text.Percent
import Mathlib.Tactic.IntervalCases
/-!
# The alphabet of a query component

A component has plain characters, which stand for themselves, and escapes of two upper-case
hexadecimal digits. Whatever was encoded, its form is a component, so that no sign of a query
is in it.
-/
namespace DataPortal.Text

/-- A character that stands for itself in a component. -/
def isPlainChar (c : Char) : Bool :=
  c.isAlphanum || "-_.~!*'()".toList.contains c

/-- A digit of an escape. -/
def isUpperHex (c : Char) : Bool :=
  "0123456789ABCDEF".toList.contains c

/-- A text of plain characters and escapes. -/
inductive IsComponent : List Char → Prop where
  | nil : IsComponent []
  | plain {c : Char} {s : List Char} : isPlainChar c = true → IsComponent s →
      IsComponent (c :: s)
  | escape {a b : Char} {s : List Char} : isUpperHex a = true → isUpperHex b = true →
      IsComponent s → IsComponent ('%' :: a :: b :: s)

theorem IsComponent.append {s t : List Char} (hs : IsComponent s) (ht : IsComponent t) :
    IsComponent (s ++ t) := by
  induction hs with
  | nil => exact ht
  | plain hc _ ih => exact .plain hc ih
  | escape ha hb _ ih => exact .escape ha hb ih

theorem isComponent_of_plain {s : List Char} (h : ∀ c ∈ s, isPlainChar c = true) :
    IsComponent s := by
  induction s with
  | nil => exact .nil
  | cons c s ih => exact .plain (h c (by simp)) (ih fun d hd => h d (by simp [hd]))

theorem isComponent_flatMap {α : Type} {f : α → List Char} (h : ∀ a, IsComponent (f a))
    (as : List α) : IsComponent (as.flatMap f) := by
  induction as with
  | nil => exact .nil
  | cons a as ih => exact (h a).append ih

theorem isPlainChar_of_isUpperHex {c : Char} (h : isUpperHex c = true) :
    isPlainChar c = true := by
  have hall : "0123456789ABCDEF".toList.all isPlainChar = true := by decide
  exact List.all_eq_true.1 hall c (List.contains_iff_mem.1 h)

/-- A component has no characters but plain ones and the sign of an escape. -/
theorem IsComponent.not_mem {s : List Char} (h : IsComponent s) {c : Char}
    (hplain : isPlainChar c = false) (hpercent : c ≠ '%') : c ∉ s := by
  have hne : ∀ d, isPlainChar d = true → c ≠ d := by
    rintro d hd rfl
    rw [hplain] at hd
    cases hd
  induction h with
  | nil => simp
  | plain hd _ ih => simp [hne _ hd, ih]
  | escape ha hb _ ih =>
    simp [hpercent, hne _ (isPlainChar_of_isUpperHex ha), hne _ (isPlainChar_of_isUpperHex hb), ih]

theorem isPlainChar_of_isDigit {c : Char} (h : c.isDigit = true) : isPlainChar c = true := by
  simp [isPlainChar, Char.isAlphanum, h]

theorem isPlainChar_of_isAlpha {c : Char} (h : c.isAlpha = true) : isPlainChar c = true := by
  simp [isPlainChar, Char.isAlphanum, h]

namespace Percent

theorem isPlainChar_of_isUnreserved {c : Char} (h : isUnreserved c = true) :
    isPlainChar c = true := by
  simp only [isUnreserved, Bool.or_eq_true, Bool.and_eq_true, decide_eq_true_eq] at h
  rcases h with ((hlower | hupper) | hdigit) | hmark
  · have hc : c.isLower = true :=
      Bool.and_eq_true_iff.2 ⟨decide_eq_true hlower.1, decide_eq_true hlower.2⟩
    exact isPlainChar_of_isAlpha (Bool.or_eq_true_iff.2 (.inr hc))
  · have hc : c.isUpper = true := decide_eq_true hupper
    exact isPlainChar_of_isAlpha (Bool.or_eq_true_iff.2 (.inl hc))
  · exact isPlainChar_of_isDigit (by simpa [Char.isDigit, Char.le_def] using hdigit)
  · have hall : ['_', '.', '-', '~', '!', '*', '\'', '(', ')'].all isPlainChar = true := by decide
    exact List.all_eq_true.1 hall c (List.contains_iff_mem.1 hmark)

theorem isUpperHex_hexDigit {n : ℕ} (h : n < 16) : isUpperHex (hexDigit n) = true := by
  interval_cases n <;> rfl

/-- **What is encoded is a component.** -/
theorem isComponent_encode (s : List Char) : IsComponent (encode s) := by
  have hbyte : ∀ b, IsComponent (escapeByte b) := by
    intro b
    have hb : b.toNat < 256 := b.toNat_lt
    exact .escape (isUpperHex_hexDigit (by omega)) (isUpperHex_hexDigit (by omega)) .nil
  refine isComponent_flatMap (fun c => ?_) s
  unfold encodeChar
  split
  · rename_i hc
    exact .plain (isPlainChar_of_isUnreserved hc) .nil
  · exact isComponent_flatMap hbyte _

end Percent
end DataPortal.Text
