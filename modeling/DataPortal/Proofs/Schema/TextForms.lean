import DataPortal.Proofs.FilterText.RealDate
import DataPortal.Schema.Classification
import Mathlib.Data.List.Basic
/-!
# The forms of texts

A text is tried for five forms in turn: it can be a geometry, a time, a date, a UUID or an address.
It has at most one of them, since four of its characters tell which one that could be (`toldForm`):
digits, of whatever script or base, are none of the letters that geometries and addresses begin
with, and a UUID has no hyphen where a date has its first one. So it makes no difference to the type
that a text shows in which order it is tried for the forms.
-/
namespace DataPortal

/-! ## What stands at a place -/

namespace Text

variable {word template s rest : List Char} {i : Nat}

theorem takeWord?_getElem? (h : takeWord? word s = some rest) {w : Char}
    (hw : word[i]? = some w) : ∃ c, s[i]? = some c ∧ foldCase c = w := by
  induction word generalizing s i with
  | nil => cases hw
  | cons v word ih =>
    cases s with
    | nil => cases h
    | cons c s =>
      rw [takeWord?] at h
      by_cases hc : foldCase c = v
      · rw [if_pos hc] at h
        cases i with
        | zero =>
          cases hw
          exact ⟨c, rfl, hc⟩
        | succ i =>
          rw [List.getElem?_cons_succ] at hw ⊢
          exact ih h hw
      · rw [if_neg hc] at h
        cases h

end Text

namespace Schema

/-! ## Forms -/

/-- A form that a text can have. -/
inductive TextForm where
  | geometry
  | dateTime
  | date
  | uuid
  | address
  deriving DecidableEq, Repr

namespace TextForm

/-- The forms, in the order in which a text is tried for them. -/
def all : List TextForm :=
  [.geometry, .dateTime, .date, .uuid, .address]

/-- Whether a text has a form. -/
def fits (s : List Char) : TextForm → Bool
  | .geometry => isGeometry s
  | .dateTime => isDateTime s
  | .date => isDate s
  | .uuid => isUuid s
  | .address => isAddress s

/-- The type that a text of a form shows. -/
def type (s : List Char) : TextForm → FieldType
  | .geometry => .geometry
  | .dateTime => .datetime
  | .date => .date
  | .uuid => .ref
  | .address => if endsInFileName s then .file else .url

end TextForm

/-- The type that a text shows when it is tried for forms in some order: that of the first form
which it has. -/
def typeInOrder (order : List TextForm) (s : List Char) : FieldType :=
  ((order.find? (TextForm.fits s)).map (TextForm.type s)).getD .string

variable {s : List Char}

theorem typeInOrder_cons (form : TextForm) (order : List TextForm) (s : List Char) :
    typeInOrder (form :: order) s =
      if form.fits s then form.type s else typeInOrder order s := by
  rw [typeInOrder, List.find?_cons]
  by_cases h : form.fits s = true
  · simp [h]
  · simp [h, typeInOrder]

theorem typeOfText_eq (s : List Char) : typeOfText s = typeInOrder TextForm.all s := by
  simp only [TextForm.all, typeInOrder_cons]
  rfl

/-! ## The characters that tell a form -/

/-- The letters that a geometry begins with: that of a reference system, or that of its own
word. -/
def geometryLetters : List Char :=
  ['s', 'p', 'l', 'm', 'g']

/-- The one form that a text can have, by what stands in four places of it. -/
def toldForm (s : List Char) : TextForm :=
  if s[0]?.any (fun c => geometryLetters.contains (Text.foldCase c)) then .geometry
  else if s[1]?.any (fun c => Text.foldCase c == 't') then .address
  else if s[4]? = some '-' then
    if s[10]? = some 'T' ∨ s[10]? = some ' ' then .dateTime else .date
  else .uuid

/-- No letter that tells a geometry or an address. -/
def IsNoLead (c : Char) : Prop :=
  Text.foldCase c ∉ 't' :: geometryLetters

theorem isNoLead_of_isDigit {c : Char} (h : Text.isDigit c = true) : IsNoLead c := by
  have hp := Text.of_isDigit
    (p := fun c => !('t' :: geometryLetters).contains (Text.foldCase c)) (by decide +kernel) h
  simpa [IsNoLead] using hp

theorem isNoLead_of_isHexDigit {c : Char} (h : isHexDigit c = true) : IsNoLead c := by
  have hsmall : c.toNat < 103 := by
    simp only [isHexDigit, Bool.or_eq_true, Bool.and_eq_true, decide_eq_true_eq] at h
    obtain (⟨-, h⟩ | ⟨-, h⟩) | ⟨-, h⟩ := h
    · exact Nat.lt_of_le_of_lt h (by decide)
    · exact Nat.lt_of_le_of_lt h (by decide)
    · exact Nat.lt_of_le_of_lt h (by decide)
  have hall : ∀ n < 103, isHexDigit (Char.ofNat n) = true →
      Text.foldCase (Char.ofNat n) ∉ 't' :: geometryLetters := by
    decide +kernel
  have hc := hall c.toNat hsmall
  rw [Char.ofNat_toNat] at hc
  exact hc h

/-- A text that begins with no such letters is told by its fifth character on. -/
theorem toldForm_of_isNoLead (h : ∀ i < 2, ∃ c, s[i]? = some c ∧ IsNoLead c) :
    toldForm s =
      if s[4]? = some '-' then
        if s[10]? = some 'T' ∨ s[10]? = some ' ' then .dateTime else .date
      else .uuid := by
  obtain ⟨c, hc, hlead⟩ := h 0 (by decide)
  obtain ⟨d, hd, hlead'⟩ := h 1 (by decide)
  simp only [IsNoLead, List.mem_cons, not_or] at hlead hlead'
  rw [toldForm, hc, hd]
  simp [hlead.2, hlead'.1]

/-! ## The form that a text has is the one that is told -/

theorem toldForm_of_isGeometry (h : isGeometry s = true) : toldForm s = .geometry := by
  have hlead : ∃ c, s[0]? = some c ∧ Text.foldCase c ∈ geometryLetters := by
    cases hsystem : Text.takeWord? "srid=".toList s with
    | some rest =>
      obtain ⟨c, hc, hs⟩ := Text.takeWord?_getElem? hsystem (show _[0]? = some 's' from rfl)
      exact ⟨c, hc, hs ▸ by decide⟩
    | none =>
      have hdrop : dropReferenceSystem s = s := by rw [dropReferenceSystem, hsystem]
      obtain ⟨rest, hword, -⟩ := (Option.any_eq_true _ _).1 h
      rw [hdrop] at hword
      obtain ⟨word, hmem, hword⟩ := List.exists_of_findSome?_eq_some hword
      have hfirst : ∀ word ∈ geometryWords, word.toList[0]?.any geometryLetters.contains := by
        decide +kernel
      obtain ⟨w, hhead, hw⟩ := (Option.any_eq_true _ _).1 (hfirst word hmem)
      obtain ⟨c, hc, rfl⟩ := Text.takeWord?_getElem? hword hhead
      exact ⟨c, hc, List.contains_iff_mem.1 hw⟩
  obtain ⟨c, hc, hmem⟩ := hlead
  rw [toldForm, hc]
  simp [hmem]

theorem toldForm_of_isAddress (h : isAddress s = true) : toldForm s = .address := by
  obtain ⟨rest, hword, -⟩ := (Option.any_eq_true _ _).1 h
  obtain ⟨word, hmem, hword⟩ := List.exists_of_findSome?_eq_some hword
  have hfirst : ∀ word ∈ addressWords, word.toList[0]?.any (!geometryLetters.contains ·) := by
    decide +kernel
  have hsecond : ∀ word ∈ addressWords, word.toList[1]? = some 't' := by decide +kernel
  obtain ⟨w, hhead, hw⟩ := (Option.any_eq_true _ _).1 (hfirst word hmem)
  obtain ⟨c, hc, rfl⟩ := Text.takeWord?_getElem? hword hhead
  obtain ⟨d, hd, ht⟩ := Text.takeWord?_getElem? hword (hsecond word hmem)
  have hother : Text.foldCase c ∉ geometryLetters := by simpa using hw
  rw [toldForm, hc, hd]
  simp [hother, ht]

/-- Where groups of hexadecimal digits are taken, the first one stands at the front. -/
theorem exists_hexDigit {n : Nat} {groups : List Nat} {rest : List Char}
    (h : takeHexGroups? (n :: groups) s = some rest) :
    ∀ i < n, ∃ c, s[i]? = some c ∧ isHexDigit c = true := by
  have hgroup : (s.take n).length = n ∧ (s.take n).all isHexDigit := by
    by_contra hcontra
    rw [takeHexGroups?.eq_def] at h
    dsimp only at h
    rw [if_neg hcontra] at h
    cases h
  intro i hi
  have hi' : i < (s.take n).length := by omega
  refine ⟨(s.take n)[i], ?_, List.all_eq_true.1 hgroup.2 _ (List.getElem_mem hi')⟩
  rw [← List.getElem?_take_of_lt hi, List.getElem?_eq_getElem hi']

theorem toldForm_of_isUuid (h : isUuid s = true) : toldForm s = .uuid := by
  obtain ⟨rest, hgroups, -⟩ := (Option.any_eq_true _ _).1 h
  have hhex := exists_hexDigit hgroups
  rw [toldForm_of_isNoLead, if_neg]
  · -- a digit, and so no hyphen, stands where a date has its first hyphen
    obtain ⟨c, hc, hdigit⟩ := hhex 4 (by decide)
    rw [hc]
    rintro ⟨⟩
    cases hdigit
  · intro i hi
    obtain ⟨c, hc, hdigit⟩ := hhex i (by omega)
    exact ⟨c, hc, isNoLead_of_isHexDigit hdigit⟩

/-! ## Texts that begin with a day -/

theorem exists_day {p : List Char → Bool}
    (h : (Text.takeTemplate? "####-##-##".toList s).any p = true) :
    ∃ day rest, s = day ++ rest ∧ FilterText.IsDayForm day ∧ p rest = true := by
  obtain ⟨rest, hday, hp⟩ := (Option.any_eq_true _ _).1 h
  rw [← List.append_nil "####-##-##".toList, FilterText.takeTemplate?_day_iff] at hday
  obtain ⟨day, _, rfl, hday, ⟨⟩⟩ := hday
  exact ⟨day, rest, rfl, hday, hp⟩

/-- What comes after the day tells a time from a date. -/
theorem toldForm_of_day {day rest : List Char} (h : FilterText.IsDayForm day) :
    toldForm (day ++ rest) =
      if rest.head? = some 'T' ∨ rest.head? = some ' ' then .dateTime else .date := by
  obtain ⟨hyear, hmonth, hday⟩ := h
  have hlead : ∀ {c}, c ∈ _ → IsNoLead c := fun hc => isNoLead_of_isDigit (hyear.isDigit _ hc)
  obtain ⟨a, b, c, d, rfl⟩ := List.length_eq_four.1 hyear.length_eq
  obtain ⟨m, n, rfl⟩ := List.length_eq_two.1 hmonth.length_eq
  obtain ⟨k, l, rfl⟩ := List.length_eq_two.1 hday.length_eq
  rw [toldForm_of_isNoLead]
  · cases rest <;> rfl
  · intro i hi
    match i with
    | 0 => exact ⟨a, rfl, hlead (by simp)⟩
    | 1 => exact ⟨b, rfl, hlead (by simp)⟩

theorem toldForm_of_isDateTime (h : isDateTime s = true) : toldForm s = .dateTime := by
  obtain ⟨day, rest, rfl, hday, htime⟩ := exists_day h
  rw [toldForm_of_day hday, if_pos]
  cases rest with
  | nil => cases htime
  | cons c rest =>
    simp only [Bool.and_eq_true, Bool.or_eq_true, decide_eq_true_eq] at htime
    simpa using htime.1

theorem toldForm_of_isDate (h : isDate s = true) : toldForm s = .date := by
  obtain ⟨day, rest, rfl, hday, hend⟩ := exists_day h
  rw [toldForm_of_day hday, if_neg]
  rcases Text.isAtEnd_iff.1 hend with rfl | rfl <;> decide

/-- A text has no other form than the one that is told. -/
theorem toldForm_of_fits {form : TextForm} (h : form.fits s = true) : toldForm s = form := by
  cases form with
  | geometry => exact toldForm_of_isGeometry h
  | dateTime => exact toldForm_of_isDateTime h
  | date => exact toldForm_of_isDate h
  | uuid => exact toldForm_of_isUuid h
  | address => exact toldForm_of_isAddress h

/-- Where every form is tried, the one that is told is met if the text has it. -/
theorem typeInOrder_eq {order : List TextForm} (hall : ∀ form, form ∈ order) (s : List Char) :
    typeInOrder order s = if (toldForm s).fits s then (toldForm s).type s else .string := by
  rw [typeInOrder]
  cases hfind : order.find? (TextForm.fits s) with
  | some form =>
    have hfits : form.fits s = true := List.find?_some hfind
    rw [toldForm_of_fits hfits, if_pos hfits]
    rfl
  | none =>
    rw [if_neg (List.find?_eq_none.1 hfind _ (hall _))]
    rfl

theorem TextForm.mem_all (form : TextForm) : form ∈ TextForm.all := by
  cases form <;> decide

/-- **A text has at most one form**, so it shows the same type in whatever order it is tried for
the forms. -/
theorem text_has_one_form (s : List Char) :
    (∀ form form' : TextForm, form.fits s = true → form'.fits s = true → form = form') ∧
      ∀ order : List TextForm, (∀ form, form ∈ order) → typeInOrder order s = typeOfText s := by
  constructor
  · intro form form' h h'
    rw [← toldForm_of_fits h, toldForm_of_fits h']
  · intro order hall
    rw [typeOfText_eq, typeInOrder_eq hall, typeInOrder_eq TextForm.mem_all]

/-- A date that ends its line is a date also where the forms are tried the other way round. -/
theorem line_of_date_has_one_form :
    (∀ form, form ∈ TextForm.all.reverse) ∧ TextForm.date.fits "2024-05-01\n".toList = true ∧
      (∀ form : TextForm, form.fits "2024-05-01\n".toList = true → form = .date) ∧
      typeInOrder TextForm.all.reverse "2024-05-01\n".toList = .date := by
  have hall : ∀ form, form ∈ TextForm.all.reverse :=
    fun form => List.mem_reverse.2 form.mem_all
  have hdate : TextForm.date.fits "2024-05-01\n".toList = true := by decide +kernel
  have hone := text_has_one_form "2024-05-01\n".toList
  refine ⟨hall, hdate, fun form h => hone.1 form .date h hdate, ?_⟩
  rw [hone.2 _ hall]
  decide +kernel

end Schema
end DataPortal
