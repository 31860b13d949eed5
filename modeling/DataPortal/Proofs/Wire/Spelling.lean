import DataPortal.Failure.Basic
import DataPortal.Proofs.Outcome
import DataPortal.Proofs.Wire.Grammar
/-!
# Cutting a text into symbols

The signs of the grammar stand for themselves, a term stands as whatever it is spelled. What
the terms of a text are is given, so that signs inside a term do not count. A term is more
than signs, and then no text can be cut in two ways.
-/
namespace DataPortal.Wire

open Outcome

/-- The signs of the grammar. -/
def isSign (c : Char) : Bool :=
  c == '&' || c == '|' || c == '(' || c == ')'

variable {α : Type} {spell : α → Except Failure (List Char)}

/-- How a symbol is written. -/
def Symbol.text (spell : α → Except Failure (List Char)) : Symbol α → Except Failure (List Char)
  | .term a => spell a
  | .and => .ok ['&']
  | .or => .ok ['|']
  | .left => .ok ['(']
  | .right => .ok [')']

/-- How symbols are written one after the other. -/
def spelling (spell : α → Except Failure (List Char)) :
    List (Symbol α) → Except Failure (List Char)
  | [] => .ok []
  | x :: rest => do
    let s ← x.text spell
    let t ← spelling spell rest
    return s ++ t

/-- The terms among some symbols. -/
def terms (ts : List (Symbol α)) : List α :=
  ts.filterMap fun x => match x with
    | .term a => some a
    | _ => none

/-- A text cut into symbols that have the given terms, each written in full. -/
structure Cut (spell : α → Except Failure (List Char)) (as : List α) (s : List Char)
    (ts : List (Symbol α)) : Prop where
  terms_eq : terms ts = as
  spelling_eq : spelling spell ts = .ok s

/-! ## Parts of a text -/

@[simp] theorem terms_nil : terms ([] : List (Symbol α)) = [] := rfl

@[simp] theorem terms_append (ts us : List (Symbol α)) : terms (ts ++ us) = terms ts ++ terms us :=
  List.filterMap_append ..

@[simp] theorem terms_cons_term (a : α) (ts : List (Symbol α)) :
    terms (.term a :: ts) = a :: terms ts := rfl

@[simp] theorem terms_cons_and (ts : List (Symbol α)) : terms (.and :: ts) = terms ts := rfl

@[simp] theorem terms_cons_or (ts : List (Symbol α)) : terms (.or :: ts) = terms ts := rfl

@[simp] theorem terms_cons_left (ts : List (Symbol α)) : terms (.left :: ts) = terms ts := rfl

@[simp] theorem terms_cons_right (ts : List (Symbol α)) : terms (.right :: ts) = terms ts := rfl

@[simp] theorem spelling_nil : spelling spell [] = .ok [] := rfl

theorem spelling_cons (x : Symbol α) (ts : List (Symbol α)) :
    spelling spell (x :: ts) =
      (x.text spell).bind fun s => (spelling spell ts).map fun t => s ++ t := rfl

theorem spelling_append (ts us : List (Symbol α)) :
    spelling spell (ts ++ us) =
      (spelling spell ts).bind fun s => (spelling spell us).map fun t => s ++ t := by
  induction ts with
  | nil => cases h : spelling spell us <;> simp [Except.bind, Except.map, h]
  | cons x ts ih =>
    rw [List.cons_append, spelling_cons, spelling_cons, ih]
    cases x.text spell with
    | error f => rfl
    | ok s =>
      cases spelling spell ts with
      | error f => rfl
      | ok t => cases spelling spell us <;> simp [Except.bind, Except.map]

theorem spelling_cons_eq_ok {x : Symbol α} {ts : List (Symbol α)} {s : List Char} :
    spelling spell (x :: ts) = .ok s ↔
      ∃ u v, x.text spell = .ok u ∧ spelling spell ts = .ok v ∧ s = u ++ v := by
  rw [spelling, bind_eq_ok]
  simp only [bind_eq_ok, pure_eq_ok, eq_comm (b := s)]
  grind

theorem terms_map {β : Type} (f : α → β) (ts : List (Symbol α)) :
    terms (ts.map (Symbol.map f)) = (terms ts).map f := by
  induction ts with
  | nil => rfl
  | cons x ts ih => cases x <;> simp [Symbol.map, ih]

theorem spelling_map {β : Type} {f : α → β} {spell' : β → Except Failure (List Char)}
    (h : ∀ a, spell' (f a) = spell a) (ts : List (Symbol α)) :
    spelling spell' (ts.map (Symbol.map f)) = spelling spell ts := by
  induction ts with
  | nil => rfl
  | cons x ts ih =>
    rw [List.map_cons, spelling_cons, spelling_cons, ih]
    cases x with
    | term a => rw [Symbol.map, Symbol.text, h]; rfl
    | _ => rfl

/-- A symbol is a term, or one sign. -/
theorem Symbol.cases_text (x : Symbol α) :
    (∃ a, x = .term a) ∨
      ((∀ ts : List (Symbol α), terms (x :: ts) = terms ts) ∧
        ∃ c, isSign c = true ∧ ∀ spell, x.text spell = .ok [c]) := by
  cases x with
  | term a => exact .inl ⟨a, rfl⟩
  | and => exact .inr ⟨fun _ => rfl, '&', rfl, fun _ => rfl⟩
  | or => exact .inr ⟨fun _ => rfl, '|', rfl, fun _ => rfl⟩
  | left => exact .inr ⟨fun _ => rfl, '(', rfl, fun _ => rfl⟩
  | right => exact .inr ⟨fun _ => rfl, ')', rfl, fun _ => rfl⟩

/-- Two signs that are written alike are one symbol. -/
theorem Symbol.eq_of_text {x y : Symbol α} {c : Char} (hx : ∀ spell, x.text spell = .ok [c])
    (hy : ∀ spell, y.text spell = .ok [c]) : x = y := by
  have hx := hx fun _ => .ok []
  have hxy := hx.trans (hy fun _ => .ok []).symm
  cases x <;> cases y <;> simp [Symbol.text] at hx hxy ⊢

/-- The terms of a tree from left to right. -/
def Phrase.terms : Phrase α → List α
  | .term a => [a]
  | .and left right | .or left right => left.terms ++ right.terms

/-- A tree has the terms of the text that it is read from, in their order. -/
theorem Derives.terms_eq {l : Level} {ts : List (Symbol α)} {t : Phrase α} (h : Derives l ts t) :
    t.terms = Wire.terms ts := by
  induction h with
  | term a => rfl
  | group _ ih => simp [ih]
  | operand _ ih => exact ih
  | and _ _ ih ih' => simp [Phrase.terms, ih, ih']
  | conjunction _ ih => exact ih
  | or _ _ ih ih' => simp [Phrase.terms, ih, ih']

/-! ## One way to cut -/

/-- A term has something in it other than signs. -/
def HasBody (s : List Char) : Prop :=
  ∃ c ∈ s, isSign c = false

/-- The number of signs that a text starts with. -/
def leadingSigns (s : List Char) : Nat :=
  (s.takeWhile isSign).length

theorem leadingSigns_cons {c : Char} (h : isSign c = true) (s : List Char) :
    leadingSigns (c :: s) = leadingSigns s + 1 := by
  simp [leadingSigns, h]

theorem leadingSigns_append {s : List Char} (h : HasBody s) (t : List Char) :
    leadingSigns (s ++ t) = leadingSigns s := by
  obtain ⟨c, hc, hsign⟩ := h
  induction s with
  | nil => simp at hc
  | cons d s ih =>
    rcases List.mem_cons.1 hc with rfl | hc
    · simp [leadingSigns, hsign]
    · by_cases hd : isSign d = true
      · rw [List.cons_append, leadingSigns_cons hd, leadingSigns_cons hd, ih hc]
      · simp [leadingSigns, hd]

theorem Cut.tail_of_sign {x : Symbol α} {ts : List (Symbol α)} {as : List α} {s : List Char}
    {c : Char} (h : Cut spell as s (x :: ts)) (hterms : terms (x :: ts) = terms ts)
    (htext : x.text spell = .ok [c]) : ∃ t, s = c :: t ∧ Cut spell as t ts := by
  obtain ⟨u, v, hu, hv, rfl⟩ := spelling_cons_eq_ok.1 h.spelling_eq
  rw [htext] at hu
  cases hu
  exact ⟨v, rfl, hterms ▸ h.terms_eq, hv⟩

theorem Cut.tail_of_term {a : α} {ts : List (Symbol α)} {as : List α} {s : List Char}
    (h : Cut spell as s (.term a :: ts)) :
    ∃ u t bs, spell a = .ok u ∧ s = u ++ t ∧ as = a :: bs ∧ Cut spell bs t ts := by
  obtain ⟨u, v, hu, hv, rfl⟩ := spelling_cons_eq_ok.1 h.spelling_eq
  exact ⟨u, v, terms ts, hu, rfl, h.terms_eq.symm, rfl, hv⟩

/-- A text starts with at least the signs of its first term. -/
theorem Cut.leadingSigns_le {a : α} {as : List α} {u : List Char} (hu : spell a = .ok u)
    (hb : HasBody u) {ts : List (Symbol α)} {s : List Char} (h : Cut spell (a :: as) s ts) :
    leadingSigns u ≤ leadingSigns s := by
  induction ts generalizing s with
  | nil => cases h.terms_eq
  | cons x ts ih =>
    rcases x.cases_text with ⟨b, rfl⟩ | ⟨hterms, c, hc, htext⟩
    · obtain ⟨v, t, bs, hv, rfl, hab, -⟩ := h.tail_of_term
      cases hab
      rw [hu] at hv
      cases hv
      exact Nat.le_of_eq (leadingSigns_append hb t).symm
    · obtain ⟨t, rfl, ht⟩ := h.tail_of_sign (hterms ts) (htext spell)
      have := ih ht
      rw [leadingSigns_cons hc]
      omega

/-- A term cannot start where a sign does: the text after the sign would start with as many
signs as the term, and the text with the term no more. -/
theorem Cut.not_sign_term {x : Symbol α} {a : α} {ts us : List (Symbol α)} {as : List α}
    {s : List Char} {c : Char} (hbody : ∀ b ∈ as, ∀ u, spell b = .ok u → HasBody u)
    (hterms : terms (x :: ts) = terms ts) (hc : isSign c = true)
    (htext : x.text spell = .ok [c]) (h : Cut spell as s (x :: ts))
    (h' : Cut spell as s (.term a :: us)) : False := by
  obtain ⟨u, t, bs, hu, rfl, rfl, -⟩ := h'.tail_of_term
  have hb := hbody a (by simp) u hu
  obtain ⟨t', hs, ht'⟩ := h.tail_of_sign hterms htext
  have hle := Cut.leadingSigns_le hu hb ht'
  have hlead := leadingSigns_append hb t
  rw [hs, leadingSigns_cons hc] at hlead
  omega

/-- Nothing is cut into no symbols. -/
theorem Cut.eq_nil {ts : List (Symbol α)} (h : Cut spell [] [] ts) : ts = [] := by
  cases ts with
  | nil => rfl
  | cons x ts =>
    rcases x.cases_text with ⟨a, rfl⟩ | ⟨hterms, c, -, htext⟩
    · cases h.terms_eq
    · obtain ⟨t, ht, -⟩ := h.tail_of_sign (hterms ts) (htext spell)
      cases ht

/-- A text is cut in one way into symbols of given terms. -/
theorem Cut.unique {as : List α} (hbody : ∀ a ∈ as, ∀ u, spell a = .ok u → HasBody u)
    {s : List Char} {ts us : List (Symbol α)} (h : Cut spell as s ts)
    (h' : Cut spell as s us) : us = ts := by
  induction ts generalizing as s us with
  | nil =>
    have hs : s = [] := by simpa using h.spelling_eq.symm
    have has : as = [] := h.terms_eq.symm
    subst hs has
    exact h'.eq_nil
  | cons x ts ih =>
    cases us with
    | nil =>
      have hs : s = [] := by simpa using h'.spelling_eq.symm
      have has : as = [] := h'.terms_eq.symm
      subst hs has
      exact h.eq_nil.symm
    | cons y us =>
      -- both cuts begin with a term or both with a sign
      rcases x.cases_text with ⟨a, rfl⟩ | ⟨hx, c, hc, hxtext⟩ <;>
        rcases y.cases_text with ⟨b, rfl⟩ | ⟨hy, d, hd, hytext⟩
      · obtain ⟨u, t, bs, hu, rfl, rfl, ht⟩ := h.tail_of_term
        obtain ⟨u', t', bs', hu', hs, has, ht'⟩ := h'.tail_of_term
        cases has
        rw [hu] at hu'
        cases hu'
        cases List.append_cancel_left hs
        rw [ih (fun a ha => hbody a (by simp [ha])) ht ht']
      · exact (Cut.not_sign_term hbody (hy us) hd (hytext spell) h' h).elim
      · exact (Cut.not_sign_term hbody (hx ts) hc (hxtext spell) h h').elim
      · obtain ⟨t, rfl, ht⟩ := h.tail_of_sign (hx ts) (hxtext spell)
        obtain ⟨t', hs, ht'⟩ := h'.tail_of_sign (hy us) (hytext spell)
        cases hs
        rw [ih hbody ht ht', Symbol.eq_of_text hxtext hytext]

theorem Cut.iff_eq {as : List α} (hbody : ∀ a ∈ as, ∀ u, spell a = .ok u → HasBody u)
    {s : List Char} {ts : List (Symbol α)} (h : Cut spell as s ts) (us : List (Symbol α)) :
    Cut spell as s us ↔ us = ts := by
  constructor
  · intro h'
    exact h.unique hbody h'
  · rintro rfl
    exact h

end DataPortal.Wire
