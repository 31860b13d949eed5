/-!
# The grammar of the wire

A query is read as terms joined by `&` and `|`, where `&` binds tighter and parentheses
group. A clause or a condition is one term, whatever stands in it:

    disjunction = conjunction | disjunction "|" conjunction
    conjunction = operand | conjunction "&" operand
    operand     = term | "(" disjunction ")"

`Derives` is the grammar. The reader `read` is proof method only: it takes one symbol after
the other and so shows that a text of symbols has at most one tree.
-/
namespace DataPortal.Wire

/-- A symbol of a query text. -/
inductive Symbol (α : Type) where
  | term (a : α)
  | and
  | or
  | left
  | right
  deriving DecidableEq, Repr

/-- A tree of terms joined by "and" and "or". -/
inductive Phrase (α : Type) where
  | term (a : α)
  | and (left right : Phrase α)
  | or (left right : Phrase α)
  deriving DecidableEq, Repr

/-- How tightly a text of symbols holds together. -/
inductive Level where
  | operand
  | conjunction
  | disjunction

variable {α β : Type}

/-- The grammar: a text of symbols and the tree it is read as. -/
inductive Derives : Level → List (Symbol α) → Phrase α → Prop where
  | term (a : α) : Derives .operand [.term a] (.term a)
  | group {ts : List (Symbol α)} {t : Phrase α} (h : Derives .disjunction ts t) :
      Derives .operand (.left :: ts ++ [.right]) t
  | operand {ts : List (Symbol α)} {t : Phrase α} (h : Derives .operand ts t) :
      Derives .conjunction ts t
  | and {ts us : List (Symbol α)} {t u : Phrase α} (h : Derives .conjunction ts t)
      (h' : Derives .operand us u) : Derives .conjunction (ts ++ .and :: us) (.and t u)
  | conjunction {ts : List (Symbol α)} {t : Phrase α} (h : Derives .conjunction ts t) :
      Derives .disjunction ts t
  | or {ts us : List (Symbol α)} {t u : Phrase α} (h : Derives .disjunction ts t)
      (h' : Derives .conjunction us u) : Derives .disjunction (ts ++ .or :: us) (.or t u)

/-- A whole text is read as a disjunction. -/
def ReadAs (ts : List (Symbol α)) (t : Phrase α) : Prop :=
  Derives .disjunction ts t

/-! ## Other terms -/

/-- The symbol with another term in its place. -/
def Symbol.map (f : α → β) : Symbol α → Symbol β
  | .term a => .term (f a)
  | .and => .and
  | .or => .or
  | .left => .left
  | .right => .right

/-- The tree with other terms in their places. -/
def Phrase.map (f : α → β) : Phrase α → Phrase β
  | .term a => .term (f a)
  | .and left right => .and (left.map f) (right.map f)
  | .or left right => .or (left.map f) (right.map f)

/-- What terms are does not matter to the grammar. -/
theorem Derives.map (f : α → β) {l : Level} {ts : List (Symbol α)} {t : Phrase α}
    (h : Derives l ts t) : Derives l (ts.map (Symbol.map f)) (t.map f) := by
  induction h with
  | term a => exact .term (f a)
  | group _ ih => simpa [Symbol.map] using ih.group
  | operand _ ih => exact ih.operand
  | and _ _ ih ih' => simpa [Symbol.map, Phrase.map] using ih.and ih'
  | conjunction _ ih => exact ih.conjunction
  | or _ _ ih ih' => simpa [Symbol.map, Phrase.map] using ih.or ih'

/-! ## One symbol after the other -/

/-- A tree joined to what stands before it, if anything does. -/
def joined (op : Phrase α → Phrase α → Phrase α) : Option (Phrase α) → Phrase α → Phrase α
  | none, t => t
  | some s, t => op s t

mutual

/-- Reads on where an operand must stand: after the alternatives `before` and the factors
`factors` of the present parentheses, with the same for each of the enclosing ones. -/
def expect (before factors : Option (Phrase α))
    (enclosing : List (Option (Phrase α) × Option (Phrase α))) :
    List (Symbol α) → Option (Phrase α)
  | .term a :: rest => proceed before (joined .and factors (.term a)) enclosing rest
  | .left :: rest => expect none none ((before, factors) :: enclosing) rest
  | _ => none

/-- Reads on where a conjunction `t` may end or go on. -/
def proceed (before : Option (Phrase α)) (t : Phrase α)
    (enclosing : List (Option (Phrase α) × Option (Phrase α))) :
    List (Symbol α) → Option (Phrase α)
  | [] => if enclosing.isEmpty then some (joined .or before t) else none
  | .and :: rest => expect before (some t) enclosing rest
  | .or :: rest => expect (some (joined .or before t)) none enclosing rest
  | .right :: rest =>
    match enclosing with
    | (outer, factors) :: enclosing =>
      proceed outer (joined .and factors (joined .or before t)) enclosing rest
    | [] => none
  | _ => none

end

/-- The tree of a text of symbols, if it has one. -/
def read (ts : List (Symbol α)) : Option (Phrase α) :=
  expect none none [] ts

/-- What the reader makes of a text of some level, whatever follows it. A text is read from
where its level may begin: an operand anywhere, a conjunction where no factor waits, a
disjunction right after a parenthesis. -/
def Level.ReadsOn : Level → List (Symbol α) → Phrase α → Prop
  | .operand, ts, t => ∀ before factors enclosing rest,
      expect before factors enclosing (ts ++ rest) =
        proceed before (joined .and factors t) enclosing rest
  | .conjunction, ts, t => ∀ before enclosing rest,
      expect before none enclosing (ts ++ rest) = proceed before t enclosing rest
  | .disjunction, ts, t => ∃ before u, joined .or before u = t ∧ ∀ enclosing rest,
      expect none none enclosing (ts ++ rest) = proceed before u enclosing rest

theorem Derives.readsOn {l : Level} {ts : List (Symbol α)} {t : Phrase α}
    (h : Derives l ts t) : l.ReadsOn ts t := by
  induction h with
  | term a =>
    intro before factors enclosing rest
    simp [expect]
  | @group ts t _ ih =>
    -- what stands before the parentheses waits until they close
    intro before factors enclosing rest
    obtain ⟨b, u, hbu, ih⟩ := ih
    rw [← hbu]
    simp [expect, ih, proceed]
  | operand _ ih =>
    intro before enclosing rest
    rw [ih]
    rfl
  | @and ts us t u _ _ ih ih' =>
    intro before enclosing rest
    rw [List.append_assoc, ih, List.cons_append, proceed, ih']
    rfl
  | @conjunction ts t _ ih =>
    refine ⟨none, t, rfl, ?_⟩
    intro enclosing rest
    exact ih none enclosing rest
  | @or ts us t u _ _ ih ih' =>
    -- the alternatives so far are whole where the sign stands
    obtain ⟨b, v, hbv, ih⟩ := ih
    refine ⟨some t, u, rfl, ?_⟩
    intro enclosing rest
    rw [List.append_assoc, ih, List.cons_append, proceed, hbv, ih']

/-- The reader finds the tree of the grammar. -/
theorem ReadAs.read_eq {ts : List (Symbol α)} {t : Phrase α} (h : ReadAs ts t) :
    read ts = some t := by
  obtain ⟨before, u, hu, hr⟩ := h.readsOn
  have h := hr [] []
  rw [List.append_nil] at h
  rw [read, h, proceed, ← hu]
  rfl

/-- The grammar is unambiguous. -/
theorem ReadAs.unique {ts : List (Symbol α)} {t u : Phrase α} (h : ReadAs ts t)
    (h' : ReadAs ts u) : u = t :=
  Option.some.inj (h'.read_eq.symm.trans h.read_eq)

theorem ReadAs.iff_eq {ts : List (Symbol α)} {t : Phrase α} (h : ReadAs ts t) (u : Phrase α) :
    ReadAs ts u ↔ u = t := by
  constructor
  · intro h'
    exact h.unique h'
  · rintro rfl
    exact h

end DataPortal.Wire
