import DataPortal.FilterText.Literal
import DataPortal.Proofs.Number.NumeralText
import DataPortal.Proofs.Text.Trimming
/-!
# Spelled literals

Null, the truth values, integers in decimal digits, and texts between quotes: each is spelled
in the way below and is read as what it was. A text is spelled with a backslash before every
backslash and every mark of the kind that encloses it. It is unquoted in two passes, first the
marks and then the backslashes, and this undoes the spelling, since after the first pass
backslashes stand in pairs.
-/
namespace DataPortal.FilterText

/-- A mark that encloses a text. -/
inductive QuoteMark where
  | double
  | single
  deriving DecidableEq, Repr

def QuoteMark.char : QuoteMark → Char
  | .double => '"'
  | .single => '\''

/-- A character as it is spelled between marks. -/
def escapedChar (mark c : Char) : List Char :=
  if c = '\\' ∨ c = mark then ['\\', c] else [c]

/-- A text as it is spelled between marks. -/
def escaped (mark : Char) (s : List Char) : List Char :=
  s.flatMap (escapedChar mark)

/-- A text that may stand between quotes: on one line, and a date if it looks like one. -/
structure QuotedText where
  mark : QuoteMark
  content : List Char
  one_line : '\n' ∉ content
  real_date : checkDate content = .ok ()

def QuotedText.spelling (t : QuotedText) : List Char :=
  t.mark.char :: escaped t.mark.char t.content ++ [t.mark.char]

/-- An integer in decimal digits, zeros in front allowed. -/
structure Digits where
  negative : Bool
  digits : List Char
  some_digit : digits ≠ []
  all_digits : ∀ c ∈ digits, '0' ≤ c ∧ c ≤ '9'

def Digits.spelling (d : Digits) : List Char :=
  if d.negative then '-' :: d.digits else d.digits

def Digits.value (d : Digits) : Int :=
  if d.negative then -(Nat.ofDigitChars 10 d.digits 0 : Int) else Nat.ofDigitChars 10 d.digits 0

/-- A literal as a person spells it. -/
inductive Literal where
  | null
  | truth (b : Bool)
  | integer (d : Digits)
  | text (t : QuotedText)

def Literal.spelling : Literal → List Char
  | .null => "null".toList
  | .truth true => "true".toList
  | .truth false => "false".toList
  | .integer d => d.spelling
  | .text t => t.spelling

def Literal.value : Literal → Value
  | .null => .null
  | .truth b => .bool b
  | .integer d => .int d.value
  | .text t => .str (String.ofList t.content)

/-- An integer of more digits than one is read from. -/
def Literal.isTooLong : Literal → Bool
  | .integer d => decide (Text.maxDigits < d.digits.length)
  | .null | .truth _ | .text _ => false

/-- What reading a literal comes to. -/
def Literal.outcome (l : Literal) : Except Failure Value :=
  if l.isTooLong then .error .badValue else .ok l.value

/-! ## Unquoting -/

/-- A character stays where it begins no pair. -/
theorem replacePair_cons {a b r c : Char} {s : List Char} (h : c ≠ a ∨ ∀ d ∈ s.head?, d ≠ b) :
    replacePair a b r (c :: s) = c :: replacePair a b r s := by
  cases s with
  | nil => simp [replacePair]
  | cons d s =>
    have hpair : ¬(c = a ∧ d = b) := by
      rintro ⟨hc, hd⟩
      rcases h with h | h
      · exact h hc
      · exact h d rfl hd
    rw [replacePair, if_neg hpair]

theorem replacePair_pair {a b r : Char} (s : List Char) :
    replacePair a b r (a :: b :: s) = r :: replacePair a b r s := by
  rw [replacePair, if_pos ⟨rfl, rfl⟩]

/-- A text without the pair is left as it is, and one with it gets shorter. -/
theorem replacePair_cases (a b r : Char) (s : List Char) :
    (¬[a, b] <:+: s ∧ replacePair a b r s = s) ∨
      ([a, b] <:+: s ∧ (replacePair a b r s).length < s.length) := by
  fun_induction replacePair a b r s with
  | case1 => exact .inl (by simp)
  | case2 c =>
    refine .inl ⟨fun h => ?_, rfl⟩
    have hlength := h.length_le
    simp at hlength
  | case3 c d rest hpair ih =>
    obtain ⟨rfl, rfl⟩ := hpair
    refine .inr ⟨⟨[], rest, rfl⟩, ?_⟩
    rcases ih with ⟨-, hsame⟩ | ⟨-, hless⟩
    · simp [hsame]
    · simp only [List.length_cons]
      omega
  | case4 c d rest hpair ih =>
    have hbegins : ¬[a, b] <+: c :: d :: rest := by
      rintro ⟨tail, h⟩
      obtain ⟨hc, h⟩ := List.cons.inj h
      exact hpair ⟨hc.symm, (List.cons.inj h).1.symm⟩
    rcases ih with ⟨hnone, hsame⟩ | ⟨hsome, hless⟩
    · refine .inl ⟨?_, by rw [hsame]⟩
      rw [List.infix_cons_iff]
      exact not_or_intro hbegins hnone
    · refine .inr ⟨hsome.trans (List.suffix_cons ..).isInfix, ?_⟩
      simpa using hless

theorem replacePair_eq_self_iff {a b r : Char} {s : List Char} :
    replacePair a b r s = s ↔ ¬[a, b] <:+: s := by
  rcases replacePair_cases a b r s with ⟨hnone, hsame⟩ | ⟨hpair, hless⟩
  · exact iff_of_true hsame hnone
  · refine iff_of_false (fun hsame => ?_) (not_not_intro hpair)
    rw [hsame] at hless
    exact absurd hless (Nat.lt_irrefl _)

theorem length_replacePair_le (a b r : Char) (s : List Char) :
    (replacePair a b r s).length ≤ s.length := by
  rcases replacePair_cases a b r s with ⟨-, hsame⟩ | ⟨-, hless⟩
  · exact Nat.le_of_eq (congrArg List.length hsame)
  · exact Nat.le_of_lt hless

theorem length_unquote_le (mark : Char) (s : List Char) : (unquote mark s).length ≤ s.length :=
  Nat.le_trans (length_replacePair_le ..) (length_replacePair_le ..)

/-- A text that is left as it is has no backslash before the mark or another backslash. -/
theorem unquote_eq_self_iff {mark : Char} {s : List Char} :
    unquote mark s = s ↔ ¬['\\', mark] <:+: s ∧ ¬['\\', '\\'] <:+: s := by
  rw [unquote]
  constructor
  · intro h
    rcases replacePair_cases '\\' mark mark s with ⟨hnone, hsame⟩ | ⟨-, hless⟩
    · rw [hsame] at h
      exact ⟨hnone, replacePair_eq_self_iff.1 h⟩
    · -- what the first pass takes away the second one does not put back
      have hle := length_replacePair_le '\\' '\\' '\\' (replacePair '\\' mark mark s)
      rw [h] at hle
      exact absurd hle (Nat.not_le_of_lt hless)
  · rintro ⟨hmark, hpair⟩
    rw [replacePair_eq_self_iff.2 hmark, replacePair_eq_self_iff.2 hpair]

theorem unquote_of_notMem {mark : Char} {s : List Char} (h : '\\' ∉ s) : unquote mark s = s :=
  unquote_eq_self_iff.2 ⟨fun hpair => h (hpair.subset (by simp)),
    fun hpair => h (hpair.subset (by simp))⟩

/-- A spelled text does not begin with its mark: a backslash is in front of it. -/
theorem head_escaped {mark : Char} (hmark : mark ≠ '\\') (s : List Char) :
    ∀ d ∈ (escaped mark s).head?, d ≠ mark := by
  intro d hd
  cases s with
  | nil => simp [escaped] at hd
  | cons c s =>
    by_cases hc : c = '\\' ∨ c = mark
    · simp only [escaped, List.flatMap_cons, escapedChar, if_pos hc] at hd
      cases hd
      exact hmark.symm
    · simp only [escaped, List.flatMap_cons, escapedChar, if_neg hc] at hd
      cases hd
      exact fun h => hc (.inr h)

theorem escaped_cons (mark c : Char) (s : List Char) :
    escaped mark (c :: s) = escapedChar mark c ++ escaped mark s := rfl

/-- The first pass leaves the backslashes, each of them twice. -/
theorem replacePair_mark {mark : Char} (hmark : mark ≠ '\\') (s : List Char) :
    replacePair '\\' mark mark (escaped mark s) = escaped '\\' s := by
  induction s with
  | nil => rfl
  | cons c s ih =>
    rw [escaped_cons, escaped_cons]
    by_cases hback : c = '\\'
    · -- neither backslash of the pair has the mark after it
      subst hback
      simp only [escapedChar, true_or, if_true, List.cons_append, List.nil_append]
      rw [replacePair_cons (.inr fun d hd => by cases hd; exact hmark.symm),
        replacePair_cons (.inr (head_escaped hmark s)), ih]
    · by_cases hc : c = mark
      · subst hc
        simp only [escapedChar, or_true, if_true, hback, or_self, if_false, List.cons_append,
          List.nil_append]
        rw [replacePair_pair, ih]
      · simp only [escapedChar, hback, hc, or_self, if_false, List.cons_append, List.nil_append]
        rw [replacePair_cons (.inl hback), ih]

/-- The second pass halves them. -/
theorem replacePair_backslash (s : List Char) :
    replacePair '\\' '\\' '\\' (escaped '\\' s) = s := by
  induction s with
  | nil => rfl
  | cons c s ih =>
    rw [escaped_cons]
    by_cases hback : c = '\\'
    · subst hback
      simp only [escapedChar, true_or, if_true, List.cons_append, List.nil_append]
      rw [replacePair_pair, ih]
    · simp only [escapedChar, hback, or_self, if_false, List.cons_append, List.nil_append]
      rw [replacePair_cons (.inl hback), ih]

/-- **Unquoting undoes the spelling**, whatever backslashes and marks are in the text. -/
theorem unquote_escaped {mark : Char} (hmark : mark ≠ '\\') (s : List Char) :
    unquote mark (escaped mark s) = s := by
  rw [unquote, replacePair_mark hmark, replacePair_backslash]

theorem QuoteMark.char_ne_backslash (m : QuoteMark) : m.char ≠ '\\' := by
  cases m <;> decide

/-! ## How a spelling begins and ends -/

/-- A character that may begin or end a literal: no white space, and no sign that would be
taken with the comparison before it. -/
def isEdge (c : Char) : Bool :=
  !Text.isBlank c && c != '='

theorem ne_of_digit {c k : Char} (h : '0' ≤ c ∧ c ≤ '9') (hk : ¬('0' ≤ k ∧ k ≤ '9')) :
    c ≠ k := by
  rintro rfl
  exact hk h

theorem isEdge_digit {c : Char} (h : '0' ≤ c ∧ c ≤ '9') : isEdge c = true := by
  have hlow : 48 ≤ c.toNat := h.1
  have hhigh : c.toNat ≤ 57 := h.2
  simp only [isEdge, Text.isBlank, Bool.and_eq_true, bne_iff_ne]
  refine ⟨?_, ne_of_digit h (by decide)⟩
  simp
  omega

theorem QuoteMark.isEdge_char (m : QuoteMark) : isEdge m.char = true := by
  cases m <;> decide

/-- Characters at whose ends a literal may begin and end. -/
structure HasEdges (s : List Char) : Prop where
  ne_nil : s ≠ []
  head : ∀ c ∈ s.head?, isEdge c = true
  last : ∀ c ∈ s.getLast?, isEdge c = true

theorem HasEdges.trimmed {s : List Char} (h : HasEdges s) : Text.IsTrimmed s := by
  have hblank : ∀ c, isEdge c = true → Text.isBlank c = false := by
    intro c hc
    simp only [isEdge, Bool.and_eq_true, Bool.not_eq_true'] at hc
    exact hc.1
  exact ⟨h.ne_nil, fun c hc => hblank c (h.head c hc), fun c hc => hblank c (h.last c hc)⟩

theorem QuotedText.hasEdges (t : QuotedText) : HasEdges t.spelling := by
  refine ⟨by simp [spelling], ?_, ?_⟩ <;> intro c hc
  · cases hc
    exact t.mark.isEdge_char
  · simp only [spelling, List.getLast?_concat, Option.mem_def, Option.some.injEq] at hc
    cases hc
    exact t.mark.isEdge_char

theorem hasEdges_of_all {s : List Char} (hne : s ≠ []) (h : s.all isEdge = true) :
    HasEdges s := by
  rw [List.all_eq_true] at h
  refine ⟨hne, ?_, ?_⟩ <;> intro c hc
  · exact h c (List.mem_of_mem_head? hc)
  · exact h c (List.mem_of_mem_getLast? hc)

theorem Digits.hasEdges (d : Digits) : HasEdges d.spelling := by
  have hdigits : HasEdges d.digits := by
    apply hasEdges_of_all d.some_digit
    rw [List.all_eq_true]
    intro c hc
    exact isEdge_digit (d.all_digits c hc)
  unfold spelling
  split
  · refine ⟨by simp, ?_, ?_⟩ <;> intro c hc
    · cases hc
      decide
    · rw [List.getLast?_cons_of_ne_nil d.some_digit] at hc
      exact hdigits.last c hc
  · exact hdigits

theorem Literal.hasEdges (l : Literal) : HasEdges l.spelling := by
  cases l with
  | null => exact hasEdges_of_all (by decide) rfl
  | truth b => cases b <;> exact hasEdges_of_all (by decide) rfl
  | integer d => exact d.hasEdges
  | text t => exact t.hasEdges

/-- A spelling stays on one line. -/
theorem Literal.one_line (l : Literal) : '\n' ∉ l.spelling := by
  cases l with
  | null => decide
  | truth b => cases b <;> decide
  | integer d =>
    have hdigits : '\n' ∉ d.digits := by
      intro h
      exact absurd (d.all_digits _ h) (by decide)
    rw [spelling, Digits.spelling]
    split <;> simp [hdigits]
  | text t =>
    have hmark : '\n' ≠ t.mark.char := by cases t.mark <;> decide
    have hescaped : '\n' ∉ escaped t.mark.char t.content := by
      intro h
      obtain ⟨c, hc, h⟩ := List.mem_flatMap.1 h
      have hcontent : c ≠ '\n' := fun h => t.one_line (h ▸ hc)
      unfold escapedChar at h
      split at h <;> simp [hcontent.symm] at h
    simp [spelling, QuotedText.spelling, hmark, hescaped]

/-! ## Reading a spelling -/

theorem between?_enclosed (mark : Char) (inner : List Char) :
    between? mark (mark :: inner ++ [mark]) = some inner := by
  simp [between?]

theorem between?_ne {mark c : Char} (h : c ≠ mark) (s : List Char) :
    between? mark (c :: s) = none := by
  simp [between?, h]

/-- A text that begins like no keyword is read by its quotes. -/
theorem parseTrimmed_cons {c : Char} (hc : c ∉ ['n', 't', 'f']) (s : List Char) :
    parseTrimmed (c :: s) =
      match between? '"' (c :: s), between? '\'' (c :: s) with
      | some inner, _ => quotedText '"' inner
      | none, some inner => quotedText '\'' inner
      | none, none => bareText (c :: s) := by
  have hhead : ∀ k ∈ ['n', 't', 'f'], ∀ word, c :: s ≠ k :: word := by
    intro k hk word h
    exact hc ((List.cons.inj h).1 ▸ hk)
  have hnull : c :: s ≠ "null".toList := hhead 'n' (by decide) _
  have htrue : c :: s ≠ "true".toList := hhead 't' (by decide) _
  have hfalse : c :: s ≠ "false".toList := hhead 'f' (by decide) _
  exact (if_neg hnull).trans ((if_neg htrue).trans (if_neg hfalse))

/-- What stands between two equal marks is unquoted. -/
theorem parseTrimmed_enclosed (m : QuoteMark) (inner : List Char) :
    parseTrimmed (m.char :: inner ++ [m.char]) = quotedText m.char inner := by
  have hbetween := between?_enclosed m.char inner
  rw [List.cons_append] at hbetween ⊢
  rw [parseTrimmed_cons (by cases m <;> decide)]
  cases m with
  | double =>
    simp only [QuoteMark.char] at hbetween ⊢
    rw [hbetween]
  | single =>
    simp only [QuoteMark.char] at hbetween ⊢
    rw [between?_ne (by decide), hbetween]

theorem parseValue_enclosed (m : QuoteMark) (inner : List Char) :
    parseValue (m.char :: inner ++ [m.char]) = quotedText m.char inner := by
  have hmark : Text.IsTrimmed [m.char] := .singleton (by cases m <;> decide)
  have htrimmed : Text.IsTrimmed (m.char :: inner ++ [m.char]) := hmark.append hmark
  rw [parseValue, htrimmed.strip_eq, parseTrimmed_enclosed]

theorem parseTrimmed_text (t : QuotedText) :
    parseTrimmed t.spelling = .ok (.str (String.ofList t.content)) := by
  rw [QuotedText.spelling, parseTrimmed_enclosed, quotedText,
    unquote_escaped t.mark.char_ne_backslash, t.real_date]
  rfl

theorem read?_digits (d : Digits) :
    Numeral.read? d.spelling = some ⟨d.negative, d.digits, none, none⟩ := by
  have hwritten : Numeral.IsWritten ⟨d.negative, d.digits, none, none⟩ := by
    refine ⟨d.some_digit, fun c hc => ?_, by simp, by simp⟩
    exact Text.isDigit_iff_ascii.2 (d.all_digits c hc)
  have htext : d.spelling = Numeral.text ⟨d.negative, d.digits, none, none⟩ := by
    unfold Digits.spelling Numeral.text
    split <;> simp [Numeral.pointText, Numeral.exponentText, *]
  rw [htext, Numeral.read?_text hwritten]

theorem parseTrimmed_integer (d : Digits) :
    parseTrimmed d.spelling = (Literal.integer d).outcome := by
  have hbare : bareText d.spelling = (Literal.integer d).outcome := by
    rw [bareText, read?_digits]
    simp only [numberOf, Numeral.isTooLong, Numeral.isWhole, Numeral.toInt, Option.isNone_none,
      Bool.true_and, Bool.and_self, if_true, Text.digitsValue_ascii d.all_digits,
      Literal.outcome, Literal.isTooLong, Literal.value, Digits.value]
    rfl
  obtain ⟨c, s, hs, hc⟩ : ∃ c s, d.spelling = c :: s ∧ (c = '-' ∨ ('0' ≤ c ∧ c ≤ '9')) := by
    unfold Digits.spelling
    split
    · exact ⟨'-', d.digits, rfl, .inl rfl⟩
    · obtain ⟨c, ds, hds⟩ := List.exists_cons_of_ne_nil d.some_digit
      exact ⟨c, ds, hds, .inr (d.all_digits c (by simp [hds]))⟩
  -- so it begins neither like a keyword nor with a mark
  have hne : ∀ k, (k ≠ '-' ∧ ¬('0' ≤ k ∧ k ≤ '9')) → c ≠ k := by
    rintro k ⟨hminus, hdigit⟩ rfl
    exact hc.elim hminus hdigit
  have hkeyword : c ∉ ['n', 't', 'f'] := by
    simp [hne 'n' (by decide), hne 't' (by decide), hne 'f' (by decide)]
  rw [hs] at hbare ⊢
  rw [parseTrimmed_cons hkeyword, between?_ne (hne '"' (by decide)),
    between?_ne (hne '\'' (by decide))]
  exact hbare

/-- A literal is read as what it was, unless it is an integer that is too long. -/
theorem parseTrimmed_spelling (l : Literal) : parseTrimmed l.spelling = l.outcome := by
  cases l with
  | null => rfl
  | truth b => cases b <;> rfl
  | integer d => exact parseTrimmed_integer d
  | text t => exact parseTrimmed_text t

theorem parseValue_padded {before after : List Char}
    (hbefore : ∀ c ∈ before, Text.isBlank c = true) (l : Literal)
    (hafter : ∀ c ∈ after, Text.isBlank c = true) :
    parseValue (before ++ l.spelling ++ after) = l.outcome := by
  rw [parseValue, Text.strip_padded hbefore l.hasEdges.trimmed hafter, parseTrimmed_spelling]

theorem parseValue_spelling (l : Literal) : parseValue l.spelling = l.outcome := by
  have h := @parseValue_padded [] [] (by simp) l (by simp)
  rwa [List.nil_append, List.append_nil] at h

/-- An integer of so many ones. -/
def ones (count : Nat) (h : 0 < count) : Digits :=
  ⟨false, List.replicate count '1', by simp; omega, by
    intro c hc
    rw [List.eq_of_mem_replicate hc]
    decide⟩

/-- One digit more than an integer may have. -/
def tooManyOnes : Literal :=
  .integer (ones (Text.maxDigits + 1) (by decide))

theorem isTooLong_tooManyOnes : tooManyOnes.isTooLong = true := by
  rw [tooManyOnes, Literal.isTooLong, ones, List.length_replicate]
  decide

end DataPortal.FilterText
