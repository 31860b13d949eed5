import DataPortal.Proofs.FilterText.Answering
import DataPortal.Proofs.FilterText.DateText
import DataPortal.Proofs.FilterText.Literal
import DataPortal.Proofs.Text.Percent
/-!
# Texts read back from their tokens

A token is written with a backslash before each double quote of the text, and its other
backslashes stay as they are. It is read by dropping the backslash before each double quote and
then one of each two backslashes. The first undoes what was written. The second is not undone by
anything, so pairs of adjacent backslashes are read as one, and nothing else is lost. Such a pair
is in no date, so what is refused as a date is refused in either form.
-/
namespace DataPortal.FilterText

open Query Text

/-- A text with each pair of adjacent backslashes, taken from the left without overlap, made one. -/
def collapsed : List Char → List Char
  | '\\' :: '\\' :: s => '\\' :: collapsed s
  | c :: s => c :: collapsed s
  | [] => []

theorem replacePair_eq_collapsed (s : List Char) :
    replacePair '\\' '\\' '\\' s = collapsed s := by
  fun_induction collapsed s with
  | case1 s ih => rw [replacePair_pair, ih]
  | case2 c s hpair ih =>
    rw [replacePair_cons, ih]
    by_cases hc : c = '\\'
    · refine .inr fun d hd => ?_
      rintro rfl
      obtain ⟨rest, rfl⟩ := List.head?_eq_some_iff.1 hd
      exact hpair rest hc rfl
    · exact .inl hc
  | case3 => rfl

/-! ## What collapsing leaves -/

/-- A text without such a pair is left as it is, and no other text is. -/
theorem collapsed_eq_self_iff (s : List Char) : collapsed s = s ↔ ¬['\\', '\\'] <:+: s := by
  rw [← replacePair_eq_collapsed, replacePair_eq_self_iff]

theorem mem_collapsed {s : List Char} (h : '\\' ∈ s) : '\\' ∈ collapsed s := by
  fun_induction collapsed s with
  | case1 s ih => simp
  | case2 c s hpair ih =>
    rcases List.mem_cons.1 h with rfl | h
    · simp
    · exact List.mem_cons_of_mem _ (ih h)
  | case3 => cases h

/-- A text and what is left of it are the same date, or neither is one. -/
theorem checkDate_collapsed (s : List Char) : checkDate (collapsed s) = checkDate s := by
  by_cases hpair : ['\\', '\\'] <:+: s
  · have hmem : '\\' ∈ s := hpair.subset (by simp)
    rw [checkDate_of_mem hmem (by decide), checkDate_of_mem (mem_collapsed hmem) (by decide)]
  · rw [(collapsed_eq_self_iff s).2 hpair]

/-! ## Reading a token -/

/-- The first pass undoes what was written. -/
theorem replacePair_escapeQuotes (s : List Char) :
    replacePair '\\' '"' '"' (escapeQuotes s) = s := by
  have hcons : ∀ (c : Char) (s : List Char), escapeQuotes (c :: s) =
      (if c = '"' then ['\\', '"'] else [c]) ++ escapeQuotes s := fun _ _ => rfl
  induction s with
  | nil => rfl
  | cons c s ih =>
    rw [hcons]
    by_cases hc : c = '"'
    · rw [if_pos hc, List.cons_append, List.singleton_append, replacePair_pair, ih, hc]
    · rw [if_neg hc, List.singleton_append, replacePair_cons, ih]
      -- what follows begins with no double quote that a backslash could be dropped for
      refine .inr fun d hd => ?_
      cases s with
      | nil => cases hd
      | cons c' s =>
        rw [hcons] at hd
        split at hd
        · cases hd
          decide
        · rename_i hc'
          cases hd
          exact hc'

theorem unquote_escapeQuotes (s : List Char) : unquote '"' (escapeQuotes s) = collapsed s := by
  rw [unquote, replacePair_escapeQuotes, replacePair_eq_collapsed]

theorem parseValue_quoted (body : List Char) : parseValue (quoted body) = quotedText '"' body :=
  parseValue_enclosed .double body

/-- **A token is read as its text with backslash pairs collapsed.** -/
theorem parseValue_quoted_escapeQuotes (s : List Char) :
    parseValue (quoted (escapeQuotes s)) =
      (checkDate s).map fun _ => .str (String.ofList (collapsed s)) := by
  rw [parseValue_quoted, quotedText, unquote_escapeQuotes, checkDate_collapsed]
  cases checkDate s <;> rfl

/-- **What is read back of a text.** The token of a text can be decoded. Reading what it
denotes fails exactly as the check of the text for dates does, which reports wrong input; else it
gives the text with its pairs of adjacent backslashes collapsed. So it gives the text itself just
if that has no such pair and is refused as no date. Different texts have different tokens. -/
theorem token_read_back_collapsed :
    (∀ s : String, ∃ t inner, token (.str s) = .ok t ∧ Percent.decode? t = some inner ∧
      (∀ e, parseValue inner = .error e ↔ checkDate s.toList = .error e) ∧
      (∀ e, checkDate s.toList = .error e → ∃ message hint, e = .invalidInput message hint) ∧
      (checkDate s.toList = .ok () →
        parseValue inner = .ok (.str (String.ofList (collapsed s.toList)))) ∧
      (parseValue inner = .ok (.str s) ↔
        ¬['\\', '\\'] <:+: s.toList ∧ checkDate s.toList = .ok ())) ∧
      ∀ s s' : String, token (.str s) = token (.str s') → s = s' := by
  constructor
  · intro s
    refine ⟨textToken s.toList, quoted (escapeQuotes s.toList), rfl, Percent.decode?_encode _, ?_⟩
    have hreports : ∀ e, checkDate s.toList = .error e →
        ∃ message hint, e = .invalidInput message hint := by
      intro e he
      have hanswer : Answers False (fun _ => True) (checkDate s.toList) := answers_checkDate _
      rw [he] at hanswer
      cases hanswer with
      | report message hint => exact ⟨message, hint, rfl⟩
      | tooLong h => exact h.elim
    have hself : String.ofList (collapsed s.toList) = s ↔ ¬['\\', '\\'] <:+: s.toList := by
      have hinj := @String.ofList_inj (collapsed s.toList) s.toList
      rwa [String.ofList_toList, collapsed_eq_self_iff] at hinj
    rw [parseValue_quoted_escapeQuotes]
    cases hcheck : checkDate s.toList with
    | error e =>
      rw [hcheck] at hreports
      simpa [Except.map] using hreports
    | ok u => simp [Except.map, hself]
  · intro s s' h
    have htoken : textToken s.toList = textToken s'.toList := Except.ok.inj h
    have hinner := congrArg Percent.decode? htoken
    rw [textToken, textToken, Percent.decode?_encode, Percent.decode?_encode, quoted, quoted,
      Option.some.injEq, List.append_cancel_right_eq, List.cons_inj_right] at hinner
    have hcontent := congrArg (replacePair '\\' '"' '"') hinner
    rw [replacePair_escapeQuotes, replacePair_escapeQuotes] at hcontent
    exact String.toList_injective hcontent

/-- One of a pair of backslashes is lost, and no day beyond the end of a month is read back. -/
theorem pair_and_false_date_read_back :
    checkDate "a\\\\b".toList = .ok () ∧
      (∃ t inner, token (.str "a\\\\b") = .ok t ∧ Percent.decode? t = some inner ∧
        parseValue inner = .ok (.str "a\\b")) ∧
      ∃ e, checkDate "2024-02-30".toList = .error e ∧
        ∃ t inner, token (.str "2024-02-30") = .ok t ∧ Percent.decode? t = some inner ∧
          parseValue inner = .error e := by
  obtain ⟨hread, -⟩ := token_read_back_collapsed
  refine ⟨rfl, ?_, ?_⟩
  · obtain ⟨t, inner, ht, hdecode, -, -, hvalue, -⟩ := hread "a\\\\b"
    exact ⟨t, inner, ht, hdecode, hvalue rfl⟩
  · obtain ⟨t, inner, ht, hdecode, herror, -⟩ := hread "2024-02-30"
    exact ⟨_, rfl, t, inner, ht, hdecode, (herror _).2 rfl⟩

end DataPortal.FilterText
