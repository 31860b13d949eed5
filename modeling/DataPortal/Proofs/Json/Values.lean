import DataPortal.Json.Reader
import DataPortal.Proofs.Outcome
import Mathlib.Tactic.SplitIfs
/-!
# The values of JSON

What is read from a JSON text is an atom, a list, or an object whose keys are texts, and so is
everything inside. The reader keeps to that in what it holds while lists and objects are open.
-/
namespace DataPortal.Json

/-- A value that holds no other. -/
def isAtom : Value → Bool
  | .null | .bool _ | .int _ | .float _ | .str _ | .broken _ => true
  | _ => false

/-- A value that JSON has. -/
inductive IsJson : Value → Prop
  | atom {v : Value} (h : isAtom v = true) : IsJson v
  | list {items : List Value} (h : ∀ v ∈ items, IsJson v) : IsJson (.list items)
  | object {entries : List (Value × Value)} (hkeys : ∀ e ∈ entries, e.1.text?.isSome = true)
      (hvalues : ∀ e ∈ entries, IsJson e.2) : IsJson (.dict entries)

/-- Entries that a JSON object has. -/
def AreEntries (entries : List (Value × Value)) : Prop :=
  ∀ e ∈ entries, e.1.text?.isSome = true ∧ IsJson e.2

variable {items : List Value} {entries : List (Value × Value)} {key v : Value}

theorem isJson_list : IsJson (.list items) ↔ ∀ v ∈ items, IsJson v := by
  constructor
  · intro h
    cases h with
    | atom h => cases h
    | list h => exact h
  · exact .list

theorem isJson_dict : IsJson (.dict entries) ↔ AreEntries entries := by
  constructor
  · intro h
    cases h with
    | atom h => cases h
    | object hkeys hvalues => exact fun e he => ⟨hkeys e he, hvalues e he⟩
  · exact fun h => .object (fun e he => (h e he).1) fun e he => (h e he).2

/-! ## Tokens -/

theorem isAtom_of_atomValue? {s : List Char} (h : atomValue? s = some v) : isAtom v = true := by
  rw [atomValue?] at h
  split_ifs at h
  case neg =>
    split at h
    · split_ifs at h
      · cases h
        rfl
      · cases h
        rfl
    · cases h
  all_goals
    cases h
    rfl

/-- A mark, or an atom. -/
def Token.IsPlain (t : Token) : Prop :=
  ∀ v, t = .scalar v → isAtom v = true

theorem isPlain_of_mark? {c : Char} {t : Token} (h : mark? c = some t) : t.IsPlain := by
  rintro v rfl
  unfold mark? at h
  split at h <;> cases h

theorem isPlain_scalar (h : isAtom v = true) : (Token.scalar v).IsPlain := by
  intro v' heq
  cases heq
  exact h

theorem isPlain_fault (f : Failure) : (Token.fault f).IsPlain := by
  rintro v ⟨⟩

theorem isPlain_atomToken (s : List Char) : (atomToken s).IsPlain := by
  rw [atomToken]
  split
  · exact isPlain_fault _
  · split
    · rename_i hv
      exact isPlain_scalar (isAtom_of_atomValue? hv)
    · exact isPlain_fault _

theorem isAtom_textValue (read : List Written) : isAtom (textValue read) = true := by
  rw [textValue, Value.ofPoints]
  generalize LooseText.ofPoints _ = t
  cases t <;> rfl

/-- What holds of the tokens of every text: of none, of a fault, and then of a text with one more
code point, and of tokens with one more of them in front. -/
theorem tokens_induction {P : List Token → List CodePoint → Prop} (nil : P [] [])
    (fault : ∀ s, P [.fault .notJson] s) (skip : ∀ {ts p s}, P ts s → P ts (p :: s))
    (atom : ∀ {ts s} read, P ts s → P (atomToken read :: ts) s)
    (text : ∀ {ts s} read, P ts s → P (.scalar (textValue read) :: ts) s)
    (mark : ∀ {ts s c m}, mark? c = some m → P ts s → P (m :: ts) (.char c :: s))
    (place : Place) (s : List CodePoint) : P (tokens place s) s := by
  -- on the code points left, for every place at once
  induction s generalizing place with
  | nil =>
    cases place with
    | between => exact nil
    | atom read => exact atom _ nil
    | _ => exact fault []
  | cons p rest ih =>
    have hmore := fun place => skip (p := p) (ih place)
    cases place with
    | between =>
      cases p with
      | surrogate k => exact fault _
      | char c =>
        rw [tokens]
        split_ifs
        · exact hmore _
        · exact hmore _
        · exact hmore _
        · split
          · rename_i hm
            exact mark hm (ih _)
          · exact fault _
    | atom read =>
      cases p with
      | surrogate k => exact atom _ (fault _)
      | char c =>
        rw [tokens]
        split_ifs
        · exact hmore _
        · exact atom _ (hmore _)
        · split
          · rename_i hm
            exact atom _ (mark hm (ih _))
          · exact atom _ (fault _)
    | text read =>
      rw [tokens]
      split_ifs
      · exact text _ (hmore _)
      · exact hmore _
      · exact fault _
      · exact hmore _
    | escape read =>
      cases p with
      | surrogate k => exact fault _
      | char c =>
        rw [tokens]
        split_ifs
        · exact hmore _
        · split
          · exact hmore _
          · exact fault _
    | codePoint left code read =>
      cases p with
      | surrogate k => exact fault _
      | char c =>
        rw [tokens]
        split
        · split
          · exact hmore _
          · exact hmore _
        · exact fault _

theorem isPlain_of_mem_tokens (place : Place) (s : List CodePoint) :
    ∀ t ∈ tokens place s, t.IsPlain := by
  apply tokens_induction (P := fun ts _ => ∀ t ∈ ts, t.IsPlain)
  case nil => simp
  case fault => simpa using isPlain_fault _
  case skip => exact fun h => h
  case atom => exact fun read h => List.forall_mem_cons.2 ⟨isPlain_atomToken read, h⟩
  case text =>
    exact fun read h => List.forall_mem_cons.2 ⟨isPlain_scalar (isAtom_textValue read), h⟩
  case mark => exact fun hm h => List.forall_mem_cons.2 ⟨isPlain_of_mark? hm, h⟩

/-! ## Objects -/

theorem AreEntries.insert (h : AreEntries entries) (hkey : key.text?.isSome = true)
    (hv : IsJson v) : AreEntries (Value.insert key v entries) := by
  induction entries with
  | nil =>
    intro e he
    rw [List.mem_singleton.1 he]
    exact ⟨hkey, hv⟩
  | cons e rest ih =>
    obtain ⟨he, hrest⟩ := List.forall_mem_cons.1 h
    obtain ⟨k, old⟩ := e
    rw [Value.insert]
    split_ifs
    · exact List.forall_mem_cons.2 ⟨⟨he.1, hv⟩, hrest⟩
    · exact List.forall_mem_cons.2 ⟨he, ih hrest⟩

theorem AreEntries.cons (h : AreEntries entries) (hkey : key.text?.isSome = true)
    (hv : IsJson v) : AreEntries ((key, v) :: entries) :=
  List.forall_mem_cons.2 ⟨⟨hkey, hv⟩, h⟩

theorem AreEntries.reverse (h : AreEntries entries) : AreEntries entries.reverse :=
  fun e he => h e (List.mem_reverse.1 he)

/-- Entries with repeated keys make an object. -/
theorem isJson_object (h : AreEntries entries) : IsJson (Value.object entries) := by
  have hfold : ∀ pairs old, AreEntries pairs → AreEntries old →
      AreEntries (pairs.foldl (fun entries pair => Value.insert pair.1 pair.2 entries) old) := by
    intro pairs
    induction pairs with
    | nil => exact fun old _ hold => hold
    | cons pair pairs ih =>
      intro old hpairs hold
      obtain ⟨⟨hkey, hv⟩, hpairs⟩ := List.forall_mem_cons.1 hpairs
      rw [List.foldl_cons]
      exact ih _ hpairs (hold.insert hkey hv)
  exact isJson_dict.2 (hfold entries [] h (by simp [AreEntries]))

/-! ## The reader -/

/-- What is held of an open list or object. -/
def Frame.IsPart : Frame → Prop
  | .list items => ∀ v ∈ items, IsJson v
  | .object entries key => AreEntries entries ∧ key.text?.isSome = true

/-- What is held of what comes next. -/
def Expecting.IsPart : Expecting → Prop
  | .value _ => True
  | .key entries _ => AreEntries entries
  | .colon entries key => AreEntries entries ∧ key.text?.isSome = true
  | .more v => IsJson v

/-- All that the reader holds are values that JSON has. -/
structure State.Sound (s : State) : Prop where
  stack : ∀ f ∈ s.stack, f.IsPart
  expecting : s.expecting.IsPart

/-- Reading a token keeps to that. -/
theorem State.Sound.read {room : Nat} {s s' : State} {t : Token} (h : s.Sound) (ht : t.IsPlain)
    (hread : s.read room t = .ok s') : s'.Sound := by
  obtain ⟨stack, expecting⟩ := s
  obtain ⟨hstack, hexpecting⟩ := h
  unfold State.read at hread
  dsimp only at hstack hexpecting hread
  split at hread
  · -- an atom where a value may stand
    cases hread
    exact ⟨hstack, .atom (ht _ rfl)⟩
  · cases hread
  · -- an opened list
    split at hread
    · cases hread
      exact ⟨List.forall_mem_cons.2 ⟨by simp [Frame.IsPart], hstack⟩, trivial⟩
    · cases hread
  · -- an opened object
    split at hread
    · cases hread
      exact ⟨hstack, by simp [Expecting.IsPart, AreEntries]⟩
    · cases hread
  · -- the end of an empty list
    split at hread
    · cases hread
      obtain ⟨hitems, houter⟩ := List.forall_mem_cons.1 hstack
      exact ⟨houter, .list fun v hv => hitems v (List.mem_reverse.1 hv)⟩
    · cases hread
  · -- a key
    split at hread
    · rename_i hkey
      cases hread
      exact ⟨hstack, hexpecting, hkey⟩
    · cases hread
  · -- the end of an empty object
    cases hread
    exact ⟨hstack, isJson_object hexpecting.reverse⟩
  · -- the colon after a key
    cases hread
    exact ⟨List.forall_mem_cons.2 ⟨hexpecting, hstack⟩, trivial⟩
  · -- a comma
    split at hread
    · cases hread
      obtain ⟨hitems, houter⟩ := List.forall_mem_cons.1 hstack
      have hmore : (Frame.list (_ :: _)).IsPart := List.forall_mem_cons.2 ⟨hexpecting, hitems⟩
      exact ⟨List.forall_mem_cons.2 ⟨hmore, houter⟩, trivial⟩
    · cases hread
      obtain ⟨hentries, houter⟩ := List.forall_mem_cons.1 hstack
      exact ⟨houter, hentries.1.cons hentries.2 hexpecting⟩
    · cases hread
  · -- the end of a list
    split at hread
    · cases hread
      obtain ⟨hitems, houter⟩ := List.forall_mem_cons.1 hstack
      have hall : (Frame.list (_ :: _)).IsPart := List.forall_mem_cons.2 ⟨hexpecting, hitems⟩
      exact ⟨houter, .list fun v hv => hall v (List.mem_reverse.1 hv)⟩
    · cases hread
  · -- the end of an object
    split at hread
    · cases hread
      obtain ⟨hentries, houter⟩ := List.forall_mem_cons.1 hstack
      exact ⟨houter, isJson_object (hentries.1.cons hentries.2 hexpecting).reverse⟩
    · cases hread
  · cases hread

theorem isJson_of_valueOfTokens {room : Nat} {s : State} {ts : List Token} (h : s.Sound)
    (hts : ∀ t ∈ ts, t.IsPlain) (hvalue : valueOfTokens room s ts = .ok v) : IsJson v := by
  induction ts generalizing s with
  | nil =>
    rw [valueOfTokens] at hvalue
    split at hvalue
    · rename_i hmore
      cases hvalue
      have hexpecting := h.expecting
      rwa [hmore] at hexpecting
    · cases hvalue
  | cons t rest ih =>
    obtain ⟨ht, hrest⟩ := List.forall_mem_cons.1 hts
    rw [valueOfTokens] at hvalue
    obtain ⟨s', hread, hvalue⟩ := Outcome.bind_eq_ok.1 hvalue
    exact ih (h.read ht hread) hrest hvalue

/-- What is read is a value that JSON has. -/
theorem isJson_of_read {room : Nat} {s : List CodePoint} (h : read room s = .ok v) : IsJson v := by
  have hstart : State.Sound ⟨[], .value false⟩ := ⟨by simp, trivial⟩
  exact isJson_of_valueOfTokens hstart (isPlain_of_mem_tokens _ _) h

end DataPortal.Json
