import DataPortal.Proofs.Json.Values
/-!
# Open lists and objects

A text is too deep only where it opens more lists and objects than there is room for. So one with
few brackets is read, or fails in another way, and one that begins with many is not read at all.
-/
namespace DataPortal.Json

/-- A token that opens a list or an object. -/
def Token.isOpening : Token → Bool
  | .openList | .openObject => true
  | _ => false

/-- A code point that opens a list or an object where it is a mark. -/
def isOpeningPoint (p : CodePoint) : Bool :=
  p = .char '[' || p = .char '\x7b'

variable {room : Nat}

/-! ## Tokens -/

theorem isOpeningPoint_of_mark? {c : Char} {t : Token} (h : mark? c = some t)
    (hopening : t.isOpening = true) : isOpeningPoint (.char c) = true := by
  unfold mark? at h
  split at h <;> cases h <;> first | rfl | cases hopening

theorem isOpening_atomToken (s : List Char) : (atomToken s).isOpening = false := by
  rw [atomToken]
  split
  · rfl
  · split <;> rfl

/-- No more lists and objects are opened than there are brackets that may open them. -/
theorem countP_tokens_le (place : Place) (s : List CodePoint) :
    (tokens place s).countP Token.isOpening ≤ s.countP isOpeningPoint := by
  apply tokens_induction (P := fun ts s => ts.countP Token.isOpening ≤ s.countP isOpeningPoint)
  case nil => exact Nat.le_refl 0
  case fault => exact fun s => Nat.zero_le _
  case skip =>
    intro ts p s h
    rw [List.countP_cons]
    omega
  case atom =>
    intro ts s read h
    rwa [List.countP_cons_of_neg (by simp [isOpening_atomToken])]
  case text =>
    intro ts s read h
    rwa [List.countP_cons_of_neg (by simp [Token.isOpening])]
  case mark =>
    intro ts s c m hm h
    rw [List.countP_cons, List.countP_cons]
    by_cases hopening : m.isOpening = true
    · rw [if_pos hopening, if_pos (isOpeningPoint_of_mark? hm hopening)]
      omega
    · rw [if_neg hopening]
      omega

/-- What is said of a place that cannot be read: it is no JSON, or an integer that is too long. -/
def IsFault (f : Failure) : Prop :=
  f = .notJson ∨ f = .badValue

theorem isFault_of_atomToken {s : List Char} {f : Failure} (h : .fault f = atomToken s) :
    IsFault f := by
  rw [atomToken] at h
  split at h
  · cases h
    exact .inr rfl
  · split at h <;> cases h
    exact .inl rfl

theorem isFault_of_mem_tokens (place : Place) (s : List CodePoint) {f : Failure} :
    .fault f ∈ tokens place s → IsFault f := by
  apply tokens_induction (P := fun ts _ => .fault f ∈ ts → IsFault f)
  case nil => simp
  case fault => simpa using .inl
  case skip => exact fun h => h
  case atom => exact fun read h hf => (List.mem_cons.1 hf).elim isFault_of_atomToken h
  case text => simp
  case mark =>
    intro ts s c m hm h hf
    refine h ((List.mem_cons.1 hf).resolve_left ?_)
    rintro rfl
    unfold mark? at hm
    split at hm <;> cases hm

/-- The cutting itself finds nothing too deep. -/
theorem not_tooDeep_mem_tokens (place : Place) (s : List CodePoint) :
    .fault .tooDeep ∉ tokens place s := by
  intro h
  obtain h | h := isFault_of_mem_tokens place s h <;> cases h

/-! ## The stack -/

/-- What is left to be put on the stack: an object goes there once the value of a key is due. -/
def Expecting.pending : Expecting → Nat
  | .key .. | .colon .. => 1
  | _ => 0

/-- How many lists and objects are open. -/
def State.depth (s : State) : Nat :=
  s.stack.length + s.expecting.pending

/-- A token opens one list or object at most. -/
theorem State.depth_read {s s' : State} {t : Token} (h : s.read room t = .ok s') :
    s'.depth ≤ s.depth + if t.isOpening then 1 else 0 := by
  obtain ⟨stack, expecting⟩ := s
  unfold State.read at h
  dsimp only at h
  split at h <;> try split at h
  all_goals cases h
  all_goals
    simp only [State.depth, Expecting.pending, List.length_cons, Token.isOpening, if_true]
    omega

/-- A token is too deep only where it opens one more list or object than there is room for. -/
theorem State.room_le_of_read {s : State} {t : Token} (ht : t ≠ .fault .tooDeep)
    (h : s.read room t = .error .tooDeep) : room ≤ s.depth ∧ t.isOpening = true := by
  obtain ⟨stack, expecting⟩ := s
  unfold State.read at h
  dsimp only at h
  split at h <;> try split at h
  all_goals cases h
  · exact absurd rfl ht
  all_goals
    refine ⟨?_, rfl⟩
    simp only [State.depth, Expecting.pending]
    omega

/-- So what is too deep opens more of them, over all its tokens, than there is room for. -/
theorem lt_of_valueOfTokens {s : State} {ts : List Token} (hts : .fault .tooDeep ∉ ts)
    (h : valueOfTokens room s ts = .error .tooDeep) :
    room < s.depth + ts.countP Token.isOpening := by
  induction ts generalizing s with
  | nil =>
    rw [valueOfTokens] at h
    split at h <;> cases h
  | cons t rest ih =>
    obtain ⟨ht, hrest⟩ := List.ne_and_not_mem_of_not_mem_cons hts
    rw [valueOfTokens] at h
    rw [List.countP_cons]
    cases hread : s.read room t with
    | error f =>
      rw [hread] at h
      cases h
      obtain ⟨hroom, hopening⟩ := State.room_le_of_read ht.symm hread
      rw [if_pos hopening]
      omega
    | ok s' =>
      rw [hread] at h
      have hrun := ih hrest h
      have hstep := State.depth_read hread
      omega

/-- Reading a token fails by its fault, or its depth, or for it cannot stand there. -/
theorem State.failure_of_read {s : State} {t : Token} {f : Failure}
    (h : s.read room t = .error f) : t = .fault f ∨ f = .tooDeep ∨ f = .notJson := by
  obtain ⟨stack, expecting⟩ := s
  unfold State.read at h
  dsimp only at h
  split at h <;> try split at h
  all_goals cases h
  all_goals simp

theorem failure_of_valueOfTokens {s : State} {ts : List Token} {f : Failure}
    (h : valueOfTokens room s ts = .error f) : .fault f ∈ ts ∨ f = .tooDeep ∨ f = .notJson := by
  induction ts generalizing s with
  | nil =>
    rw [valueOfTokens] at h
    split at h <;> cases h
    exact .inr (.inr rfl)
  | cons t rest ih =>
    rw [valueOfTokens] at h
    cases hread : s.read room t with
    | error f' =>
      rw [hread] at h
      cases h
      exact (State.failure_of_read hread).imp_left fun ht => List.mem_cons.2 (.inl ht.symm)
    | ok s' =>
      rw [hread] at h
      exact (ih h).imp_left (List.mem_cons_of_mem t)

/-- The failures of reading a text. -/
theorem failure_of_read {s : List CodePoint} {f : Failure} (h : read room s = .error f) :
    IsFault f ∨ f = .tooDeep := by
  obtain h | h | h := failure_of_valueOfTokens h
  · exact .inl (isFault_of_mem_tokens _ _ h)
  · exact .inr h
  · exact .inl (.inl h)

/-- A text with no more opening brackets than there is room for is not too deep. -/
theorem read_ne_tooDeep {s : List CodePoint} (h : s.countP isOpeningPoint ≤ room) :
    read room s ≠ .error .tooDeep := by
  intro hread
  have hlt := lt_of_valueOfTokens (not_tooDeep_mem_tokens _ _) hread
  have hle := countP_tokens_le .between s
  simp only [State.depth, Expecting.pending, List.length_nil] at hlt
  omega

/-! ## Brackets in one another -/

/-- Lists that begin one in the other. -/
def brackets (n : Nat) : List CodePoint :=
  List.replicate n (.char '[')

theorem tokens_brackets (n : Nat) (rest : List CodePoint) :
    tokens .between (brackets n ++ rest) = List.replicate n .openList ++ tokens .between rest := by
  induction n with
  | zero => rfl
  | succ n ih =>
    have hcons : tokens .between (.char '[' :: (brackets n ++ rest)) =
        .openList :: tokens .between (brackets n ++ rest) := rfl
    rw [brackets, List.replicate_succ, List.cons_append, ← brackets, hcons, ih,
      List.replicate_succ, List.cons_append]

/-- On more lists than there is room for, one in the other, the reader stops. -/
theorem valueOfTokens_replicate {stack : List Frame} {orEnd : Bool} {n : Nat} (rest : List Token)
    (h : room < stack.length + n) (hstack : stack.length ≤ room) :
    valueOfTokens room ⟨stack, .value orEnd⟩ (List.replicate n .openList ++ rest) =
      .error .tooDeep := by
  induction n generalizing stack orEnd with
  | zero => omega
  | succ n ih =>
    have hread : State.read room ⟨stack, .value orEnd⟩ .openList =
        if stack.length < room then .ok ⟨.list [] :: stack, .value true⟩ else .error .tooDeep := by
      cases orEnd <;> rfl
    rw [List.replicate_succ, List.cons_append, valueOfTokens, hread]
    by_cases hroom : stack.length < room
    · rw [if_pos hroom]
      exact ih (by rw [List.length_cons]; omega) (by rw [List.length_cons]; omega)
    · rw [if_neg hroom]
      rfl

/-- A text that begins with more lists than there is room for, one in the other, is too deep,
whatever follows. -/
theorem read_brackets {n : Nat} (h : room < n) (rest : List CodePoint) :
    read room (brackets n ++ rest) = .error .tooDeep := by
  rw [read, tokens_brackets]
  exact valueOfTokens_replicate _ (by simpa using h) (Nat.zero_le room)

end DataPortal.Json
