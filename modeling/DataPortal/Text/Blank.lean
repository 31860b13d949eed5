/-!
# White space

The characters that separate words, and the two operations that depend on them:
trimming a text and cutting it into words. Texts are lists of characters, so every
function here is structural and each fact about it is an induction.
-/
namespace DataPortal.Text

/-- White space of every script: tab to carriage return, the four information
separators, the space, next line, no-break space, and the Unicode space
separators. Zero-width characters and the byte order mark are no white space. -/
def isBlank (c : Char) : Bool :=
  let n := c.toNat
  (9 ≤ n && n ≤ 13) || (28 ≤ n && n ≤ 32) || n == 0x85 || n == 0xA0 || n == 0x1680 ||
    (0x2000 ≤ n && n ≤ 0x200A) || n == 0x2028 || n == 0x2029 || n == 0x202F ||
    n == 0x205F || n == 0x3000

/-- The text without the white space it starts with. -/
def stripStart (s : List Char) : List Char :=
  s.dropWhile isBlank

/-- The text without the characters of one class that it ends with. -/
def dropEndWhile (p : Char → Bool) (s : List Char) : List Char :=
  (s.reverse.dropWhile p).reverse

/-- The text without white space at either end. -/
def strip (s : List Char) : List Char :=
  dropEndWhile isBlank (stripStart s)

/-- The white space that may surround a number: all but the information separators. -/
def isPadding (c : Char) : Bool :=
  isBlank c && !(28 ≤ c.toNat && c.toNat ≤ 31)

/-- The text without the padding at its ends. -/
def trimPadding (s : List Char) : List Char :=
  dropEndWhile isPadding (s.dropWhile isPadding)

/-- The pieces between separators: `n` separators make `n + 1` pieces, some of
which may be empty. -/
def pieces {α : Type} (separates : α → Bool) : List α → List (List α)
  | [] => [[]]
  | c :: rest =>
    if separates c then [] :: pieces separates rest
    else
      match pieces separates rest with
      | [] => [[c]]
      | piece :: more => (c :: piece) :: more

/-- The non-empty pieces between separators. -/
def nonemptyPieces {α : Type} (separates : α → Bool) (s : List α) : List (List α) :=
  (pieces separates s).filter (fun piece => !piece.isEmpty)

/-- The maximal runs of characters that are no white space. -/
def words (s : List Char) : List (List Char) :=
  nonemptyPieces isBlank s

/-! ## What the operations keep -/

variable {α : Type}

theorem pieces_ne_nil (separates : α → Bool) (s : List α) :
    pieces separates s ≠ [] := by
  cases s with
  | nil => simp [pieces]
  | cons c rest =>
    simp only [pieces]
    split
    · simp
    · split <;> simp

/-- No separator is left inside a piece. -/
theorem not_separates_of_mem_pieces {separates : α → Bool} {s piece : List α}
    (h : piece ∈ pieces separates s) : ∀ c ∈ piece, separates c = false := by
  induction s generalizing piece with
  | nil =>
    simp only [pieces, List.mem_singleton] at h
    simp [h]
  | cons c rest ih =>
    simp only [pieces] at h
    by_cases hc : separates c = true
    · simp only [hc, if_true, List.mem_cons] at h
      rcases h with rfl | h
      · simp
      · exact ih h
    · simp only [hc, Bool.false_eq_true, if_false] at h
      cases hp : pieces separates rest with
      | nil => exact absurd hp (pieces_ne_nil _ _)
      | cons first more =>
        rw [hp] at h ih
        simp only [List.mem_cons] at h
        rcases h with rfl | h
        · intro d hd
          rcases List.mem_cons.1 hd with rfl | hd
          · simpa using hc
          · exact ih (List.mem_cons_self ..) d hd
        · exact ih (List.mem_cons_of_mem _ h)

end DataPortal.Text
