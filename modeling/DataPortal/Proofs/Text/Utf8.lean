import DataPortal.Text.Utf8
import Mathlib.Tactic.IntervalCases
/-!
# Reading UTF-8 back

The bytes of a character are read as that character, whatever bytes come after them. The first
byte tells how many are owed and, for three and four of them, which values the second may have.
-/
namespace DataPortal.Text.Utf8

variable {passing : Bool} {n owed low high bits : Nat} {bytes rest : List UInt8}

theorem toNat_byte (h : n < 256) : (UInt8.ofNat n).toNat = n := by
  simp [Nat.mod_eq_of_lt h]

theorem scan_first (b : UInt8) (rest : List UInt8) :
    scan passing none (b :: rest) =
      (first passing b.toNat).1 ++ scan passing (first passing b.toNat).2 rest := rfl

theorem scan_next (p : Pending) (b : UInt8) (rest : List UInt8) :
    scan passing (some p) (b :: rest) =
      (p.next passing b.toNat).1 ++ scan passing (p.next passing b.toNat).2 rest := rfl

/-- The last byte of a character. -/
theorem scan_last (hlow : low ≤ n % 64 + 128) (hhigh : n % 64 + 128 ≤ high) :
    scan passing (some ⟨0, low, high, bits⟩) (UInt8.ofNat (n % 64 + 128) :: rest) =
      some (64 * bits + n % 64) :: scan passing none rest := by
  rw [scan_next, toNat_byte (by omega), Pending.next, if_pos ⟨hlow, hhigh⟩]
  simp

/-- A byte with others owed after it. -/
theorem scan_more (hlow : low ≤ n % 64 + 128) (hhigh : n % 64 + 128 ≤ high) :
    scan passing (some ⟨owed + 1, low, high, bits⟩) (UInt8.ofNat (n % 64 + 128) :: rest) =
      scan passing (some ⟨owed, 0x80, 0xBF, 64 * bits + n % 64⟩) rest := by
  rw [scan_next, toNat_byte (by omega), Pending.next, if_pos ⟨hlow, hhigh⟩]
  simp

theorem first_of_two (hlow : 2 ≤ n) (hhigh : n < 32) :
    first passing (n + 0xC0) = ([], some ⟨0, 0x80, 0xBF, n⟩) := by
  rw [first, if_neg (by omega), if_pos (by omega)]
  simp

/-- The second of three bytes lies in the range that the first one leaves to it: no smaller
form would do, and the character is no surrogate, whether these may pass or not. -/
theorem first_of_three (hlow : 0x800 ≤ n) (hhigh : n ≤ 0xFFFF)
    (hvalid : n < 0xD800 ∨ 0xDFFF < n) :
    ∃ low high, first passing (n / 4096 % 16 + 0xE0) = ([], some ⟨1, low, high, n / 4096⟩) ∧
      low ≤ n / 64 % 64 + 128 ∧ n / 64 % 64 + 128 ≤ high := by
  obtain ⟨a, ha⟩ : ∃ a, a = n / 4096 := ⟨_, rfl⟩
  rw [← ha]
  have hlt : a < 16 := by omega
  interval_cases a
  case «0» => exact ⟨0xA0, 0xBF, rfl, by omega, by omega⟩
  case «13» =>
    refine ⟨0x80, if passing then 0xBF else 0x9F, rfl, by omega, ?_⟩
    split <;> omega
  all_goals exact ⟨0x80, 0xBF, rfl, by omega, by omega⟩

/-- So does the second of four bytes, and there is no character beyond the last one. -/
theorem first_of_four (hlow : 0x10000 ≤ n) (hhigh : n < 0x110000) :
    ∃ low high, first passing (n / 262144 % 8 + 0xF0) = ([], some ⟨2, low, high, n / 262144⟩) ∧
      low ≤ n / 4096 % 64 + 128 ∧ n / 4096 % 64 + 128 ≤ high := by
  obtain ⟨a, ha⟩ : ∃ a, a = n / 262144 := ⟨_, rfl⟩
  rw [← ha]
  have hlt : a ≤ 4 := by omega
  interval_cases a
  case «0» => exact ⟨0x90, 0xBF, rfl, by omega, by omega⟩
  case «4» => exact ⟨0x80, 0x8F, rfl, by omega, by omega⟩
  all_goals exact ⟨0x80, 0xBF, rfl, by omega, by omega⟩

/-- A character is read from its bytes, whatever follows them. -/
theorem scan_encodeChar (c : Char) (rest : List UInt8) :
    scan passing none (String.utf8EncodeChar c ++ rest) =
      some c.toNat :: scan passing none rest := by
  have hvalid : c.toNat < 0xD800 ∨ 0xDFFF < c.toNat ∧ c.toNat < 0x110000 := c.valid
  have hcode : c.val.toNat = c.toNat := rfl
  rw [String.utf8EncodeChar, hcode]
  obtain ⟨n, hc⟩ : ∃ n, n = c.toNat := ⟨_, rfl⟩
  rw [← hc] at hvalid ⊢
  -- by the number of bytes
  split
  · rename_i h
    rw [List.singleton_append, scan_first, toNat_byte (by omega), first, if_pos h]
    rfl
  · split
    · rw [List.cons_append, List.singleton_append, scan_first, toNat_byte (by omega),
        first_of_two (by omega) (by omega), List.nil_append, scan_last (by omega) (by omega)]
      rw [show 64 * (n / 64 % 32) + n % 64 = n by omega]
    · split
      · rename_i h
        obtain ⟨low, high, hfirst, hlow, hhigh⟩ := first_of_three (n := n) (by omega) h (by omega)
        simp only [List.cons_append, List.nil_append]
        rw [scan_first, toNat_byte (by omega), hfirst, List.nil_append, scan_more hlow hhigh,
          scan_last (by omega) (by omega)]
        rw [show 64 * (64 * (n / 4096) + n / 64 % 64) + n % 64 = n by omega]
      · obtain ⟨low, high, hfirst, hlow, hhigh⟩ := first_of_four (n := n) (by omega) (by omega)
        simp only [List.cons_append, List.nil_append]
        rw [scan_first, toNat_byte (by omega), hfirst, List.nil_append, scan_more hlow hhigh,
          scan_more (by omega) (by omega), scan_last (by omega) (by omega)]
        rw [show 64 * (64 * (64 * (n / 262144) + n / 4096 % 64) + n / 64 % 64) + n % 64 = n by
          omega]

theorem scan_encode (s : List Char) :
    scan passing none (encode s) = s.map fun c => some c.toNat := by
  induction s with
  | nil => rfl
  | cons c s ih =>
    have hcons : encode (c :: s) = String.utf8EncodeChar c ++ encode s := rfl
    rw [hcons, scan_encodeChar, ih, List.map_cons]

theorem mapM_scan_encode (s : List Char) :
    (scan passing none (encode s)).mapM id = some (s.map Char.toNat) := by
  rw [scan_encode]
  induction s with
  | nil => rfl
  | cons c s ih => rw [List.map_cons, List.mapM_cons, ih]; rfl

theorem map_ofNat_toNat (s : List Char) : s.map (fun c => Char.ofNat c.toNat) = s :=
  (List.map_congr_left fun c _ => Char.ofNat_toNat c).trans (List.map_id s)

/-- A text is read from its bytes. -/
theorem decode?_encode (s : List Char) : decode? (encode s) = some s := by
  rw [decode?, mapM_scan_encode, Option.map_some, List.map_map]
  exact congrArg some (map_ofNat_toNat s)

/-- So it is where surrogates may pass, for there are none. -/
theorem decodePassing?_encode (s : List Char) :
    decodePassing? (encode s) = some (s.map .char) := by
  rw [decodePassing?, mapM_scan_encode, Option.map_some, List.map_map]
  exact congrArg some (List.map_congr_left fun c _ => CodePoint.ofNat_toNat c)

/-- So it is where undecodable bytes are replaced, for there are none. -/
theorem decodeLossy_encode (s : List Char) : decodeLossy (encode s) = s := by
  rw [decodeLossy, scan_encode, List.map_map]
  exact map_ofNat_toNat s

/-! ## How long a text is -/

/-- A byte that may begin a character. -/
def isLead (b : UInt8) : Bool :=
  b.toNat < 0x80 || 0xC0 ≤ b.toNat

theorem first_of_not_lead {b : UInt8} (h : isLead b = false) :
    first passing b.toNat = ([none], none) := by
  simp only [isLead, Bool.or_eq_false_iff, decide_eq_false_iff_not] at h
  unfold first
  split_ifs <;> first | rfl | omega

/-- A byte read between characters begins at most one. -/
theorem first_le (passing : Bool) (b : UInt8) :
    (first passing b.toNat).1.countP Option.isSome +
        (first passing b.toNat).2.toList.length ≤
      if isLead b then 1 else 0 := by
  by_cases hlead : isLead b = true
  · rw [if_pos hlead, first]
    split_ifs <;> simp
  · rw [first_of_not_lead (by simpa using hlead)]
    simp

theorem next_le (passing : Bool) (p : Pending) (b : UInt8) :
    (p.next passing b.toNat).1.countP Option.isSome +
        (p.next passing b.toNat).2.toList.length ≤
      1 + if isLead b then 1 else 0 := by
  rw [Pending.next]
  split
  · cases p.owed <;> simp
  · have hfirst := first_le passing b
    rw [List.countP_cons]
    simp only [Option.isSome_none, Bool.false_eq_true, if_false]
    omega

/-- No more characters are read than bytes that may begin one, and the one that was begun. -/
theorem countP_scan_le (passing : Bool) (pending : Option Pending) (bytes : List UInt8) :
    (scan passing pending bytes).countP Option.isSome ≤
      pending.toList.length + bytes.countP isLead := by
  induction bytes generalizing pending with
  | nil => cases pending <;> simp [scan]
  | cons b rest ih =>
    cases pending with
    | none =>
      have hfirst := first_le passing b
      have hrest := ih (first passing b.toNat).2
      rw [scan_first, List.countP_append, List.countP_cons]
      simp only [Option.toList_none, List.length_nil]
      omega
    | some p =>
      have hnext := next_le passing p b
      have hrest := ih (p.next passing b.toNat).2
      rw [scan_next, List.countP_append, List.countP_cons]
      simp only [Option.toList_some, List.length_singleton]
      omega

theorem length_of_mapM_id {read : List (Option Nat)} {numbers : List Nat}
    (h : read.mapM id = some numbers) : numbers.length = read.countP Option.isSome := by
  induction read generalizing numbers with
  | nil =>
    cases h
    rfl
  | cons n read ih =>
    rw [List.mapM_cons] at h
    obtain ⟨m, hm, h⟩ := Option.bind_eq_some_iff.1 h
    obtain ⟨rest, hrest, h⟩ := Option.bind_eq_some_iff.1 h
    cases h
    have hsome : n.isSome = true := by rw [show n = some m from hm]; rfl
    rw [List.length_cons, ih hrest, List.countP_cons, if_pos hsome]

/-- A text is no longer than the bytes in it that may begin a character. -/
theorem length_decode?_le {s : List Char} (h : decode? bytes = some s) :
    s.length ≤ bytes.countP isLead := by
  rw [decode?, Option.map_eq_some_iff] at h
  obtain ⟨numbers, hnumbers, rfl⟩ := h
  rw [List.length_map, length_of_mapM_id hnumbers]
  simpa using countP_scan_le false none bytes

/-- Only the first byte of a character may begin one. -/
theorem countP_isLead_encodeChar (c : Char) :
    (String.utf8EncodeChar c).countP isLead ≤ 1 := by
  have hlater : ∀ n, isLead (UInt8.ofNat (n % 64 + 128)) = false := by
    intro n
    rw [isLead, toNat_byte (by omega)]
    simp
    omega
  have hcons : ∀ b rest, (∀ b' ∈ rest, isLead b' = false) → (b :: rest).countP isLead ≤ 1 := by
    intro b rest hrest
    have hnone : rest.countP isLead = 0 := List.countP_eq_zero.2 (by simpa using hrest)
    rw [List.countP_cons, hnone]
    split <;> simp
  rw [String.utf8EncodeChar]
  split_ifs
  · exact List.countP_le_length
  all_goals
    apply hcons
    simp only [List.forall_mem_cons, hlater, true_and]
    simp

end DataPortal.Text.Utf8
