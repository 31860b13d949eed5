import DataPortal.Proofs.Text.Utf8
import DataPortal.Text.Percent
/-!
# Reading percent encoding back

A component denotes the text that it was made from. What a text denotes is never longer than the
text, and as long only where nothing in it is escaped.
-/
namespace DataPortal.Text.Percent

theorem hexValue?_hexDigit {n : Nat} (h : n < 16) : hexValue? (hexDigit n) = some n := by
  interval_cases n <;> rfl

/-- An escape denotes its byte. -/
theorem bytes?_escapeByte (b : UInt8) (rest : List Char) :
    bytes? (escapeByte b ++ rest) = (bytes? rest).map (b :: ·) := by
  have hb : b.toNat < 256 := b.toNat_lt
  have hhigh : hexValue? (hexDigit (b.toNat / 16)) = some (b.toNat / 16) :=
    hexValue?_hexDigit (by omega)
  have hlow : hexValue? (hexDigit (b.toNat % 16)) = some (b.toNat % 16) :=
    hexValue?_hexDigit (by omega)
  have hbyte : UInt8.ofNat (16 * (b.toNat / 16) + b.toNat % 16) = b := by
    rw [Nat.div_add_mod, UInt8.ofNat_toNat]
  simp only [escapeByte, List.cons_append, List.nil_append, bytes?, hhigh, hlow, bind,
    Option.bind, hbyte]

theorem bytes?_escapeBytes (bs : List UInt8) (rest : List Char) :
    bytes? (bs.flatMap escapeByte ++ rest) = (bytes? rest).map (bs ++ ·) := by
  induction bs with
  | nil => simp
  | cons b bs ih =>
    rw [List.flatMap_cons, List.append_assoc, bytes?_escapeByte, ih, Option.map_map]
    rfl

/-- A character that begins no escape denotes its own bytes. -/
theorem bytes?_cons {c : Char} (h : c ≠ '%') (rest : List Char) :
    bytes? (c :: rest) = (bytes? rest).map (String.utf8EncodeChar c ++ ·) := by
  rw [bytes?, if_neg h]
  intro a b tail hescape
  exact fun _ => h hescape

theorem bytes?_encodeChar (c : Char) (rest : List Char) :
    bytes? (encodeChar c ++ rest) = (bytes? rest).map (String.utf8EncodeChar c ++ ·) := by
  unfold encodeChar
  split
  · rename_i h
    have hpercent : c ≠ '%' := by
      rintro rfl
      exact absurd h (by decide)
    exact bytes?_cons hpercent rest
  · exact bytes?_escapeBytes _ rest

theorem bytes?_encode (s : List Char) : bytes? (encode s) = some (Utf8.encode s) := by
  induction s with
  | nil => rfl
  | cons c s ih =>
    have hcons : encode (c :: s) = encodeChar c ++ encode s := rfl
    rw [hcons, bytes?_encodeChar, ih]
    rfl

theorem decode?_encode (s : List Char) : decode? (encode s) = some s := by
  rw [decode?, bytes?_encode]
  exact Utf8.decode?_encode s

/-! ## What escapes do to the length -/

theorem countP_isLead_bytes? {s : List Char} {bytes : List UInt8} (h : bytes? s = some bytes) :
    bytes.countP Utf8.isLead ≤ s.length ∧
      ('%' ∈ s → bytes.countP Utf8.isLead < s.length) := by
  fun_induction bytes? s generalizing bytes with
  | case1 =>
    cases h
    simp
  | case2 a b rest ih =>
    obtain ⟨high, -, h⟩ := Option.bind_eq_some_iff.1 h
    obtain ⟨low, -, h⟩ := Option.bind_eq_some_iff.1 h
    obtain ⟨tail, htail, rfl⟩ := Option.map_eq_some_iff.1 h
    -- an escape is longer than its byte
    have hone : (UInt8.ofNat (16 * high + low) :: tail).countP Utf8.isLead ≤
        tail.countP Utf8.isLead + 1 := by
      rw [List.countP_cons]
      split <;> omega
    have hrest := (ih htail).1
    simp only [List.length_cons]
    omega
  | case3 => cases h
  | case4 c rest _ hc ih =>
    obtain ⟨tail, htail, rfl⟩ := Option.map_eq_some_iff.1 h
    obtain ⟨hall, hescape⟩ := ih htail
    have hone := Utf8.countP_isLead_encodeChar c
    rw [List.countP_append, List.length_cons, List.mem_cons]
    refine ⟨by omega, ?_⟩
    rintro (hpercent | hmem)
    · exact absurd hpercent.symm hc
    · have hless := hescape hmem
      omega

/-- Without an escape a text denotes itself. -/
theorem decode?_plain {s : List Char} (h : '%' ∉ s) : decode? s = some s := by
  have hbytes : bytes? s = some (Utf8.encode s) := by
    induction s with
    | nil => rfl
    | cons c s ih =>
      rw [List.mem_cons, not_or] at h
      rw [bytes?_cons (Ne.symm h.1), ih h.2]
      rfl
  rw [decode?, hbytes]
  exact Utf8.decode?_encode s

/-- What is denoted is no longer than its form, and shorter where there is an escape. -/
theorem length_decode?_le {s t : List Char} (h : decode? s = some t) :
    t.length ≤ s.length ∧ ('%' ∈ s → t.length < s.length) := by
  obtain ⟨bytes, hbytes, h⟩ := Option.bind_eq_some_iff.1 h
  have hle := Utf8.length_decode?_le h
  obtain ⟨hall, hescape⟩ := countP_isLead_bytes? hbytes
  exact ⟨hle.trans hall, fun hmem => hle.trans_lt (hescape hmem)⟩

end DataPortal.Text.Percent
