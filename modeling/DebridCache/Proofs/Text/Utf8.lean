import DebridCache.Text.Utf8

/-!
UTF-8 read back. The bytes of a character are taken for that character whatever follows them, so text that
was encoded is decoded without a loss.
-/

namespace DebridCache.Text.Utf8

theorem charOf_toNat (c : Char) : charOf c.toNat = c := (if_pos c.valid).trans c.ofNat_toNat

theorem toNat_ofNat {n : Nat} (small : n < 256) : (UInt8.ofNat n).toNat = n := by
  rw [UInt8.toNat_ofNat']
  exact Nat.mod_eq_of_lt small

theorem scan_whole {surrogates : Bool} {b : Nat} {entry : Option Char} (small : b < 256)
    (first : lead surrogates b = .whole entry) (rest : List UInt8) :
    scan surrogates .between (UInt8.ofNat b :: rest) = entry :: scan surrogates .between rest := by
  rw [scan, toNat_ofNat small, first]

theorem scan_open {surrogates : Bool} {b : Nat} {next : State} (small : b < 256)
    (first : lead surrogates b = .open next) (rest : List UInt8) :
    scan surrogates .between (UInt8.ofNat b :: rest) = scan surrogates next rest := by
  rw [scan, toNat_ofNat small, first]

theorem scan_owed {surrogates : Bool} {count low high point b : Nat} (small : b < 256) (more : 1 < count)
    (above : low ≤ b) (below : b ≤ high) (rest : List UInt8) :
    scan surrogates (.owed count low high point) (UInt8.ofNat b :: rest) =
      scan surrogates (.owed (count - 1) 0x80 0xBF (point * 64 + (b - 0x80))) rest := by
  rw [scan, toNat_ofNat small, if_pos ⟨above, below⟩, if_neg (Nat.not_le_of_lt more)]

theorem scan_last {surrogates : Bool} {low high point b : Nat} (small : b < 256) (above : low ≤ b)
    (below : b ≤ high) (rest : List UInt8) :
    scan surrogates (.owed 1 low high point) (UInt8.ofNat b :: rest) =
      some (charOf (point * 64 + (b - 0x80))) :: scan surrogates .between rest := by
  rw [scan, toNat_ofNat small, if_pos ⟨above, below⟩, if_pos (Nat.le_refl 1)]

theorem lead_two {b : Nat} (above : 0xC2 ≤ b) (below : b < 0xE0) :
    lead false b = .open (.owed 1 0x80 0xBF (b - 0xC0)) := by
  rw [lead, if_neg (by omega), if_neg (by omega), if_pos below]

/-- The bounds on the second byte admit every character of three bytes and no surrogate. -/
theorem lead_three {n : Nat} (above : 0x800 ≤ n) (below : n ≤ 0xFFFF)
    (valid : n < 0xD800 ∨ 0xDFFF < n) :
    ∃ low high, lead false (n / 4096 + 0xE0) = .open (.owed 2 low high (n / 4096)) ∧
      low ≤ n / 64 % 64 + 0x80 ∧ n / 64 % 64 + 0x80 ≤ high := by
  unfold lead
  rw [if_neg (by omega), if_neg (by omega), if_neg (by omega)]
  by_cases first : n / 4096 = 0
  · rw [first]
    exact ⟨0xA0, 0xBF, rfl, by omega, by omega⟩
  · rw [if_neg (by omega)]
    by_cases surrogate : n / 4096 = 13
    · rw [surrogate]
      exact ⟨0x80, 0x9F, rfl, by omega, by omega⟩
    · rw [if_neg (by omega), if_pos (by omega)]
      exact ⟨0x80, 0xBF, by simp, by omega, by omega⟩

theorem lead_four {n : Nat} (above : 0x10000 ≤ n) (below : n < 0x110000) :
    ∃ low high, lead false (n / 262144 + 0xF0) = .open (.owed 3 low high (n / 262144)) ∧
      low ≤ n / 4096 % 64 + 0x80 ∧ n / 4096 % 64 + 0x80 ≤ high := by
  unfold lead
  rw [if_neg (by omega), if_neg (by omega), if_neg (by omega), if_neg (by omega), if_neg (by omega),
    if_neg (by omega)]
  by_cases first : n / 262144 = 0
  · rw [first]
    exact ⟨0x90, 0xBF, rfl, by omega, by omega⟩
  · rw [if_neg (by omega)]
    by_cases last : n / 262144 = 4
    · rw [last]
      exact ⟨0x80, 0x8F, rfl, by omega, by omega⟩
    · rw [if_pos (by omega)]
      exact ⟨0x80, 0xBF, by simp, by omega, by omega⟩

def bytesOf (n : Nat) : List UInt8 :=
  if n ≤ 0x7F then [.ofNat n]
  else if n ≤ 0x7FF then [.ofNat (n / 64 % 32 + 0xC0), .ofNat (n % 64 + 0x80)]
  else if n ≤ 0xFFFF then
    [.ofNat (n / 4096 % 16 + 0xE0), .ofNat (n / 64 % 64 + 0x80), .ofNat (n % 64 + 0x80)]
  else
    [.ofNat (n / 262144 % 8 + 0xF0), .ofNat (n / 4096 % 64 + 0x80), .ofNat (n / 64 % 64 + 0x80),
      .ofNat (n % 64 + 0x80)]

theorem utf8EncodeChar_eq (c : Char) : String.utf8EncodeChar c = bytesOf c.toNat := rfl

theorem scan_bytesOf {n : Nat} (valid : n < 0xD800 ∨ 0xDFFF < n ∧ n < 0x110000) (rest : List UInt8) :
    scan false .between (bytesOf n ++ rest) = some (charOf n) :: scan false .between rest := by
  unfold bytesOf
  by_cases one : n ≤ 0x7F
  · rw [if_pos one]
    exact scan_whole (by omega) (if_pos (by omega)) rest
  · rw [if_neg one]
    by_cases two : n ≤ 0x7FF
    · have first : n / 64 % 32 + 0xC0 = n / 64 + 0xC0 := by omega
      have whole : (n / 64 + 0xC0 - 0xC0) * 64 + (n % 64 + 0x80 - 0x80) = n := by omega
      rw [if_pos two, first, List.cons_append, List.cons_append, List.nil_append,
        scan_open (by omega) (lead_two (by omega) (by omega)),
        scan_last (by omega) (by omega) (by omega), whole]
    · rw [if_neg two]
      by_cases three : n ≤ 0xFFFF
      · have first : n / 4096 % 16 + 0xE0 = n / 4096 + 0xE0 := by omega
        have whole : (n / 4096 * 64 + (n / 64 % 64 + 0x80 - 0x80)) * 64 + (n % 64 + 0x80 - 0x80) = n := by
          omega
        obtain ⟨low, high, opens, above, below⟩ := lead_three (by omega) three (by omega)
        rw [if_pos three, first, List.cons_append, List.cons_append, List.cons_append, List.nil_append,
          scan_open (by omega) opens, scan_owed (by omega) (by omega) above below,
          scan_last (by omega) (by omega) (by omega), whole]
      · have first : n / 262144 % 8 + 0xF0 = n / 262144 + 0xF0 := by omega
        have whole : ((n / 262144 * 64 + (n / 4096 % 64 + 0x80 - 0x80)) * 64 +
            (n / 64 % 64 + 0x80 - 0x80)) * 64 + (n % 64 + 0x80 - 0x80) = n := by
          omega
        obtain ⟨low, high, opens, above, below⟩ := lead_four (n := n) (by omega) (by omega)
        rw [if_neg three, first, List.cons_append, List.cons_append, List.cons_append, List.cons_append,
          List.nil_append, scan_open (by omega) opens, scan_owed (by omega) (by omega) above below,
          scan_owed (by omega) (by omega) (by omega) (by omega),
          scan_last (by omega) (by omega) (by omega), whole]

/-- The bytes of a character are read as it, whatever follows them. -/
theorem scan_utf8EncodeChar (c : Char) (rest : List UInt8) :
    scan false .between (String.utf8EncodeChar c ++ rest) = some c :: scan false .between rest := by
  rw [utf8EncodeChar_eq, scan_bytesOf (n := c.toNat) c.valid, charOf_toNat]

theorem scan_encode (cs : List Char) : scan false .between (encode cs) = cs.map some := by
  unfold encode
  induction cs with
  | nil => rfl
  | cons c cs ih => rw [List.flatMap_cons, scan_utf8EncodeChar, ih, List.map_cons]

/-- Decoding gives back what was encoded. -/
theorem decodeLossy_encode (cs : List Char) : decodeLossy (encode cs) = cs := by
  rw [decodeLossy, scan_encode, List.map_map]
  exact List.map_id cs

end DebridCache.Text.Utf8
