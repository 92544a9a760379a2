import RefBook.Text.Utf8

/-! # Encoded characters are read back

The bytes that encode a character are read as that character and as no more bytes than
these, whatever follows. So text that is encoded and read has not changed, and no part of
it is taken for one that is not well formed. -/

namespace RefBook.Text

theorem isContinuation_ofNat {n : Nat} (h : 0x80 ≤ n) (h' : n < 0xC0) :
    isContinuation (UInt8.ofNat n) = true := by
  have hn := UInt8.toNat_ofNat_of_lt' (show n < 256 by omega)
  simp [isContinuation, UInt8.le_iff_toNat_le, UInt8.lt_iff_toNat_lt, hn, h, h']

theorem lowBits_ofNat {n : Nat} (h : n < 256) : lowBits (UInt8.ofNat n) = n % 0x40 := by
  rw [lowBits, UInt8.toNat_ofNat_of_lt' h]

theorem firstUnit_one {a : Nat} (h : a < 0x80) (rest : List UInt8) :
    firstUnit (UInt8.ofNat a :: rest) = (some (Char.ofNat a), 1) := by
  have ha := UInt8.toNat_ofNat_of_lt' (show a < 256 by omega)
  simp [firstUnit, UInt8.lt_iff_toNat_lt, ha, h]

theorem firstUnit_two {a b : Nat} (ha : 0xC2 ≤ a ∧ a < 0xE0) (hb : 0x80 ≤ b ∧ b < 0xC0)
    (rest : List UInt8) :
    firstUnit (UInt8.ofNat a :: UInt8.ofNat b :: rest) =
      (some (Char.ofNat (a % 0x20 * 0x40 + b % 0x40)), 2) := by
  have hna := UInt8.toNat_ofNat_of_lt' (show a < 256 by omega)
  have hlow := lowBits_ofNat (show b < 256 by omega)
  have hcont := isContinuation_ofNat hb.1 hb.2
  have hlt : ¬ a < 0x80 := by omega
  simp [firstUnit, UInt8.le_iff_toNat_le, UInt8.lt_iff_toNat_lt, hna, hlt, ha, hcont, hlow]

/-- The second byte of three or four is allowed where it makes no shorter unit possible, no
surrogate and nothing above the last character. -/
theorem allowsSecond_ofNat {a b : Nat} (ha : a < 256) (hb : 0x80 ≤ b ∧ b < 0xC0)
    (hE0 : a = 0xE0 → 0xA0 ≤ b) (hED : a = 0xED → b < 0xA0) (hF0 : a = 0xF0 → 0x90 ≤ b)
    (hF4 : a = 0xF4 → b < 0x90) : allowsSecond (UInt8.ofNat a) (UInt8.ofNat b) = true := by
  have hna := UInt8.toNat_ofNat_of_lt' ha
  have hnb := UInt8.toNat_ofNat_of_lt' (show b < 256 by omega)
  simp only [allowsSecond, isContinuation, beq_iff_eq, ← UInt8.toNat_inj, UInt8.le_iff_toNat_le,
    UInt8.lt_iff_toNat_lt, hna, hnb]
  split
  · simp [hE0 ‹_›, hb.2]
  split
  · simp [hED ‹_›, hb.1]
  split
  · simp [hF0 ‹_›, hb.2]
  split
  · simp [hF4 ‹_›, hb.1]
  · simp [hb]

theorem firstUnit_three {a b c : Nat} (ha : 0xE0 ≤ a ∧ a < 0xF0) (hb : 0x80 ≤ b ∧ b < 0xC0)
    (hc : 0x80 ≤ c ∧ c < 0xC0) (hE0 : a = 0xE0 → 0xA0 ≤ b) (hED : a = 0xED → b < 0xA0)
    (rest : List UInt8) :
    firstUnit (UInt8.ofNat a :: UInt8.ofNat b :: UInt8.ofNat c :: rest) =
      (some (Char.ofNat ((a % 0x10 * 0x40 + b % 0x40) * 0x40 + c % 0x40)), 3) := by
  have hna := UInt8.toNat_ofNat_of_lt' (show a < 256 by omega)
  have hsecond : allowsSecond (UInt8.ofNat a) (UInt8.ofNat b) = true :=
    allowsSecond_ofNat (by omega) hb hE0 hED (by omega) (by omega)
  have hcont := isContinuation_ofNat hc.1 hc.2
  have hlowb := lowBits_ofNat (show b < 256 by omega)
  have hlowc := lowBits_ofNat (show c < 256 by omega)
  have hlt : ¬ a < 0x80 := by omega
  have htwo : ¬ a < 0xE0 := by omega
  simp [firstUnit, UInt8.le_iff_toNat_le, UInt8.lt_iff_toNat_lt, hna, hlt, htwo, ha, hsecond, hcont,
    hlowb, hlowc]

theorem firstUnit_four {a b c d : Nat} (ha : 0xF0 ≤ a ∧ a < 0xF5) (hb : 0x80 ≤ b ∧ b < 0xC0)
    (hc : 0x80 ≤ c ∧ c < 0xC0) (hd : 0x80 ≤ d ∧ d < 0xC0) (hF0 : a = 0xF0 → 0x90 ≤ b)
    (hF4 : a = 0xF4 → b < 0x90) (rest : List UInt8) :
    firstUnit (UInt8.ofNat a :: UInt8.ofNat b :: UInt8.ofNat c :: UInt8.ofNat d :: rest) =
      (some (Char.ofNat (((a % 8 * 0x40 + b % 0x40) * 0x40 + c % 0x40) * 0x40 + d % 0x40)), 4) := by
  have hna := UInt8.toNat_ofNat_of_lt' (show a < 256 by omega)
  have hsecond : allowsSecond (UInt8.ofNat a) (UInt8.ofNat b) = true :=
    allowsSecond_ofNat (by omega) hb (by omega) (by omega) hF0 hF4
  have hcontc := isContinuation_ofNat hc.1 hc.2
  have hcontd := isContinuation_ofNat hd.1 hd.2
  have hlowb := lowBits_ofNat (show b < 256 by omega)
  have hlowc := lowBits_ofNat (show c < 256 by omega)
  have hlowd := lowBits_ofNat (show d < 256 by omega)
  have hlt : ¬ a < 0x80 := by omega
  have htwo : ¬ a < 0xE0 := by omega
  have hthree : ¬ a < 0xF0 := by omega
  simp [firstUnit, UInt8.le_iff_toNat_le, UInt8.lt_iff_toNat_lt, hna, hlt, htwo, hthree, ha,
    hsecond, hcontc, hcontd, hlowb, hlowc, hlowd]

/-- The bytes of a character are read as this character, whatever follows. -/
theorem firstUnit_utf8EncodeChar (c : Char) (rest : List UInt8) :
    firstUnit (String.utf8EncodeChar c ++ rest) =
      (some c, (String.utf8EncodeChar c).length) := by
  have hvalid : c.val.toNat < 0xD800 ∨ 0xDFFF < c.val.toNat ∧ c.val.toNat < 0x110000 := c.valid
  obtain ⟨v, hv⟩ : ∃ v, c.val.toNat = v := ⟨_, rfl⟩
  have hchar : Char.ofNat v = c := by rw [← hv]; exact Char.ofNat_toNat c
  rw [hv] at hvalid
  unfold String.utf8EncodeChar
  simp only [hv]
  split
  · rw [List.singleton_append, firstUnit_one (by omega), hchar]
    rfl
  split
  · rw [List.cons_append, List.singleton_append, firstUnit_two (by omega) (by omega),
      show (v / 64 % 32 + 192) % 0x20 * 0x40 + (v % 64 + 128) % 0x40 = v by omega, hchar]
    rfl
  split
  · rw [List.cons_append, List.cons_append, List.singleton_append,
      firstUnit_three (by omega) (by omega) (by omega) (by omega) (by omega),
      show ((v / 4096 % 16 + 224) % 0x10 * 0x40 + (v / 64 % 64 + 128) % 0x40) * 0x40 +
        (v % 64 + 128) % 0x40 = v by omega, hchar]
    rfl
  · rw [List.cons_append, List.cons_append, List.cons_append, List.singleton_append,
      firstUnit_four (by omega) (by omega) (by omega) (by omega) (by omega) (by omega),
      show (((v / 262144 % 8 + 240) % 8 * 0x40 + (v / 4096 % 64 + 128) % 0x40) * 0x40 +
        (v / 64 % 64 + 128) % 0x40) * 0x40 + (v % 64 + 128) % 0x40 = v by omega, hchar]
    rfl

theorem utf8Units_skip (a rest : List UInt8) :
    utf8Units a.length (a ++ rest) = utf8Units 0 rest := by
  induction a with
  | nil => rfl
  | cons b a ih => exact ih

theorem utf8Units_utf8EncodeChar (c : Char) (rest : List UInt8) :
    utf8Units 0 (String.utf8EncodeChar c ++ rest) = some c :: utf8Units 0 rest := by
  obtain ⟨a, bytes, hbytes⟩ :=
    List.exists_cons_of_ne_nil (String.utf8EncodeChar_ne_nil (c := c))
  have hunit := firstUnit_utf8EncodeChar c rest
  rw [hbytes] at hunit ⊢
  rw [List.cons_append] at hunit ⊢
  rw [utf8Units, hunit]
  exact congrArg _ (utf8Units_skip bytes rest)

theorem utf8Units_encoded (t : List Char) :
    utf8Units 0 (t.flatMap String.utf8EncodeChar) = t.map some := by
  induction t with
  | nil => rfl
  | cons c t ih => rw [List.flatMap_cons, utf8Units_utf8EncodeChar, ih, List.map_cons]

/-- Text that is encoded and read is the same text. -/
theorem ofUtf8Lossy_encoded (t : List Char) :
    ofUtf8Lossy (t.flatMap String.utf8EncodeChar) = t := by
  rw [ofUtf8Lossy, utf8Units_encoded, List.map_map]
  exact List.map_id t

end RefBook.Text
