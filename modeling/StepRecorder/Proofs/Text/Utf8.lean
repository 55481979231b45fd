import StepRecorder.Text.Utf8

/-!
Texts as bytes, and back. A character of more than one byte is never a line feed, whatever its bytes
are, so bytes without a line feed are read as a text without one; and what is written is read back.

Main statements: `lineFeed_not_mem_decodeLossy`, `decode?_encode`.
-/

namespace StepRecorder.Text

/-! ### Reading one line -/

/-- The second byte of a character puts it past all control characters. -/
theorem second_byte_le {b b2 lo hi : UInt8} {more : Nat} (h : lead? b = some (more, lo, hi))
    (hlo : lo ≤ b2) (hhi : b2 ≤ hi) : 16 ≤ leadBits b more * 64 + b2.toNat % 64 := by
  rw [UInt8.le_iff_toNat_le] at hlo hhi
  have hb := b.toNat_lt
  simp only [lead?, Bool.and_eq_true, decide_eq_true_eq, UInt8.le_iff_toNat_le,
    ← UInt8.toNat_inj] at h
  unfold leadBits
  repeat' split at h
  all_goals
    simp only [Option.some.injEq, Prod.mk.injEq, reduceCtorEq] at h
  all_goals
    obtain ⟨rfl, rfl, rfl⟩ := h
    simp at *
    omega

theorem toNat_ofNat_le (n : Nat) : (Char.ofNat n).toNat = n ∨ (Char.ofNat n).toNat = 0 := by
  by_cases h : n.isValidChar
  · left
    rw [Char.ofNat, dif_pos h]
    rfl
  · right
    simp [Char.ofNat, h]

theorem eq_ten_of_ofNat_eq {n : Nat} (h : Char.ofNat n = '\n') : n = 10 := by
  have hn := congrArg Char.toNat h
  have hten : '\n'.toNat = 10 := rfl
  rcases toNat_ofNat_le n with hsame | hzero <;> omega

theorem decodeOne_suffix (b : UInt8) (rest : Bytes) : (decodeOne b rest).2 <:+ rest := by
  unfold decodeOne
  repeat' split
  all_goals
    first
    | exact List.suffix_refl _
    | exact List.suffix_cons ..
    | exact ⟨[_, _], rfl⟩
    | exact ⟨[_, _, _], rfl⟩

/-- Of all bytes only a line feed is read as one. -/
theorem eq_of_decodeOne_eq_lineFeed {b : UInt8} {rest : Bytes}
    (h : (decodeOne b rest).1 = some '\n') : b = 10 := by
  unfold decodeOne at h
  split at h
  case isTrue =>
    have hb : b.toNat = 10 := eq_ten_of_ofNat_eq (Option.some.inj h)
    exact UInt8.toNat_inj.mp hb
  case isFalse =>
    split at h
    · cases h
    next more lo hi hlead =>
      split at h
      · cases h
      next b2 rest2 =>
        split at h
        · cases h
        next hrange =>
          -- past the second byte the number is at least 16, and more bytes only make it greater
          have hlow : 16 ≤ leadBits b more * 64 + b2.toNat % 64 := by
            simp only [Bool.not_eq_true', Bool.not_eq_false, Bool.and_eq_true,
              decide_eq_true_eq] at hrange
            exact second_byte_le hlead hrange.1 hrange.2
          repeat' split at h
          all_goals
            first
            | cases h
            | have hn := eq_ten_of_ofNat_eq (Option.some.inj h)
              omega

/-- Bytes without a line feed are read as a text without one. -/
theorem lineFeed_not_mem_decodeLossy {bytes : Bytes} (h : 10 ∉ bytes) :
    '\n' ∉ decodeLossy bytes := by
  suffices hpieces : some '\n' ∉ decodePieces bytes by
    intro hmem
    obtain ⟨piece, hpiece, heq⟩ := List.mem_map.mp hmem
    cases piece with
    | none => simp [replacement] at heq
    | some c =>
      obtain rfl : c = '\n' := heq
      exact hpieces hpiece
  fun_induction decodePieces bytes with
  | case1 => simp
  | case2 b rest _ ih =>
    obtain ⟨hb, hrest⟩ := List.ne_and_not_mem_of_not_mem_cons h
    have hlater := ih fun hmem => hrest ((decodeOne_suffix b rest).mem hmem)
    refine List.not_mem_cons_of_ne_of_not_mem ?_ hlater
    intro hfirst
    exact hb (eq_of_decodeOne_eq_lineFeed hfirst.symm).symm

/-! ### Reading what was written -/

theorem toNat_toUInt8 {n : Nat} (h : n < 256) : n.toUInt8.toNat = n := by
  simp [Nat.toUInt8, Nat.mod_eq_of_lt h]

theorem lead?_two {b : UInt8} (h : 0xC2 ≤ b.toNat) (h' : b.toNat ≤ 0xDF) :
    lead? b = some (1, 0x80, 0xBF) := by
  simp [lead?, UInt8.le_iff_toNat_le, h, h']

theorem lead?_three {b : UInt8} (h : 0xE0 ≤ b.toNat) (h' : b.toNat ≤ 0xEF) :
    ∃ lo hi, lead? b = some (2, lo, hi)
      ∧ lo.toNat = (if b.toNat = 0xE0 then 0xA0 else 0x80)
      ∧ hi.toNat = (if b.toNat = 0xED then 0x9F else 0xBF) := by
  simp only [lead?, Bool.and_eq_true, decide_eq_true_eq, UInt8.le_iff_toNat_le, ← UInt8.toNat_inj]
  rw [if_neg (by simp; omega)]
  by_cases hlow : b.toNat = 0xE0
  · exact ⟨0xA0, 0xBF, by simp [hlow], by simp [hlow], by simp [hlow]⟩
  · by_cases hhigh : b.toNat = 0xED
    · exact ⟨0x80, 0x9F, by simp [hhigh], by simp [hhigh], by simp [hhigh]⟩
    · refine ⟨0x80, 0xBF, ?_, by simp [hlow], by simp [hhigh]⟩
      simp [hlow, hhigh]
      omega

theorem lead?_four {b : UInt8} (h : 0xF0 ≤ b.toNat) (h' : b.toNat ≤ 0xF4) :
    ∃ lo hi, lead? b = some (3, lo, hi)
      ∧ lo.toNat = (if b.toNat = 0xF0 then 0x90 else 0x80)
      ∧ hi.toNat = (if b.toNat = 0xF4 then 0x8F else 0xBF) := by
  simp only [lead?, Bool.and_eq_true, decide_eq_true_eq, UInt8.le_iff_toNat_le, ← UInt8.toNat_inj]
  rw [if_neg (by simp; omega), if_neg (by simp; omega), if_neg (by simp; omega),
    if_neg (by simp; omega)]
  by_cases hlow : b.toNat = 0xF0
  · exact ⟨0x90, 0xBF, by simp [hlow], by simp [hlow], by simp [hlow]⟩
  · by_cases hhigh : b.toNat = 0xF4
    · exact ⟨0x80, 0x8F, by simp [hhigh], by simp [hhigh], by simp [hhigh]⟩
    · refine ⟨0x80, 0xBF, ?_, by simp [hlow], by simp [hhigh]⟩
      simp [hlow, hhigh]
      omega

/-- A byte after the first one, with six bits of a number. -/
theorem toNat_tail (n : Nat) : (0x80 + n % 64).toUInt8.toNat = 0x80 + n % 64 :=
  toNat_toUInt8 (by omega)

theorem isTail_tail (n : Nat) : isTail (0x80 + n % 64).toUInt8 = true := by
  simp only [isTail, Bool.and_eq_true, decide_eq_true_eq, UInt8.le_iff_toNat_le, toNat_tail]
  have h80 : (0x80 : UInt8).toNat = 0x80 := rfl
  have hBF : (0xBF : UInt8).toNat = 0xBF := rfl
  omega

theorem not_lt_of_le {b : UInt8} (h : 0x80 ≤ b.toNat) : ¬ b < 0x80 := by
  rw [UInt8.lt_iff_toNat_lt]
  exact Nat.not_lt.mpr h

theorem decodeOne_two {b b2 : UInt8} (hb : 0xC2 ≤ b.toNat) (hb' : b.toNat ≤ 0xDF)
    (h2 : 0x80 ≤ b2.toNat) (h2' : b2.toNat ≤ 0xBF) (rest : Bytes) :
    decodeOne b (b2 :: rest)
      = (some (Char.ofNat (b.toNat % 32 * 64 + b2.toNat % 64)), rest) := by
  have hbig : ¬ b < 0x80 := not_lt_of_le (by omega)
  have hrange : 0x80 ≤ b2 ∧ b2 ≤ 0xBF := by
    simpa [UInt8.le_iff_toNat_le] using ⟨h2, h2'⟩
  simp [decodeOne, hbig, lead?_two hb hb', hrange, leadBits]

theorem decodeOne_three {b b2 b3 : UInt8} (hb : 0xE0 ≤ b.toNat) (hb' : b.toNat ≤ 0xEF)
    (h2 : (if b.toNat = 0xE0 then 0xA0 else 0x80) ≤ b2.toNat)
    (h2' : b2.toNat ≤ (if b.toNat = 0xED then 0x9F else 0xBF)) (h3 : isTail b3 = true)
    (rest : Bytes) :
    decodeOne b (b2 :: b3 :: rest)
      = (some (Char.ofNat ((b.toNat % 16 * 64 + b2.toNat % 64) * 64 + b3.toNat % 64)), rest) := by
  have hbig : ¬ b < 0x80 := not_lt_of_le (by omega)
  obtain ⟨lo, hi, hlead, hlo, hhi⟩ := lead?_three hb hb'
  have hrange : lo ≤ b2 ∧ b2 ≤ hi := by
    rw [UInt8.le_iff_toNat_le, UInt8.le_iff_toNat_le, hlo, hhi]
    exact ⟨h2, h2'⟩
  simp [decodeOne, hbig, hlead, hrange, h3, leadBits]

theorem decodeOne_four {b b2 b3 b4 : UInt8} (hb : 0xF0 ≤ b.toNat) (hb' : b.toNat ≤ 0xF4)
    (h2 : (if b.toNat = 0xF0 then 0x90 else 0x80) ≤ b2.toNat)
    (h2' : b2.toNat ≤ (if b.toNat = 0xF4 then 0x8F else 0xBF)) (h3 : isTail b3 = true)
    (h4 : isTail b4 = true) (rest : Bytes) :
    decodeOne b (b2 :: b3 :: b4 :: rest)
      = (some (Char.ofNat (((b.toNat % 8 * 64 + b2.toNat % 64) * 64 + b3.toNat % 64) * 64
          + b4.toNat % 64)), rest) := by
  have hbig : ¬ b < 0x80 := not_lt_of_le (by omega)
  obtain ⟨lo, hi, hlead, hlo, hhi⟩ := lead?_four hb hb'
  have hrange : lo ≤ b2 ∧ b2 ≤ hi := by
    rw [UInt8.le_iff_toNat_le, UInt8.le_iff_toNat_le, hlo, hhi]
    exact ⟨h2, h2'⟩
  simp [decodeOne, hbig, hlead, hrange, h3, h4, leadBits]

/-- The bytes of a character are read as the character, whatever follows them. -/
theorem decodeOne_encodeChar (c : Char) (rest : Bytes) :
    ∃ b tail, encodeChar c = b :: tail ∧ decodeOne b (tail ++ rest) = (some c, rest) := by
  have hvalid : c.toNat < 0xD800 ∨ (0xDFFF < c.toNat ∧ c.toNat < 0x110000) := c.valid
  have hc : Char.ofNat c.toNat = c := Char.ofNat_toNat c
  unfold encodeChar
  generalize c.toNat = n at hvalid hc
  by_cases h1 : n < 0x80
  · have hb : n.toUInt8.toNat = n := toNat_toUInt8 (by omega)
    have hsmall : n.toUInt8 < 0x80 := by
      rw [UInt8.lt_iff_toNat_lt, hb]
      exact h1
    refine ⟨n.toUInt8, [], by simp [h1], ?_⟩
    rw [List.nil_append, decodeOne, if_pos hsmall, hb, hc]
  by_cases h2 : n < 0x800
  · have hb : (0xC0 + n / 64).toUInt8.toNat = 0xC0 + n / 64 := toNat_toUInt8 (by omega)
    have ht := toNat_tail n
    refine ⟨(0xC0 + n / 64).toUInt8, [(0x80 + n % 64).toUInt8], by simp [h1, h2], ?_⟩
    rw [List.singleton_append, decodeOne_two (by omega) (by omega) (by omega) (by omega), hb, ht]
    have hn : (0xC0 + n / 64) % 32 * 64 + (0x80 + n % 64) % 64 = n := by omega
    rw [hn, hc]
  by_cases h3 : n < 0x10000
  · have hb : (0xE0 + n / 4096).toUInt8.toNat = 0xE0 + n / 4096 := toNat_toUInt8 (by omega)
    have ht1 := toNat_tail (n / 64)
    have ht := toNat_tail n
    refine ⟨(0xE0 + n / 4096).toUInt8, [(0x80 + n / 64 % 64).toUInt8, (0x80 + n % 64).toUInt8],
      by simp [h1, h2, h3], ?_⟩
    rw [List.cons_append, List.singleton_append,
      decodeOne_three (by omega) (by omega) (by split <;> omega) (by split <;> omega)
        (isTail_tail n), hb, ht1, ht]
    have hn : ((0xE0 + n / 4096) % 16 * 64 + (0x80 + n / 64 % 64) % 64) * 64
        + (0x80 + n % 64) % 64 = n := by omega
    rw [hn, hc]
  · have hb : (0xF0 + n / 262144).toUInt8.toNat = 0xF0 + n / 262144 := toNat_toUInt8 (by omega)
    have ht2 := toNat_tail (n / 4096)
    have ht1 := toNat_tail (n / 64)
    have ht := toNat_tail n
    refine ⟨(0xF0 + n / 262144).toUInt8,
      [(0x80 + n / 4096 % 64).toUInt8, (0x80 + n / 64 % 64).toUInt8, (0x80 + n % 64).toUInt8],
      by simp [h1, h2, h3], ?_⟩
    rw [List.cons_append, List.cons_append, List.singleton_append,
      decodeOne_four (by omega) (by omega) (by split <;> omega) (by split <;> omega)
        (isTail_tail _) (isTail_tail n), hb, ht2, ht1, ht]
    have hn : (((0xF0 + n / 262144) % 8 * 64 + (0x80 + n / 4096 % 64) % 64) * 64
        + (0x80 + n / 64 % 64) % 64) * 64 + (0x80 + n % 64) % 64 = n := by omega
    rw [hn, hc]

theorem decodePieces_encode (text : Text) : decodePieces (encode text) = text.map some := by
  induction text with
  | nil => simp [encode, decodePieces]
  | cons c text ih =>
    obtain ⟨b, tail, hc, hone⟩ := decodeOne_encodeChar c (encode text)
    rw [show encode (c :: text) = encodeChar c ++ encode text from rfl, hc, List.cons_append,
      decodePieces, hone, ih, List.map_cons]

/-- What is written is read back. -/
theorem decode?_encode (text : Text) : decode? (encode text) = some text := by
  rw [decode?, decodePieces_encode]
  induction text with
  | nil => rfl
  | cons c text ih => simp [List.mapM_cons, ih]

end StepRecorder.Text
