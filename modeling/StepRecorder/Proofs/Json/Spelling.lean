import StepRecorder.Json.Literal

/-!
The grammar of JSON string literals: which bodies spell a text. A character has several spellings,
and the decoder has to know all of them:

    e-acute     itself, or backslash u00e9, or backslash u00E9
    quote       backslash quote, or backslash u0022
    U+1F600     itself, or backslash ud83d backslash ude00

Main statements: `decode?_eq_some_iff`, the decoder reads exactly what the grammar spells, and
`scan?_of_spells`, what the grammar spells ends at the quote behind it.
-/

namespace StepRecorder.Json.Literal

/-- Whether a character is the hexadecimal digit of a number, in either case. -/
def IsDigit (c : Char) (n : Nat) : Prop :=
  "0123456789abcdef".toList[n]? = some c ∨ "0123456789ABCDEF".toList[n]? = some c

/-- Whether four characters are the hexadecimal digits of a number. -/
def IsUnit (a b c d : Char) (n : Nat) : Prop :=
  ∃ i j k l, IsDigit a i ∧ IsDigit b j ∧ IsDigit c k ∧ IsDigit d l ∧
    n = ((i * 16 + j) * 16 + k) * 16 + l

/-- The escapes of one letter, each with the character that it names. -/
def shortEscapes : List (Char × Char) :=
  [('"', '"'), ('\\', '\\'), ('/', '/'), ('b', '\x08'), ('f', '\x0C'), ('n', '\n'), ('r', '\r'),
    ('t', '\t')]

/-- The bodies that spell a text. -/
inductive Spells : Text → Text → Prop where
  | nil : Spells [] []
  /-- A character as it is, if it is no control character. -/
  | plain {body text : Text} (c : Char) (hquote : c ≠ '"') (hescape : c ≠ '\\')
      (hcontrol : 0x20 ≤ c.toNat) (rest : Spells body text) : Spells (c :: body) (c :: text)
  /-- An escape of one letter. -/
  | short {body text : Text} (letter c : Char) (hshort : (letter, c) ∈ shortEscapes)
      (rest : Spells body text) : Spells ('\\' :: letter :: body) (c :: text)
  /-- An escape of four digits that name the character. -/
  | unit {body text : Text} (a b d e c : Char) (hunit : IsUnit a b d e c.toNat)
      (rest : Spells body text) : Spells ('\\' :: 'u' :: a :: b :: d :: e :: body) (c :: text)
  /-- Two escapes of four digits that name the halves of a surrogate pair. -/
  | pair {body text : Text} (a b d e a' b' d' e' c : Char) (high low : Nat)
      (hhigh : IsUnit a b d e (0xD800 + high)) (hlow : IsUnit a' b' d' e' (0xDC00 + low))
      (hhighBound : high < 0x400) (hlowBound : low < 0x400)
      (hnumber : c.toNat = 0x10000 + high * 0x400 + low) (rest : Spells body text) :
    Spells ('\\' :: 'u' :: a :: b :: d :: e :: '\\' :: 'u' :: a' :: b' :: d' :: e' :: body)
      (c :: text)

variable {body text : Text}

instance (c : Char) (n : Nat) : Decidable (IsDigit c n) := inferInstanceAs (Decidable (_ ∨ _))

/-- A run of characters with ascending numbers is looked up by the distance from its first. -/
theorem isDigit_of_range {first c : Char} (offset bound : Nat)
    (hall : ∀ k < bound, IsDigit (Char.ofNat (first.toNat + k)) (k + offset))
    (hlow : first.toNat ≤ c.toNat) (hhigh : c.toNat < first.toNat + bound) :
    IsDigit c (c.toNat - first.toNat + offset) := by
  have hdigit := hall (c.toNat - first.toNat) (by omega)
  rwa [Nat.add_sub_of_le hlow, Char.ofNat_toNat] at hdigit

theorem hexValue?_eq_some_iff {c : Char} {n : Nat} : Text.hexValue? c = some n ↔ IsDigit c n := by
  constructor
  · intro h
    unfold Text.hexValue? at h
    split at h
    next hrange =>
      obtain rfl := Option.some.inj h
      exact isDigit_of_range 0 10 (by decide) hrange.1 (Nat.lt_succ_of_le hrange.2)
    split at h
    next hrange =>
      obtain rfl := Option.some.inj h
      exact isDigit_of_range 10 6 (by decide) hrange.1 (Nat.lt_succ_of_le hrange.2)
    split at h
    next hrange =>
      obtain rfl := Option.some.inj h
      exact isDigit_of_range 10 6 (by decide) hrange.1 (Nat.lt_succ_of_le hrange.2)
    · cases h
  · intro h
    have hall : ∀ digits ∈ ["0123456789abcdef".toList, "0123456789ABCDEF".toList],
        ∀ i (hi : i < digits.length), Text.hexValue? digits[i] = some i := by decide
    rcases h with h | h
    · obtain ⟨hlt, rfl⟩ := List.getElem?_eq_some_iff.mp h
      exact hall _ (by simp) n hlt
    · obtain ⟨hlt, rfl⟩ := List.getElem?_eq_some_iff.mp h
      exact hall _ (by simp) n hlt

theorem IsDigit.lt {c : Char} {n : Nat} (h : IsDigit c n) : n < 16 := by
  rcases h with h | h
  · exact (List.getElem?_eq_some_iff.mp h).1
  · exact (List.getElem?_eq_some_iff.mp h).1

/-- A digit has no meaning of its own in a literal. -/
theorem IsDigit.ne {c : Char} {n : Nat} (h : IsDigit c n) : c ≠ '"' ∧ c ≠ '\\' := by
  have hall : ∀ n < 16, ¬ IsDigit '"' n ∧ ¬ IsDigit '\\' n := by decide
  constructor
  · rintro rfl
    exact (hall n h.lt).1 h
  · rintro rfl
    exact (hall n h.lt).2 h

/-- Reading one more digit. -/
theorem digit?_eq_some_iff {c : Char} {total n : Nat} :
    ((Text.hexValue? c).bind fun digit => if digit < 16 then some (total * 16 + digit) else none)
      = some n ↔ ∃ digit, IsDigit c digit ∧ n = total * 16 + digit := by
  simp only [Option.bind_eq_some_iff, hexValue?_eq_some_iff]
  refine exists_congr fun digit => and_congr_right fun hdigit => ?_
  rw [if_pos hdigit.lt, Option.some.injEq, eq_comm]

theorem unit?_eq_some_iff {a b c d : Char} {n : Nat} :
    unit? a b c d = some n ↔ IsUnit a b c d n := by
  simp only [unit?, Text.valueIn?, List.foldl_cons, List.foldl_nil, Option.bind_eq_bind,
    Option.bind_some]
  constructor
  · intro h
    obtain ⟨m₃, h, hd⟩ := Option.bind_eq_some_iff.mp h
    obtain ⟨m₂, h, hc⟩ := Option.bind_eq_some_iff.mp h
    obtain ⟨m₁, ha, hb⟩ := Option.bind_eq_some_iff.mp h
    obtain ⟨i, hi, rfl⟩ := digit?_eq_some_iff.mp ha
    obtain ⟨j, hj, rfl⟩ := digit?_eq_some_iff.mp hb
    obtain ⟨k, hk, rfl⟩ := digit?_eq_some_iff.mp hc
    obtain ⟨l, hl, rfl⟩ := digit?_eq_some_iff.mp hd
    exact ⟨i, j, k, l, hi, hj, hk, hl, by omega⟩
  · rintro ⟨i, j, k, l, hi, hj, hk, hl, rfl⟩
    rw [digit?_eq_some_iff.mpr ⟨i, hi, rfl⟩, Option.bind_some,
      digit?_eq_some_iff.mpr ⟨j, hj, rfl⟩, Option.bind_some,
      digit?_eq_some_iff.mpr ⟨k, hk, rfl⟩, Option.bind_some, digit?_eq_some_iff.mpr ⟨l, hl, rfl⟩]
    congr 1
    omega

theorem IsUnit.lt {a b c d : Char} {n : Nat} (h : IsUnit a b c d n) : n < 0x10000 := by
  obtain ⟨i, j, k, l, hi, hj, hk, hl, rfl⟩ := h
  have hdigits := And.intro (And.intro hi.lt hj.lt) (And.intro hk.lt hl.lt)
  omega

theorem short?_eq_some_iff {letter c : Char} :
    short? letter = some c ↔ (letter, c) ∈ shortEscapes := by
  unfold short? shortEscapes
  split <;> simp_all [eq_comm]

/-- The letter of a short escape does not begin a long one. -/
theorem decode?_short {letter c : Char} (h : short? letter = some c) (rest : Text) :
    decode? ('\\' :: letter :: rest) = (decode? rest).map (c :: ·) := by
  have hletter : letter ≠ 'u' := by
    rintro rfl
    cases h
  rw [decode?.eq_3 letter rest fun _ _ _ _ _ hu _ => hletter hu, h]

/-- No character has the number of half a pair. -/
theorem not_isHalf_toNat (c : Char) : isHigh c.toNat = false ∧ isLow c.toNat = false := by
  have hvalid : c.toNat < 0xD800 ∨ (0xDFFF < c.toNat ∧ c.toNat < 0x110000) := c.valid
  simp only [isHigh, isLow, Bool.and_eq_false_iff, decide_eq_false_iff_not]
  omega

theorem decode?_unit {a b d e c : Char} (h : unit? a b d e = some c.toNat) (rest : Text) :
    decode? ('\\' :: 'u' :: a :: b :: d :: e :: rest) = (decode? rest).map (c :: ·) := by
  obtain ⟨hhigh, hlow⟩ := not_isHalf_toNat c
  rw [decode?.eq_def]
  simp [h, hhigh, hlow]

theorem decode?_pair {a b d e a' b' d' e' : Char} {high low : Nat}
    (hhigh : unit? a b d e = some high) (hlow : unit? a' b' d' e' = some low)
    (hisHigh : isHigh high = true) (hisLow : isLow low = true) (rest : Text) :
    decode? ('\\' :: 'u' :: a :: b :: d :: e :: '\\' :: 'u' :: a' :: b' :: d' :: e' :: rest)
      = (decode? rest).map (paired high low :: ·) := by
  rw [decode?.eq_def]
  simp only [hhigh, hlow, hisHigh, hisLow, if_true]

theorem toNat_ofNat {n : Nat} (h : n.isValidChar) : (Char.ofNat n).toNat = n := by
  rw [Char.ofNat, dif_pos h]
  rfl

/-- The halves of a pair name the character whose number they make up. -/
theorem toNat_paired {high low : Nat} (hhigh : high < 0x400) (hlow : low < 0x400) :
    (paired (0xD800 + high) (0xDC00 + low)).toNat = 0x10000 + high * 0x400 + low := by
  have hnumber : 0x10000 + (0xD800 + high - 0xD800) * 0x400 + (0xDC00 + low - 0xDC00)
      = 0x10000 + high * 0x400 + low := by omega
  unfold paired
  rw [hnumber]
  exact toNat_ofNat (Or.inr (by omega))

/-- The decoder reads whatever the grammar spells. -/
theorem decode?_of_spells (h : Spells body text) : decode? body = some text := by
  induction h with
  | nil => rfl
  | plain c hquote hescape hcontrol rest ih =>
    have hplain : isPlain c = true := by simp [isPlain, hquote, hescape, hcontrol]
    rw [decode?_plain hplain, ih]
    rfl
  | short letter c hshort rest ih =>
    rw [decode?_short (short?_eq_some_iff.mpr hshort), ih]
    rfl
  | unit a b d e c hunit rest ih =>
    rw [decode?_unit (unit?_eq_some_iff.mpr hunit), ih]
    rfl
  | pair a b d e a' b' d' e' c high low hhigh hlow hhighBound hlowBound hnumber rest ih =>
    have hisHigh : isHigh (0xD800 + high) = true := by simp [isHigh]; omega
    have hisLow : isLow (0xDC00 + low) = true := by simp [isLow]; omega
    have hc : paired (0xD800 + high) (0xDC00 + low) = c :=
      Char.ext (UInt32.toNat_inj.mp ((toNat_paired hhighBound hlowBound).trans hnumber.symm))
    rw [decode?_pair (unit?_eq_some_iff.mpr hhigh) (unit?_eq_some_iff.mpr hlow) hisHigh hisLow, ih,
      hc]
    rfl

/-- The decoder reads nothing else. -/
theorem spells_of_decode? (h : decode? body = some text) : Spells body text := by
  fun_induction decode? body generalizing text
  case case1 =>
    obtain rfl := Option.some.inj h
    exact .nil
  case case4 a b d e high hhigh hisHigh a' b' d' e' rest low hlow hisLow ih =>
    obtain ⟨tail, htail, rfl⟩ := Option.map_eq_some_iff.mp h
    simp only [isHigh, isLow, Bool.and_eq_true, decide_eq_true_eq] at hisHigh hisLow
    obtain ⟨high, rfl⟩ := Nat.exists_eq_add_of_le hisHigh.1
    obtain ⟨low, rfl⟩ := Nat.exists_eq_add_of_le hisLow.1
    have hhighBound : high < 0x400 := by omega
    have hlowBound : low < 0x400 := by omega
    exact .pair a b d e a' b' d' e' _ high low (unit?_eq_some_iff.mp hhigh)
      (unit?_eq_some_iff.mp hlow) hhighBound hlowBound (toNat_paired hhighBound hlowBound)
      (ih htail)
  case case8 a b d e rest n hunit hnotHigh hnotLow ih =>
    obtain ⟨tail, htail, rfl⟩ := Option.map_eq_some_iff.mp h
    have hn := unit?_eq_some_iff.mp hunit
    have hvalid : n < 0xD800 ∨ (0xDFFF < n ∧ n < 0x110000) := by
      have hlt := hn.lt
      simp only [isHigh, isLow, Bool.and_eq_true, decide_eq_true_eq] at hnotHigh hnotLow
      omega
    exact .unit a b d e _ ((toNat_ofNat hvalid).symm ▸ hn) (ih htail)
  case case10 letter rest _ c hshort ih =>
    obtain ⟨tail, htail, rfl⟩ := Option.map_eq_some_iff.mp h
    exact .short letter c (short?_eq_some_iff.mp hshort) (ih htail)
  case case11 c rest _ _ hplain ih =>
    obtain ⟨tail, htail, rfl⟩ := Option.map_eq_some_iff.mp h
    simp only [isPlain, Bool.and_eq_true, decide_eq_true_eq] at hplain
    exact .plain c hplain.1.1 hplain.1.2 hplain.2 (ih htail)
  all_goals cases h

theorem decode?_eq_some_iff : decode? body = some text ↔ Spells body text :=
  ⟨spells_of_decode?, decode?_of_spells⟩

theorem scan?_plain {c : Char} (h : isPlain c = true) (rest : Text) :
    scan? (c :: rest) = (scan? rest).map fun found => (c :: found.1, found.2) := by
  have hquote : c ≠ '"' := by
    rintro rfl
    simp [isPlain] at h
  have hescape : c ≠ '\\' := by
    rintro rfl
    simp [isPlain] at h
  rw [scan?.eq_def]
  split <;> simp_all

theorem scan?_short {letter : Char} (h : (short? letter).isSome = true) (rest : Text) :
    scan? ('\\' :: letter :: rest)
      = (scan? rest).map fun found => ('\\' :: letter :: found.1, found.2) := by
  have hletter : letter ≠ 'u' := by
    rintro rfl
    cases h
  rw [scan?.eq_4 letter rest fun _ _ _ _ _ hu _ => hletter hu, if_pos h]

theorem scan?_unit {a b d e : Char} (h : (unit? a b d e).isSome = true) (rest : Text) :
    scan? ('\\' :: 'u' :: a :: b :: d :: e :: rest)
      = (scan? rest).map fun found => ('\\' :: 'u' :: a :: b :: d :: e :: found.1, found.2) := by
  rw [scan?, if_pos h]

/-- A body that spells a text ends at the quote behind it. -/
theorem scan?_of_spells (h : Spells body text) (rest : Text) :
    scan? (body ++ '"' :: rest) = some (body, rest) := by
  induction h with
  | nil => simp [scan?]
  | plain c hquote hescape hcontrol _ ih =>
    have hplain : isPlain c = true := by simp [isPlain, hquote, hescape, hcontrol]
    rw [List.cons_append, scan?_plain hplain, ih]
    rfl
  | short letter c hshort _ ih =>
    have hsome : (short? letter).isSome = true := by rw [short?_eq_some_iff.mpr hshort]; rfl
    rw [List.cons_append, List.cons_append, scan?_short hsome, ih]
    rfl
  | unit a b d e c hunit _ ih =>
    have hsome : (unit? a b d e).isSome = true := by rw [unit?_eq_some_iff.mpr hunit]; rfl
    simp only [List.cons_append]
    rw [scan?_unit hsome, ih]
    rfl
  | pair a b d e a' b' d' e' c high low hhigh hlow _ _ _ _ ih =>
    have hhigh : (unit? a b d e).isSome = true := by rw [unit?_eq_some_iff.mpr hhigh]; rfl
    have hlow : (unit? a' b' d' e').isSome = true := by rw [unit?_eq_some_iff.mpr hlow]; rfl
    simp only [List.cons_append]
    rw [scan?_unit hhigh, scan?_unit hlow, ih]
    rfl

/-- A written body spells the text it was written for. -/
theorem spells_encode (text : Text) : Spells (encode text) text :=
  spells_of_decode? (decode?_encode text)

end StepRecorder.Json.Literal
