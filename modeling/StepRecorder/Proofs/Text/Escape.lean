import StepRecorder.Proofs.Text.Control

/-!
Escapes are read back. A text that holds no backslash of its own has one in its escaped form only
where an escape begins, and each escape tells where it ends: the short ones by their letter, the
long ones by their brace. So what follows is never taken for a part of it:

    U+0001 followed by 0}     \u{1}0}
    U+0010 followed by }      \u{10}}

Main statement: `escaping_is_safe_and_unambiguous`.
-/

namespace StepRecorder.Text

/-! ### Hexadecimal numerals -/

theorem hexValue?_digitChar {digit : Nat} (h : digit < 16) :
    hexValue? (Nat.digitChar digit) = some digit := by
  revert digit
  decide

theorem valueIn?_concat {digits : Text} {n digit : Nat} (hdigits : valueIn? 16 digits = some n)
    (hdigit : digit < 16) :
    valueIn? 16 (digits ++ [Nat.digitChar digit]) = some (n * 16 + digit) := by
  unfold valueIn? at hdigits ⊢
  rw [List.foldl_append, hdigits]
  simp only [List.foldl_cons, List.foldl_nil, Option.bind_eq_bind, Option.bind_some,
    hexValue?_digitChar hdigit, if_pos hdigit]

/-- A hexadecimal numeral has the value it was written for. -/
theorem valueIn?_hexadecimal (n : Nat) : valueIn? 16 (hexadecimal n) = some n := by
  unfold hexadecimal
  induction n using Nat.strongRecOn with
  | _ n ih =>
    rw [Nat.toDigits_eq_if (by decide)]
    split
    next hlow =>
      have hone : valueIn? 16 ([] ++ [Nat.digitChar n]) = some (0 * 16 + n) :=
        valueIn?_concat rfl hlow
      rwa [Nat.zero_mul, Nat.zero_add] at hone
    next hhigh =>
      have hfirst := ih (n / 16) (Nat.div_lt_self (by omega) (by decide))
      rw [valueIn?_concat hfirst (Nat.mod_lt n (by decide))]
      congr 1
      omega

theorem brace_not_mem_hexadecimal (n : Nat) : '\x7d' ∉ hexadecimal n := by
  have hdigits : ∀ digit < 16, '\x7d' ≠ Nat.digitChar digit := by decide
  intro hmem
  obtain ⟨digit, hlt, heq⟩ := exists_digitChar_of_mem_toDigits (by decide) hmem
  exact hdigits digit hlt heq

/-! ### One character back -/

/-- The character that an escaped text begins with, and what follows its escape. -/
def readEscape? : Text → Option (Char × Text)
  | [] => none
  | '\\' :: 'n' :: rest => some ('\n', rest)
  | '\\' :: 'r' :: rest => some ('\r', rest)
  | '\\' :: 't' :: rest => some ('\t', rest)
  | '\\' :: 'u' :: '\x7b' :: rest =>
    (valueIn? 16 (rest.takeWhile (· ≠ '\x7d'))).map fun n =>
      (Char.ofNat n, (rest.dropWhile (· ≠ '\x7d')).tail)
  | c :: rest => some (c, rest)

theorem readEscape?_braced (c : Char) (rest : Text) :
    readEscape? (braced c ++ rest) = some (c, rest) := by
  have hdigits : ∀ d ∈ hexadecimal c.toNat, (decide (d ≠ '\x7d')) = true := by
    intro d hd
    refine decide_eq_true ?_
    rintro rfl
    exact brace_not_mem_hexadecimal c.toNat hd
  have htext : braced c ++ rest
      = '\\' :: 'u' :: '\x7b' :: (hexadecimal c.toNat ++ '\x7d' :: rest) := by
    simp [braced]
  rw [htext, readEscape?, List.takeWhile_append_of_pos hdigits,
    List.dropWhile_append_of_pos hdigits, List.takeWhile_cons_of_neg (by simp),
    List.dropWhile_cons_of_neg (by simp), List.append_nil, valueIn?_hexadecimal, Option.map_some,
    Char.ofNat_toNat, List.tail_cons]

theorem readEscape?_cons {c : Char} (h : c ≠ '\\') (rest : Text) :
    readEscape? (c :: rest) = some (c, rest) := by
  rw [readEscape?.eq_def]
  split <;> simp_all

/-- Any character but a backslash is read back from its escape, whatever follows. -/
theorem readEscape?_escapeControl {c : Char} (h : c ≠ '\\') (rest : Text) :
    readEscape? (escapeControl c ++ rest) = some (c, rest) := by
  unfold escapeControl
  split
  next hc => rw [hc]; rfl
  split
  next hc => rw [hc]; rfl
  split
  next hc => rw [hc]; rfl
  split
  · exact readEscape?_braced c rest
  · exact readEscape?_cons h rest

/-- Texts without a backslash are told apart by their escaped forms. -/
theorem escapeControls_inj {text other : Text} (htext : '\\' ∉ text) (hother : '\\' ∉ other)
    (h : escapeControls text = escapeControls other) : text = other := by
  induction text generalizing other with
  | nil =>
    cases other with
    | nil => rfl
    | cons d other => exact absurd h.symm (escapeControls_ne_nil (List.cons_ne_nil d other))
  | cons c text ih =>
    cases other with
    | nil => exact absurd h (escapeControls_ne_nil (List.cons_ne_nil c text))
    | cons d other =>
      obtain ⟨hc, hmore⟩ := List.ne_and_not_mem_of_not_mem_cons htext
      obtain ⟨hd, hmore'⟩ := List.ne_and_not_mem_of_not_mem_cons hother
      have hread := congrArg readEscape? h
      simp only [escapeControls, List.flatMap_cons] at hread
      rw [readEscape?_escapeControl (Ne.symm hc), readEscape?_escapeControl (Ne.symm hd)] at hread
      obtain ⟨rfl, hrest⟩ := Prod.mk.inj (Option.some.inj hread)
      rw [ih hmore hmore' hrest]

theorem escapeControls_eq_self_iff {text : Text} :
    escapeControls text = text ↔ ∀ c ∈ text, isControl c = false := by
  constructor
  · intro h c hc
    rw [← h] at hc
    exact isControl_of_mem_escapeControls hc
  · exact escapeControls_eq_self

/-- An escaped text holds no control character, and is the text itself exactly if that holds none
either. Of texts without a backslash no two have the same escaped form. -/
theorem escaping_is_safe_and_unambiguous :
    (∀ text, ∀ c ∈ escapeControls text, isControl c = false)
      ∧ (∀ text, escapeControls text = text ↔ ∀ c ∈ text, isControl c = false)
      ∧ ∀ text other, '\\' ∉ text → '\\' ∉ other →
        (escapeControls text = escapeControls other ↔ text = other) := by
  refine ⟨fun _ _ => isControl_of_mem_escapeControls, fun _ => escapeControls_eq_self_iff, ?_⟩
  intro text other htext hother
  exact ⟨escapeControls_inj htext hother, congrArg escapeControls⟩

/-- Escapes of one digit and of two, where the digit behind the first one could be its second. -/
theorem escaping_of_digit_and_brace :
    let text := "\x010\x7d".toList
    let other := "\x10\x7d".toList
    '\\' ∉ text ∧ '\\' ∉ other ∧ escapeControls text ≠ escapeControls other := by
  intro text other
  have htext : '\\' ∉ text := by decide
  have hother : '\\' ∉ other := by decide
  have hsame := escaping_is_safe_and_unambiguous.2.2 text other htext hother
  exact ⟨htext, hother, (not_congr hsame).mpr (by decide)⟩

-- A backslash is kept as it is, so a text that holds one may look like an escape.
example : escapeControls ['\\', 'n'] = escapeControls ['\n'] := by decide

end StepRecorder.Text
