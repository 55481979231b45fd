import Mathlib.Data.List.TakeWhile
import StepRecorder.Event.Pattern

/-!
The shapes by which a line shows an event, as languages. What stands between the quotes of a literal
is a *body*: no quote in it but after a backslash, and no backslash at its end.

    "  k  e  y  "  blanks  :  blanks  "  b  o  d  y  "  rest
    └───────── opens ───────────────┘ └─── body? ──┘

A body ends at one place only, so a quoted text inside of a body is never taken for a key.

Main statements: `stringUnder?_eq_some_iff`, `body?_eq_some_iff`, `command?_eq_some_iff`,
`stringUnder?_eq_none_of_suffix`.
-/

namespace StepRecorder.Event.Pattern

/-- The bodies of literals, whether or not they stand for a text. -/
inductive IsBody : Text → Prop where
  | nil : IsBody []
  | plain {body : Text} (c : Char) (hquote : c ≠ '"') (hescape : c ≠ '\\') (rest : IsBody body) :
    IsBody (c :: body)
  /-- A backslash and whatever it protects. -/
  | escaped {body : Text} (c : Char) (hline : c ≠ '\n') (rest : IsBody body) :
    IsBody ('\\' :: c :: body)

variable {key body tail text : Text}

theorem isBody_of_plain (h : ∀ c ∈ text, c ≠ '"' ∧ c ≠ '\\') : IsBody text := by
  induction text with
  | nil => exact .nil
  | cons c text ih =>
    obtain ⟨hquote, hescape⟩ := h c List.mem_cons_self
    exact .plain c hquote hescape (ih fun d hd => h d (List.mem_cons_of_mem c hd))

theorem body?_append (h : IsBody body) (rest : Text) : body? (body ++ '"' :: rest) = some body := by
  induction h with
  | nil => rfl
  | plain c hquote hescape _ ih =>
    rw [List.cons_append, body?, ih]
    · rfl
    · exact hquote
    · exact fun hc _ => hescape hc
    · exact fun _ _ hc _ => hescape hc
  | escaped c hline _ ih =>
    rw [List.cons_append, List.cons_append, body?, if_neg hline, ih]
    rfl

theorem exists_of_body? (h : body? text = some body) :
    IsBody body ∧ ∃ rest, text = body ++ '"' :: rest := by
  fun_induction body? text generalizing body
  case case2 rest =>
    obtain rfl := Option.some.inj h
    exact ⟨.nil, rest, rfl⟩
  case case5 c rest hline ih =>
    obtain ⟨body, hbody, rfl⟩ := Option.map_eq_some_iff.mp h
    obtain ⟨hrest, tail, rfl⟩ := ih hbody
    exact ⟨.escaped c hline hrest, tail, rfl⟩
  case case6 c rest hquote hlast hescape ih =>
    obtain ⟨body, hbody, rfl⟩ := Option.map_eq_some_iff.mp h
    obtain ⟨hrest, tail, rfl⟩ := ih hbody
    have hplain : c ≠ '\\' := by
      rintro rfl
      cases body with
      | nil => exact hescape _ _ rfl rfl
      | cons d body => exact hescape _ _ rfl rfl
    exact ⟨.plain c hquote hplain hrest, tail, rfl⟩
  all_goals cases h

/-- The scanner finds the one body that a text starts with. -/
theorem body?_eq_some_iff :
    body? text = some body ↔ IsBody body ∧ ∃ rest, text = body ++ '"' :: rest := by
  constructor
  · exact exists_of_body?
  · rintro ⟨hbody, rest, rfl⟩
    exact body?_append hbody rest

/-- A body ends at one place only. -/
theorem IsBody.append_inj {rest : Text} (hkey : IsBody key) (hbody : IsBody body)
    (h : key ++ '"' :: rest = body ++ '"' :: tail) : key = body ∧ rest = tail := by
  have hfound := body?_append hkey rest
  rw [h, body?_append hbody tail] at hfound
  obtain rfl := Option.some.inj hfound
  exact ⟨rfl, (List.cons.inj (List.append_cancel_left h)).2⟩

/-- A quote inside of a body is the end of an escape. -/
theorem IsBody.of_suffix {rest : Text} (h : IsBody body) (hsuffix : '"' :: rest <:+ body) :
    IsBody rest := by
  induction h with
  | nil => simp at hsuffix
  | plain c hquote _ _ ih =>
    rcases List.suffix_cons_iff.mp hsuffix with heq | hsuffix
    · exact absurd (List.cons.inj heq).1.symm hquote
    · exact ih hsuffix
  | escaped c _ hrest ih =>
    rcases List.suffix_cons_iff.mp hsuffix with heq | hsuffix
    · exact absurd (List.cons.inj heq).1 (by decide)
    rcases List.suffix_cons_iff.mp hsuffix with heq | hsuffix
    · rwa [(List.cons.inj heq).2]
    · exact ih hsuffix

/-- Blanks and nothing else. -/
def IsBlanks (text : Text) : Prop := ∀ c ∈ text, Text.isBlank c = true

theorem trimStart_append {blanks : Text} {c : Char} (h : IsBlanks blanks)
    (hc : Text.isBlank c = false) (rest : Text) :
    Text.trimStart (blanks ++ c :: rest) = c :: rest := by
  rw [Text.trimStart, List.dropWhile_append_of_pos h, List.dropWhile_cons_of_neg (by simp [hc])]

theorem exists_of_trimStart {rest : Text} (h : Text.trimStart text = rest) :
    ∃ blanks, IsBlanks blanks ∧ text = blanks ++ rest := by
  refine ⟨text.takeWhile Text.isBlank, ?_, ?_⟩
  · exact fun c hc => List.mem_takeWhile_imp hc
  · rw [← h, Text.trimStart, List.takeWhile_append_dropWhile]

/-- A text that opens a string under a key, and what follows the opening quote. -/
def Opens (key text rest : Text) : Prop :=
  ∃ before after, IsBlanks before ∧ IsBlanks after ∧
    text = '"' :: key ++ '"' :: before ++ ':' :: after ++ '"' :: rest

theorem stringUnder?_eq_some_iff {rest : Text} :
    stringUnder? key text = some rest ↔ Opens key text rest := by
  unfold stringUnder?
  constructor
  · intro h
    obtain ⟨text₁, hkey, h⟩ := Option.bind_eq_some_iff.mp h
    obtain ⟨text₂, hcolon, hquote⟩ := Option.bind_eq_some_iff.mp h
    obtain ⟨before, hbefore, rfl⟩ := exists_of_trimStart (Text.eq_append_of_after? hcolon)
    obtain ⟨after, hafter, rfl⟩ := exists_of_trimStart (Text.eq_append_of_after? hquote)
    refine ⟨before, after, hbefore, hafter, ?_⟩
    rw [Text.eq_append_of_after? hkey]
    simp
  · rintro ⟨before, after, hbefore, hafter, rfl⟩
    have hkey : Text.after? ('"' :: key ++ ['"'])
        ('"' :: key ++ '"' :: before ++ ':' :: after ++ '"' :: rest)
          = some (before ++ ':' :: (after ++ '"' :: rest)) := by
      rw [show '"' :: key ++ '"' :: before ++ ':' :: after ++ '"' :: rest
        = '"' :: key ++ ['"'] ++ (before ++ ':' :: (after ++ '"' :: rest)) by simp]
      exact Text.after?_append _ _
    rw [hkey, Option.bind_eq_bind, Option.bind_some, trimStart_append hbefore (by decide)]
    change (Text.after? [':'] ([':'] ++ (after ++ '"' :: rest))).bind _ = _
    rw [Text.after?_append, Option.bind_some, trimStart_append hafter (by decide)]
    exact Text.after?_append ['"'] rest

/-- The places of a literal that look like a key do so by their last quote. -/
theorem eq_of_quoted_suffix {rest : Text} (hkey : IsBody key) (hbody : IsBody body)
    (htail : '"' ∉ tail) (h : '"' :: (key ++ '"' :: rest) <:+ '"' :: (body ++ '"' :: tail)) :
    rest = tail := by
  have hquoted : '"' ∈ key ++ '"' :: rest := by simp
  rcases List.suffix_cons_iff.mp h with heq | hsuffix
  · exact (hkey.append_inj hbody (List.cons.inj heq).2).2
  rcases List.suffix_or_suffix_of_suffix hsuffix (List.suffix_append body ('"' :: tail))
    with hend | ⟨inner, hinner⟩
  · -- the place is behind the body, where only one quote is left
    refine absurd ?_ htail
    rcases List.suffix_cons_iff.mp hend with heq | hend
    · exact (List.cons.inj heq).2 ▸ hquoted
    · exact hend.subset List.mem_cons_self
  · obtain ⟨outer, houter⟩ := hsuffix
    rw [← hinner, ← List.append_assoc] at houter
    have hsplit : outer ++ inner = body := List.append_cancel_right houter
    cases inner with
    | nil => exact absurd ((List.cons.inj hinner).2 ▸ hquoted) htail
    | cons c inner =>
      obtain ⟨rfl, hrest⟩ := List.cons.inj hinner
      have hafter : IsBody inner := hbody.of_suffix ⟨outer, hsplit⟩
      exact (hkey.append_inj hafter hrest.symm).2

theorem stringUnder?_eq_none_of_suffix {place : Text} (hkey : IsBody key) (hbody : IsBody body)
    (hquote : '"' ∉ tail) (hcolon : ':' ∉ tail) (h : place <:+ '"' :: (body ++ '"' :: tail)) :
    stringUnder? key place = none := by
  rw [Option.eq_none_iff_forall_ne_some]
  intro rest hrest
  obtain ⟨before, after, -, -, rfl⟩ := stringUnder?_eq_some_iff.mp hrest
  have htail : before ++ ':' :: after ++ '"' :: rest = tail :=
    eq_of_quoted_suffix hkey hbody hquote (by simpa using h)
  exact hcolon (by simp [← htail])

theorem stringUnder?_cons {c : Char} (hc : c ≠ '"') (key rest : Text) :
    stringUnder? key (c :: rest) = none := by
  simp [stringUnder?, Text.after?, hc.symm]

theorem filledUnder?_eq_none {key : Text} (h : stringUnder? key text = none) :
    filledUnder? key text = none := by
  rw [filledUnder?, h]
  rfl

theorem locator?_eq_some {place rest : Text} (h : Opens locatorKey place (body ++ '"' :: rest))
    (hbody : IsBody body) (hslashes : ['/', '/'] <+: body) : locator? place = some body := by
  obtain ⟨more, rfl⟩ := hslashes
  rw [locator?, stringUnder?_eq_some_iff.mpr h, Option.bind_eq_bind, Option.bind_some,
    List.append_assoc, Text.after?_append, Option.bind_some, ← List.append_assoc,
    body?_append hbody]

theorem filledUnder?_eq_some {key place rest : Text} (h : Opens key place (body ++ '"' :: rest))
    (hbody : IsBody body) (hne : body ≠ []) : filledUnder? key place = some body := by
  rw [filledUnder?, stringUnder?_eq_some_iff.mpr h, Option.bind_eq_bind, Option.bind_some,
    body?_append hbody]
  simp [hne]

/-- Whether a text can be the id in a path. -/
def IsId (id : Text) : Prop := id ≠ [] ∧ ∀ c ∈ id, isIdChar c = true

/-- The path of a command on an element. -/
def path (id command : Text) : Text := "/element/".toList ++ id ++ '/' :: command

theorem command?_eq_some_iff {command id : Text} :
    command? command text = some id ↔ IsId id ∧ path id command <+: text := by
  unfold command? path
  generalize "/element/".toList = lead
  constructor
  · intro h
    obtain ⟨text₁, hlead, h⟩ := Option.bind_eq_some_iff.mp h
    obtain ⟨text₂, hcommand, h⟩ := Option.bind_eq_some_iff.mp h
    split at h
    · cases h
    next hne =>
      obtain rfl := Option.some.inj h
      refine ⟨⟨by simpa using hne, fun c hc => List.mem_takeWhile_imp hc⟩, text₂, ?_⟩
      rw [Text.eq_append_of_after? hlead, List.append_assoc, List.append_assoc,
        ← Text.eq_append_of_after? hcommand, List.takeWhile_append_dropWhile]
  · rintro ⟨⟨hne, hid⟩, rest, rfl⟩
    have hslash : isIdChar '/' = false := by decide
    have hlead : lead ++ id ++ '/' :: command ++ rest
        = lead ++ (id ++ '/' :: (command ++ rest)) := by simp
    have htake : (id ++ '/' :: (command ++ rest)).takeWhile isIdChar = id := by
      rw [List.takeWhile_append_of_pos hid, List.takeWhile_cons_of_neg (by simp [hslash]),
        List.append_nil]
    have hdrop : (id ++ '/' :: (command ++ rest)).dropWhile isIdChar = '/' :: command ++ rest := by
      rw [List.dropWhile_append_of_pos hid, List.dropWhile_cons_of_neg (by simp [hslash])]
      rfl
    rw [hlead, Text.after?_append, Option.bind_eq_bind, Option.bind_some, htake, hdrop,
      Text.after?_append]
    simp [hne]

end StepRecorder.Event.Pattern
