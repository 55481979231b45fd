import StepRecorder.Naming.Fallback
import StepRecorder.Proofs.Text.Blank
import StepRecorder.Proofs.Text.Search

/-!
Names from attributes. A value is read up to the first quote, which need not be the one that it
started with:

    [@name="Sign In"]        Sign In
    [@name="Don't Allow"]    Don
    [@name="'Tis"]           nothing, the search goes on at Tis

So the whole value gives the name if it holds neither quote.

Main statement: `fallback_uses_value_up_to_quote`.
-/

namespace StepRecorder.Naming

/-! ### The name that a value gives -/

/-- A name with a role word at its end. -/
def withRole (role : Option Text) (name : Text) : Text :=
  match role with
  | none => name
  | some word => if endsWithRole word name then name else name ++ word

/-- The choice that is made by counting. -/
def counted (count : Nat) : Choice := ⟨numbered (count + 1), .synthesized⟩

/-- The choice for a value: its name where it gives an acceptable one, else the next number. -/
def choiceFor (role : Option Text) (value : Text) (count : Nat) : Choice :=
  let name := withRole role (Text.squeeze value)
  if Text.squeeze value ≠ [] ∧ isAcceptable name = true then ⟨name, .attributeValue⟩
  else counted count

/-- The role word of the class that a locator starts with. -/
def roleOf? (locator : Text) : Option Text := (elementClass? locator).bind role?

/-- The fallback depends on a locator by its value and its role word alone. -/
theorem fallback_eq (locator : Text) (count : Nat) :
    fallback locator count = match attributeValue? locator with
      | some value => choiceFor (roleOf? locator) value count
      | none => counted count := by
  unfold fallback attributeName?
  cases attributeValue? locator with
  | none => rfl
  | some value =>
    by_cases hempty : Text.squeeze value = []
    · simp [choiceFor, counted, hempty]
    · cases hrole : (elementClass? locator).bind role? <;>
        simp [choiceFor, counted, withRole, roleOf?, hempty, hrole]

/-! ### The class of a locator -/

/-- A class name, as it stands behind the slashes of a locator. -/
structure IsClassName (kind : Text) : Prop where
  start : (kind.head?.map isClassStart).getD false = true
  chars : ∀ c ∈ kind, isClassChar c = true

theorem IsClassName.not_mem {kind : Text} (h : IsClassName kind) {c : Char}
    (hc : isClassChar c = false) : c ∉ kind := fun hmem => by simp [h.chars c hmem] at hc

/-- Class names stay within a part of ASCII that starts with the point and ends with `z`. -/
theorem range_of_isClassChar {c : Char} (h : isClassChar c = true) :
    46 ≤ c.toNat ∧ c.toNat ≤ 122 := by
  have hupper (h : c.isUpper = true) : 65 ≤ c.toNat ∧ c.toNat ≤ 90 := of_decide_eq_true h
  have hlower (h : c.isLower = true) : 97 ≤ c.toNat ∧ c.toNat ≤ 122 :=
    (Bool.and_eq_true_iff.mp h).imp of_decide_eq_true of_decide_eq_true
  have hdigit (h : c.isDigit = true) : 48 ≤ c.toNat ∧ c.toNat ≤ 57 :=
    (Bool.and_eq_true_iff.mp h).imp of_decide_eq_true of_decide_eq_true
  simp only [isClassChar, Bool.or_eq_true, decide_eq_true_eq] at h
  rcases h with (halphanum | rfl) | rfl
  · rcases Bool.or_eq_true_iff.mp halphanum with halpha | h
    · rcases Bool.or_eq_true_iff.mp halpha with h | h
      · have := hupper h
        omega
      · have := hlower h
        omega
    · have := hdigit h
      omega
  · decide
  · decide

theorem isBlank_of_isClassChar {c : Char} (h : isClassChar c = true) : Text.isBlank c = false := by
  obtain ⟨hlow, hhigh⟩ := range_of_isClassChar h
  simp only [Text.isBlank, Bool.or_eq_false_iff, Bool.and_eq_false_iff, decide_eq_false_iff_not]
  omega

/-- The class of a locator ends in front of the first character that no class name has. -/
theorem elementClass?_append {kind : Text} (h : IsClassName kind) {c : Char}
    (hc : isClassChar c = false) (rest : Text) :
    elementClass? ('/' :: '/' :: (kind ++ c :: rest)) = some kind := by
  have hclass : ∀ text : Text, elementClass? ('/' :: '/' :: text)
      = if ((Text.trimStart text).head?.map isClassStart).getD false
        then some ((Text.trimStart text).takeWhile isClassChar) else none := fun _ => rfl
  obtain ⟨hstart, hchars⟩ := h
  have htake : (kind ++ c :: rest).takeWhile isClassChar = kind := by
    rw [List.takeWhile_append_of_pos hchars, List.takeWhile_cons_of_neg (by simp [hc]),
      List.append_nil]
  cases kind with
  | nil => cases hstart
  | cons first kind =>
    have hsolid := isBlank_of_isClassChar (hchars first List.mem_cons_self)
    have htrim : Text.trimStart (first :: kind ++ c :: rest) = first :: kind ++ c :: rest :=
      Text.dropWhile_eq_self_of_head? (by rintro d ⟨⟩; exact hsolid)
    rw [hclass, htrim, htake]
    exact if_pos hstart

/-! ### The value of an attribute -/

/-- What stands in front of the first quote. -/
def beforeQuote (text : Text) : Text := text.takeWhile fun c => !isQuote c

/-- Whether a text holds neither quote. -/
def IsUnquoted (text : Text) : Prop := ∀ c ∈ text, isQuote c = false

instance (text : Text) : Decidable (IsUnquoted text) :=
  List.decidableBAll _ text

theorem isUnquoted_beforeQuote (text : Text) : IsUnquoted (beforeQuote text) := by
  intro c hc
  simpa using List.all_eq_true.mp List.all_takeWhile c hc

/-- An unquoted text is cut off by a quote behind it, whatever follows. -/
theorem beforeQuote_append {before : Text} (h : IsUnquoted before) {quote : Char}
    (hquote : isQuote quote = true) (rest : Text) :
    beforeQuote (before ++ quote :: rest) = before := by
  rw [beforeQuote, List.takeWhile_append_of_pos (by simpa [IsUnquoted] using h),
    List.takeWhile_cons_of_neg (by simp [hquote]), List.append_nil]

theorem valueOf?_of_ne {c : Char} (h : c ≠ '@') (key rest : Text) :
    valueOf? key (c :: rest) = none := by
  simp [valueOf?, Text.after?, h.symm]

theorem isBlank_of_isQuote {c : Char} (h : isQuote c = true) : Text.isBlank c = false := by
  simp only [isQuote, Bool.or_eq_true, decide_eq_true_eq] at h
  rcases h with rfl | rfl <;> decide

/-- A value in quotes is read up to the next quote, unless that follows at once. -/
theorem valueOf?_quoted (key : Text) {opening closing : Char} (hopening : isQuote opening = true)
    {before : Text} (hbefore : IsUnquoted before) (hclosing : isQuote closing = true)
    (rest : Text) :
    valueOf? key ('@' :: key ++ '=' :: opening :: (before ++ closing :: rest))
      = if before = [] then none else some before := by
  have hequals (text : Text) : Text.trimStart ('=' :: text) = '=' :: text :=
    Text.dropWhile_eq_self_of_head? (by rintro c ⟨⟩; decide)
  have hquote (text : Text) : Text.trimStart (opening :: text) = opening :: text :=
    Text.dropWhile_eq_self_of_head? (by rintro c ⟨⟩; exact isBlank_of_isQuote hopening)
  have hvalue : (before ++ closing :: rest).takeWhile (fun c => !isQuote c) = before :=
    beforeQuote_append hbefore hclosing rest
  have hlength : before.length < (before ++ closing :: rest).length := by
    rw [List.length_append, List.length_cons]
    exact Nat.lt_add_of_pos_right (Nat.succ_pos _)
  rw [valueOf?, Text.after?_append, Option.bind_eq_bind, Option.bind_some, hequals]
  simp only [Text.after?, if_true, Option.bind_some, hquote, hvalue, hopening, Bool.true_and,
    hlength, decide_true, Bool.and_true]
  cases before <;> rfl

/-! ### Locators with a name in quotes -/

/-- The locator of the elements of a class that have a name, in quotes. -/
def namedLocator (kind : Text) (quote : Char) (value : Text) : Text :=
  "//".toList ++ kind ++ "[@name=".toList ++ quote :: value ++ [quote, ']']

section Named

variable {kind : Text} {quote : Char}

/-- A locator, cut where its attribute begins. -/
theorem namedLocator_eq (kind : Text) (quote : Char) (value : Text) :
    namedLocator kind quote value = '/' :: '/' :: (kind ++ ['['])
      ++ ('@' :: "name".toList ++ '=' :: quote :: (value ++ [quote, ']'])) := by
  simp [namedLocator]

theorem elementClass?_namedLocator (h : IsClassName kind) (quote : Char) (value : Text) :
    elementClass? (namedLocator kind quote value) = some kind := by
  have hcut := elementClass?_append h (by decide : isClassChar '[' = false)
    ('@' :: "name".toList ++ '=' :: quote :: (value ++ [quote, ']']))
  rw [namedLocator_eq, ← hcut]
  simp

/-- No attribute starts in front of the bracket. -/
theorem firstMatch_namedLocator (h : '@' ∉ kind) (quote : Char) (key value : Text) :
    Text.firstMatch (valueOf? key) (namedLocator kind quote value)
      = Text.firstMatch (valueOf? key)
          ('@' :: "name".toList ++ '=' :: quote :: (value ++ [quote, ']'])) := by
  have hlead : ∀ c ∈ '/' :: '/' :: (kind ++ ['[']), c ≠ '@' := by
    rintro c hc rfl
    simp [h] at hc
  rw [namedLocator_eq]
  exact Text.firstMatch_append (fun c hc rest => valueOf?_of_ne (hlead c hc) key rest) _

/-- The value up to its first quote is found, where that is not at once. -/
theorem attributeValue?_namedLocator (h : '@' ∉ kind) (hquote : isQuote quote = true)
    {before : Text} (hne : before ≠ []) (hbefore : IsUnquoted before) {closing : Char}
    (hclosing : isQuote closing = true) {value rest : Text}
    (hvalue : value ++ [quote, ']'] = before ++ closing :: rest) :
    attributeValue? (namedLocator kind quote value) = some before := by
  have hfound := valueOf?_quoted "name".toList hquote hbefore hclosing rest
  rw [if_neg hne, ← hvalue] at hfound
  have hfirst := (firstMatch_namedLocator h quote "name".toList value).trans
    (Text.firstMatch_of_eq_some hfound)
  rw [attributeValue?, attributes, List.findSome?_cons, hfirst]

/-- No attribute's value is empty. -/
theorem valueOf?_of_quote {key : Text} (hkey : key ∈ attributes) (hquote : isQuote quote = true)
    {other : Char} (hother : isQuote other = true) (rest : Text) :
    valueOf? key ('@' :: "name".toList ++ '=' :: quote :: other :: rest) = none := by
  have hdiffers (text : Text)
      (h : (('@' :: key).zip ('@' :: "name".toList)).any (fun pair => pair.1 != pair.2) = true) :
      valueOf? key ('@' :: "name".toList ++ text) = none := by
    rw [valueOf?, Text.after?_append_of_differ h]
    rfl
  simp only [attributes, List.mem_cons, List.not_mem_nil, or_false] at hkey
  rcases hkey with rfl | rfl | rfl
  · exact (valueOf?_quoted "name".toList hquote (nofun : IsUnquoted []) hother rest).trans
      (if_pos rfl)
  · exact hdiffers _ (by decide +kernel)
  · exact hdiffers _ (by decide +kernel)

theorem attributeValue?_congr {locator other : Text} (h : ∀ key ∈ attributes,
    Text.firstMatch (valueOf? key) locator = Text.firstMatch (valueOf? key) other) :
    attributeValue? locator = attributeValue? other := by
  have hname := h "name".toList (by simp [attributes])
  have hlabel := h "label".toList (by simp [attributes])
  have hdescription := h "content-desc".toList (by simp [attributes])
  simp only [attributeValue?, attributes, List.findSome?_cons, List.findSome?_nil, hname, hlabel,
    hdescription]

/-- A value that starts with a quote is passed over, and the quote with it. -/
theorem attributeValue?_namedLocator_of_quote (h : '@' ∉ kind) (hquote : isQuote quote = true)
    {other : Char} (hother : isQuote other = true) (rest : Text) :
    attributeValue? (namedLocator kind quote (other :: rest))
      = attributeValue? (rest ++ [quote, ']']) := by
  refine attributeValue?_congr fun key hkey => ?_
  have hat := valueOf?_of_quote hkey hquote hother (rest ++ [quote, ']'])
  have hpassed : ∀ c ∈ "name".toList ++ ['=', quote, other], c ≠ '@' := by
    have hquoteAt : '@' ≠ quote := by rintro rfl; cases hquote
    have hotherAt : '@' ≠ other := by rintro rfl; cases hother
    rintro c hc rfl
    simp [hquoteAt, hotherAt] at hc
  calc Text.firstMatch (valueOf? key) (namedLocator kind quote (other :: rest))
      = Text.firstMatch (valueOf? key)
          ('@' :: "name".toList ++ '=' :: quote :: other :: (rest ++ [quote, ']'])) :=
        firstMatch_namedLocator h quote key (other :: rest)
    _ = Text.firstMatch (valueOf? key)
          ("name".toList ++ ['=', quote, other] ++ (rest ++ [quote, ']'])) := by
        rw [List.cons_append, Text.firstMatch, ← List.cons_append, hat]
        simp
    _ = Text.firstMatch (valueOf? key) (rest ++ [quote, ']']) :=
        Text.firstMatch_append (fun c hc text => valueOf?_of_ne (hpassed c hc) key text) _

end Named

/-! ### The fallback -/

/-- The fallback for a class and a name in quotes is made from what stands in front of the first
quote in the name. That is all of the name if it holds neither quote; where it starts with a quote,
the search goes on behind it. -/
theorem fallback_uses_value_up_to_quote {kind : Text} (hkind : IsClassName kind) {quote : Char}
    (hquote : isQuote quote = true) (value : Text) (count : Nat) :
    (IsUnquoted value → value ≠ [] →
        fallback (namedLocator kind quote value) count = choiceFor (role? kind) value count)
      ∧ (∀ before other rest, value = before ++ other :: rest → IsUnquoted before →
          isQuote other = true → before ≠ [] →
          fallback (namedLocator kind quote value) count = choiceFor (role? kind) before count)
      ∧ (∀ other rest, value = other :: rest → isQuote other = true →
          fallback (namedLocator kind quote value) count
            = match attributeValue? (rest ++ [quote, ']']) with
              | some later => choiceFor (role? kind) later count
              | none => counted count) := by
  have hat : '@' ∉ kind := hkind.not_mem (by decide)
  have hrole : roleOf? (namedLocator kind quote value) = role? kind := by
    rw [roleOf?, elementClass?_namedLocator hkind, Option.bind_some]
  refine ⟨fun hvalue hne => ?_, fun before other rest hparts hbefore hother hne => ?_,
    fun other rest hparts hother => ?_⟩
  · rw [fallback_eq, hrole, attributeValue?_namedLocator hat hquote hne hvalue hquote rfl]
  · have hcut : value ++ [quote, ']'] = before ++ other :: (rest ++ [quote, ']']) := by
      rw [hparts, List.append_assoc, List.cons_append]
    rw [fallback_eq, hrole, attributeValue?_namedLocator hat hquote hne hbefore hother hcut]
  · rw [fallback_eq, hrole, hparts, attributeValue?_namedLocator_of_quote hat hquote hother]

/-- A name that is read to its end, one that is cut, and one that is passed over. -/
theorem names_read_up_to_apostrophe :
    let kind := "android.widget.Button".toList
    let named := fun value : String => namedLocator kind '"' value.toList
    fallback (named "Sign  In") 0 = ⟨"SignInButton".toList, .attributeValue⟩
      ∧ fallback (named "Don't Allow") 0 = ⟨"DonButton".toList, .attributeValue⟩
      ∧ fallback (named "'Tis") 0 = ⟨"DynamicElement_1".toList, .synthesized⟩ := by
  intro kind named
  have hkind : IsClassName kind := ⟨by decide +kernel, List.all_eq_true.mp (by decide +kernel)⟩
  have hread := fun value : String =>
    fallback_uses_value_up_to_quote hkind (by decide : isQuote '"' = true) value.toList 0
  obtain ⟨hwhole, -, -⟩ := hread "Sign  In"
  obtain ⟨-, hcut, -⟩ := hread "Don't Allow"
  obtain ⟨-, -, hpassed⟩ := hread "'Tis"
  refine ⟨(hwhole (by decide +kernel) (by decide +kernel)).trans (by decide +kernel),
    (hcut "Don".toList '\x27' "t Allow".toList (by decide +kernel) (by decide +kernel) (by decide)
      (by decide +kernel)).trans (by decide +kernel),
    (hpassed '\x27' "Tis".toList (by decide +kernel) (by decide)).trans (by decide +kernel)⟩

/-- An apostrophe in a name in double quotes ends the name, though the quotes would pair. -/
theorem fallback_ends_at_apostrophe :
    let kind := "XCUIElementTypeButton".toList
    let value := "Don't Allow".toList
    IsClassName kind ∧ '"' ∉ value
      ∧ choiceFor (role? kind) value 0 = ⟨"Don'tAllowButton".toList, .attributeValue⟩
      ∧ fallback (namedLocator kind '"' value) 0 = ⟨"DonButton".toList, .attributeValue⟩
      ∧ fallback (namedLocator kind '"' value) 0 ≠ choiceFor (role? kind) value 0 :=
  ⟨⟨by decide +kernel, List.all_eq_true.mp (by decide +kernel)⟩, by decide +kernel,
    by decide +kernel, by decide +kernel, by decide +kernel⟩

end StepRecorder.Naming
