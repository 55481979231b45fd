import StepRecorder.Proofs.Naming
import StepRecorder.Proofs.Naming.Attribute

/-!
Naming by a name. The name that an attribute gave is given again by a locator that has it as its
`name`, for the same class:

    //XCUIElementTypeButton[@label="Log in"]         LoginButton
    //XCUIElementTypeButton[@name='LoginButton']     LoginButton

What is read back is the whole name, as neither a value nor a role word holds a quote, and it is
kept as it is: no blanks are left in it, and it ends with its role word.

Main statement: `fallback_is_idempotent`.
-/

namespace StepRecorder.Naming

/-! ### Names that are kept -/

theorem endsWithRole_append (word name : Text) : endsWithRole word (name ++ word) = true := by
  rw [endsWithRole, List.map_append, List.isSuffixOf_iff_suffix]
  exact List.suffix_append _ _

/-- No role word is appended twice. -/
theorem withRole_withRole (role : Option Text) (name : Text) :
    withRole role (withRole role name) = withRole role name := by
  cases role with
  | none => rfl
  | some word =>
    have hends : endsWithRole word (withRole (some word) name) = true := by
      by_cases h : endsWithRole word name = true
      · rwa [withRole, if_pos h]
      · rw [withRole, if_neg h]
        exact endsWithRole_append word name
    exact if_pos hends

/-- A choice for a value is made from it only if its name is acceptable. -/
theorem choiceFor_eq_attributeValue_iff {role : Option Text} {value name : Text} {count : Nat} :
    choiceFor role value count = ⟨name, .attributeValue⟩
      ↔ name = withRole role (Text.squeeze value) ∧ Text.squeeze value ≠ []
        ∧ isAcceptable name = true := by
  simp only [choiceFor, counted]
  split
  next h =>
    simp only [Choice.mk.injEq, and_true]
    constructor
    · rintro rfl
      exact ⟨rfl, h⟩
    · exact fun hname => hname.1.symm
  next h =>
    constructor
    · intro hcounted
      cases hcounted
    · rintro ⟨rfl, haccepted⟩
      exact absurd haccepted h

/-- The choice of a name for itself. -/
theorem choiceFor_self {role : Option Text} {value name : Text} {count : Nat}
    (h : choiceFor role value count = ⟨name, .attributeValue⟩) (again : Nat) :
    choiceFor role name again = ⟨name, .attributeValue⟩ := by
  obtain ⟨hname, -, haccepted⟩ := choiceFor_eq_attributeValue_iff.mp h
  have hproper := isProper_of_isAcceptable haccepted
  have hkept : withRole role name = name := by
    rw [hname, withRole_withRole]
  rw [choiceFor_eq_attributeValue_iff, hproper.solid.squeeze_eq, hkept]
  exact ⟨rfl, hproper.ne_nil, haccepted⟩

/-! ### Names without quotes -/

theorem isUnquoted_of_valueOf? {key text value : Text} (h : valueOf? key text = some value) :
    IsUnquoted value := by
  simp only [valueOf?, Option.bind_eq_bind, Option.bind_eq_some_iff] at h
  obtain ⟨-, -, text, -, h⟩ := h
  split at h
  · cases h
  next opening rest _ =>
    split at h
    · obtain rfl := Option.some.inj h
      exact isUnquoted_beforeQuote rest
    · cases h

/-- Whatever attribute a value is read from, it holds no quote. -/
theorem isUnquoted_of_attributeValue? {locator value : Text}
    (h : attributeValue? locator = some value) : IsUnquoted value := by
  obtain ⟨key, -, hfound⟩ := List.exists_of_findSome?_eq_some h
  obtain ⟨before, place, -, hplace, -⟩ := Text.firstMatch_eq_some_iff.mp hfound
  exact isUnquoted_of_valueOf? hplace

theorem isUnquoted_of_role? {kind word : Text} (h : role? kind = some word) : IsUnquoted word := by
  have hclasses : ∀ entry ∈ rolesOfClasses, IsUnquoted entry.2 := by decide +kernel
  have hshort : ∀ entry ∈ rolesOfShortClasses, IsUnquoted entry.2 := by decide +kernel
  rcases Option.or_eq_some_iff.mp h with h | ⟨-, h⟩
  · obtain ⟨before, after, hentries, -⟩ := List.lookup_eq_some_iff.mp h
    exact hclasses (kind, word) (by simp [hentries])
  · obtain ⟨before, after, hentries, -⟩ := List.lookup_eq_some_iff.mp h
    exact hshort (shortClass kind, word) (by simp [hentries])

theorem isUnquoted_of_roleOf? {locator : Text} : ∀ word ∈ roleOf? locator, IsUnquoted word := by
  intro word hword
  obtain ⟨kind, -, hrole⟩ := Option.bind_eq_some_iff.mp hword
  exact isUnquoted_of_role? hrole

theorem isUnquoted_withRole {role : Option Text} (hrole : ∀ word ∈ role, IsUnquoted word)
    {name : Text} (hname : IsUnquoted name) : IsUnquoted (withRole role name) := by
  cases role with
  | none => exact hname
  | some word =>
    rw [withRole]
    split
    · exact hname
    · exact List.forall_mem_append.mpr ⟨hname, hrole word rfl⟩

/-! ### The class is read again -/

theorem isClassChar_of_isClassStart {c : Char} (h : isClassStart c = true) :
    isClassChar c = true := by
  simp only [isClassStart, isClassChar, Bool.or_eq_true] at h ⊢
  rcases h with h | h
  · exact Or.inl (Or.inl (Bool.or_eq_true_iff.mpr (Or.inl h)))
  · exact Or.inl (Or.inr h)

theorem isClassName_of_elementClass? {locator kind : Text}
    (h : elementClass? locator = some kind) : IsClassName kind := by
  simp only [elementClass?, Option.bind_eq_bind, Option.bind_eq_some_iff] at h
  obtain ⟨text, -, h⟩ := h
  split at h
  next hstart =>
    obtain rfl := Option.some.inj h
    refine ⟨?_, fun c hc => List.all_eq_true.mp List.all_takeWhile c hc⟩
    cases htext : Text.trimStart text with
    | nil =>
      rw [htext] at hstart
      cases hstart
    | cons first rest =>
      rw [htext] at hstart
      rwa [List.takeWhile_cons_of_pos (isClassChar_of_isClassStart hstart)]
  · cases h

/-- The class of a locator, or a star for any. -/
def classOrAny (locator : Text) : Text := (elementClass? locator).getD ['*']

theorem elementClass?_classOrAny (locator : Text) (quote : Char) (value : Text) :
    elementClass? (namedLocator (classOrAny locator) quote value) = elementClass? locator := by
  cases hclass : elementClass? locator with
  | none =>
    rw [classOrAny, hclass]
    rfl
  | some kind =>
    rw [classOrAny, hclass]
    exact elementClass?_namedLocator (isClassName_of_elementClass? hclass) quote value

theorem at_not_mem_classOrAny (locator : Text) : '@' ∉ classOrAny locator := by
  cases hclass : elementClass? locator with
  | none => simp [classOrAny, hclass]
  | some kind =>
    rw [classOrAny, hclass]
    exact (isClassName_of_elementClass? hclass).not_mem (by decide)

/-! ### Naming again -/

/-- A name from an attribute is given again to the locator that asks for it by that name, whatever
the count. -/
theorem fallback_is_idempotent {locator name : Text} {count : Nat}
    (h : fallback locator count = ⟨name, .attributeValue⟩) (again : Nat) :
    fallback (namedLocator (classOrAny locator) '\x27' name) again = ⟨name, .attributeValue⟩ := by
  rw [fallback_eq] at h
  cases hvalue : attributeValue? locator with
  | none =>
    rw [hvalue] at h
    cases h
  | some value =>
    have hchoice : choiceFor (roleOf? locator) value count = ⟨name, .attributeValue⟩ := by
      rwa [hvalue] at h
    obtain ⟨hname, -, haccepted⟩ := choiceFor_eq_attributeValue_iff.mp hchoice
    have hsqueezed : IsUnquoted (Text.squeeze value) := fun c hc =>
      isUnquoted_of_attributeValue? hvalue c (List.mem_of_mem_filter hc)
    have hunquoted : IsUnquoted name := by
      rw [hname]
      exact isUnquoted_withRole isUnquoted_of_roleOf? hsqueezed
    have hread : attributeValue? (namedLocator (classOrAny locator) '\x27' name) = some name :=
      attributeValue?_namedLocator (at_not_mem_classOrAny locator) (by decide)
        (isProper_of_isAcceptable haccepted).ne_nil hunquoted (by decide) rfl
    have hrole : roleOf? (namedLocator (classOrAny locator) '\x27' name) = roleOf? locator := by
      rw [roleOf?, elementClass?_classOrAny, roleOf?]
    rw [fallback_eq, hread, hrole]
    exact choiceFor_self hchoice again

/-- A name with a role word, and one for which there is none. -/
theorem fallback_again_for_login :
    let locator := "//android.widget.Button[@content-desc=\"Log in\"]".toList
    let other := "//*[@label='Main menu']".toList
    fallback locator 4 = ⟨"LoginButton".toList, .attributeValue⟩
      ∧ fallback "//android.widget.Button[@name='LoginButton']".toList 7
          = ⟨"LoginButton".toList, .attributeValue⟩
      ∧ fallback other 0 = ⟨"Mainmenu".toList, .attributeValue⟩
      ∧ fallback "//*[@name='Mainmenu']".toList 1 = ⟨"Mainmenu".toList, .attributeValue⟩ := by
  intro locator other
  have hlocator : fallback locator 4 = ⟨"LoginButton".toList, .attributeValue⟩ := by
    decide +kernel
  have hother : fallback other 0 = ⟨"Mainmenu".toList, .attributeValue⟩ := by decide +kernel
  exact ⟨hlocator, fallback_is_idempotent hlocator 7, hother, fallback_is_idempotent hother 1⟩

end StepRecorder.Naming
