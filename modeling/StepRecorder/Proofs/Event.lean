import StepRecorder.Event.Recognition

/-!
What a line shows is never an empty text, whether or not the escapes of the literal are well formed.

Main statement: `payload_ne_nil`.
-/

namespace StepRecorder

theorem Text.exists_of_firstMatch {α : Type} {recognize : Text → Option α} {text : Text} {found : α}
    (h : firstMatch recognize text = some found) :
    ∃ rest, rest <:+ text ∧ recognize rest = some found := by
  induction text with
  | nil => exact ⟨[], List.suffix_refl [], h⟩
  | cons c text ih =>
    unfold firstMatch at h
    split at h
    next found' hfound =>
      obtain rfl := Option.some.inj h
      exact ⟨c :: text, List.suffix_refl _, hfound⟩
    next =>
      obtain ⟨rest, hrest, hfound⟩ := ih h
      exact ⟨rest, hrest.trans (List.suffix_cons c text), hfound⟩

/-- Every piece of a body stands for a character. -/
theorem Json.Literal.eq_nil_of_decode? {body : Text} (h : decode? body = some []) : body = [] := by
  rw [decode?.eq_def] at h
  repeat' split at h
  all_goals simp_all

namespace Event

theorem unescape_ne_nil {body : Text} (h : body ≠ []) : unescape body ≠ [] := by
  unfold unescape
  cases hdecode : Json.Literal.decode? body with
  | none => exact h
  | some text =>
    rintro rfl
    exact h (Json.Literal.eq_nil_of_decode? hdecode)

namespace Pattern

theorem filledUnder?_ne_nil {key text body : Text} (h : filledUnder? key text = some body) :
    body ≠ [] := by
  unfold filledUnder? at h
  obtain ⟨rest, -, h⟩ := Option.bind_eq_some_iff.mp h
  obtain ⟨found, -, h⟩ := Option.bind_eq_some_iff.mp h
  split at h
  · cases h
  next hfilled =>
    rw [← Option.some.inj h]
    simpa using hfilled

theorem command?_ne_nil {command text id : Text} (h : command? command text = some id) :
    id ≠ [] := by
  unfold command? at h
  obtain ⟨rest, -, h⟩ := Option.bind_eq_some_iff.mp h
  obtain ⟨after, -, h⟩ := Option.bind_eq_some_iff.mp h
  split at h
  · cases h
  next hfilled =>
    rw [← Option.some.inj h]
    simpa using hfilled

/-- The body of a locator begins with its slashes. -/
theorem locator?_ne_nil {text body : Text} (h : locator? text = some body) : body ≠ [] := by
  unfold locator? at h
  obtain ⟨rest, -, h⟩ := Option.bind_eq_some_iff.mp h
  obtain ⟨after, hslashes, h⟩ := Option.bind_eq_some_iff.mp h
  rw [Text.eq_append_of_after? hslashes] at h
  rintro rfl
  simp [body?] at h

end Pattern

/-- No kind captures an empty text. -/
theorem capture?_ne_nil {kind : EventKind} {text captured : Text}
    (h : capture? kind text = some captured) : captured ≠ [] := by
  cases kind with
  | locator => exact Pattern.locator?_ne_nil h
  | element =>
    rcases Option.or_eq_some_iff.mp h with h | ⟨-, h⟩
    · exact Pattern.filledUnder?_ne_nil h
    · exact Pattern.filledUnder?_ne_nil h
  | click => exact Pattern.command?_ne_nil h
  | target => exact Pattern.command?_ne_nil h
  | typed => exact Pattern.filledUnder?_ne_nil h

/-- The text of an event was captured at some place of its line, and its kind is not one that is
passed over on that line. -/
theorem exists_capture?_of_ofLine? {line : Text} {event : Event} (h : ofLine? line = some event) :
    (fromRequestOnly event.kind && isResponse line) = false
      ∧ ∃ place captured, place <:+ line ∧ capture? event.kind place = some captured
        ∧ event.payload = payloadOf event.kind captured := by
  obtain ⟨kind, -, hkind⟩ := List.exists_of_findSome?_eq_some h
  unfold ofKind? at hkind
  split at hkind
  · cases hkind
  next hshown =>
    obtain ⟨captured, hcaptured, rfl⟩ := Option.map_eq_some_iff.mp hkind
    obtain ⟨place, hplace, hfound⟩ := Text.exists_of_firstMatch hcaptured
    exact ⟨Bool.eq_false_iff.mpr hshown, place, captured, hplace, hfound, rfl⟩

/-- The event of a line never carries an empty text. -/
theorem payload_ne_nil {line : Text} {event : Event} (h : ofLine? line = some event) :
    event.payload ≠ [] := by
  obtain ⟨-, place, captured, -, hcaptured, hpayload⟩ := exists_capture?_of_ofLine? h
  have hne := capture?_ne_nil hcaptured
  rw [hpayload, payloadOf]
  split
  · exact hne
  · exact unescape_ne_nil hne

end Event
end StepRecorder
