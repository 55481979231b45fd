import StepRecorder.Proofs.Event.Expression

/-!
Which event a line shows, told by the regular expressions alone. A kind qualifies if a part of the
line matches its expression and, for clicks and targets, the line is no response. The first kind
that qualifies gives the event, and the leftmost match of its expression the text:

    kinds    locator   element   click   target   typed
             no        no        yes ─▶ the leftmost match ─▶ what is captured ─▶ the payload

Main statement: `classification_follows_expressions`.
-/

namespace StepRecorder.Event

open Json.Literal (Spells)
open Regex

/-- Whether a kind is passed over on a line because the line is a response. -/
def IsPassedOver (line : Text) (kind : EventKind) : Prop :=
  kind ∈ [EventKind.click, .target] ∧ "<--".toList <:+: line

/-- Whether a line can show a kind: a part of it is in the language of the kind. -/
def Qualifies (line : Text) (kind : EventKind) : Prop :=
  ¬ IsPassedOver line kind
    ∧ ∃ matched captures, matched <:+: line ∧ Matches (regexOf kind) matched captures

/-- Whether a captured text gives a payload. An id in a path is taken as it is; the body of a
literal gives what it spells, or itself if it spells nothing. -/
def Gives (kind : EventKind) (captured payload : Text) : Prop :=
  if kind ∈ [EventKind.click, .target] then payload = captured
  else Spells captured payload ∨ (∀ text, ¬ Spells captured text) ∧ payload = captured

variable {line captured payload : Text} {kind : EventKind} {event : Event}

theorem fromRequestOnly_iff : fromRequestOnly kind = true ↔ kind ∈ [EventKind.click, .target] := by
  cases kind <;> decide

theorem isPassedOver_iff :
    IsPassedOver line kind ↔ (fromRequestOnly kind && isResponse line) = true := by
  rw [IsPassedOver, Bool.and_eq_true, fromRequestOnly_iff]
  exact and_congr_right fun _ => Text.occursIn_iff.symm

theorem unescape_eq_iff :
    unescape captured = payload
      ↔ Spells captured payload ∨ (∀ text, ¬ Spells captured text) ∧ payload = captured := by
  simp only [← Json.Literal.decode?_eq_some_iff, unescape]
  cases Json.Literal.decode? captured with
  | none => simp [eq_comm]
  | some text => simp

theorem payloadOf_eq_iff : payloadOf kind captured = payload ↔ Gives kind captured payload := by
  unfold payloadOf Gives
  simp only [fromRequestOnly_iff]
  split
  · exact eq_comm
  · exact unescape_eq_iff

theorem ofKind?_of_isPassedOver (h : IsPassedOver line kind) : ofKind? line kind = none := by
  rw [ofKind?, if_pos (isPassedOver_iff.mp h)]

theorem ofKind?_of_not_isPassedOver (h : ¬ IsPassedOver line kind) :
    ofKind? line kind
      = (Text.firstMatch (capture? kind) line).map fun captured =>
          ⟨kind, payloadOf kind captured⟩ := by
  rw [ofKind?, if_neg (fun hpassed => h (isPassedOver_iff.mpr hpassed))]

/-- A kind is not shown exactly if it does not qualify. -/
theorem ofKind?_eq_none_iff : ofKind? line kind = none ↔ ¬ Qualifies line kind := by
  by_cases hpassed : IsPassedOver line kind
  · exact iff_of_true (ofKind?_of_isPassedOver hpassed) fun h => h.1 hpassed
  · rw [ofKind?_of_not_isPassedOver hpassed, Option.map_eq_none_iff,
      (finds_capture? kind).firstMatch_eq_none_iff]
    constructor
    · rintro hnone ⟨-, matched, captures, hpart, hmatches⟩
      exact hnone matched captures hpart hmatches
    · intro hnot matched captures hpart hmatches
      exact hnot ⟨hpassed, matched, captures, hpart, hmatches⟩

/-- What is shown of a kind that is not passed over is what the leftmost match captures. -/
theorem ofKind?_eq_some_iff :
    ofKind? line kind = some event
      ↔ event.kind = kind ∧ ¬ IsPassedOver line kind
        ∧ ∃ before matched after captured,
          IsLeftmost (regexOf kind) line before matched after [captured]
            ∧ Gives kind captured event.payload := by
  by_cases hpassed : IsPassedOver line kind
  · rw [ofKind?_of_isPassedOver hpassed]
    exact iff_of_false (fun h => nomatch h) fun h => h.2.1 hpassed
  · rw [ofKind?_of_not_isPassedOver hpassed, Option.map_eq_some_iff]
    constructor
    · rintro ⟨captured, hcaptured, rfl⟩
      obtain ⟨before, matched, after, hleftmost⟩ :=
        (finds_capture? kind).firstMatch_eq_some_iff.mp hcaptured
      exact ⟨rfl, hpassed, before, matched, after, captured, hleftmost, payloadOf_eq_iff.mp rfl⟩
    · rintro ⟨rfl, -, before, matched, after, captured, hleftmost, hgives⟩
      refine ⟨captured, ?_, ?_⟩
      · exact (finds_capture? _).firstMatch_eq_some_iff.mpr ⟨before, matched, after, hleftmost⟩
      · rw [payloadOf_eq_iff.mpr hgives]

/-- The classification of a line by the expressions of the kinds. -/
structure Classified (line : Text) : Prop where
  /-- The match that is found starts leftmost. -/
  found (kind : EventKind) (captured : Text) :
    Text.firstMatch (capture? kind) line = some captured
      ↔ ∃ before matched after, IsLeftmost (regexOf kind) line before matched after [captured]
  /-- From one place only one text matches, so what is captured is determined. -/
  single (kind : EventKind) (before matched matched' after after' : Text)
      (captures captures' : List Text) :
    line = before ++ (matched ++ after) → Matches (regexOf kind) matched captures →
    line = before ++ (matched' ++ after') → Matches (regexOf kind) matched' captures' →
    matched = matched' ∧ ∃ captured, captures = [captured] ∧ captures' = [captured]
  /-- The event is that of the first kind that qualifies. -/
  event (event : Event) :
    ofLine? line = some event
      ↔ ∃ earlier later,
        [EventKind.locator, .element, .click, .target, .typed] = earlier ++ event.kind :: later
          ∧ (∀ kind ∈ earlier, ¬ Qualifies line kind) ∧ ¬ IsPassedOver line event.kind
          ∧ ∃ before matched after captured,
            IsLeftmost (regexOf event.kind) line before matched after [captured]
              ∧ Gives event.kind captured event.payload
  /-- A line shows nothing exactly if no kind qualifies. -/
  nothing : ofLine? line = none ↔ ∀ kind, ¬ Qualifies line kind

/-- The event of a line is the one that the regular expressions of the kinds tell. -/
theorem classification_follows_expressions (line : Text) : Classified line := by
  refine ⟨?found, ?single, ?event, ?nothing⟩
  case found =>
    intro kind captured
    exact (finds_capture? kind).firstMatch_eq_some_iff
  case single =>
    intro kind before matched matched' after after' captures captures' hline h hline' h'
    have hplace : matched ++ after = matched' ++ after' :=
      List.append_cancel_left (hline.symm.trans hline')
    obtain ⟨hmatched, rfl⟩ := isSingle_regexOf kind _ _ _ _ _ _ hplace h h'
    obtain ⟨captured, -, hcaptures⟩ :=
      (finds_capture? kind _ captures).mp ⟨matched, after, rfl, h⟩
    exact ⟨hmatched, captured, hcaptures, hcaptures⟩
  case event =>
    intro event
    unfold ofLine?
    rw [List.findSome?_eq_some_iff]
    constructor
    · rintro ⟨earlier, kind, later, hkinds, hevent, hearlier⟩
      obtain ⟨rfl, hshown⟩ := ofKind?_eq_some_iff.mp hevent
      exact ⟨earlier, later, hkinds, fun kind hkind => ofKind?_eq_none_iff.mp (hearlier kind hkind),
        hshown⟩
    · rintro ⟨earlier, later, hkinds, hearlier, hshown⟩
      exact ⟨earlier, event.kind, later, hkinds, ofKind?_eq_some_iff.mpr ⟨rfl, hshown⟩,
        fun kind hkind => ofKind?_eq_none_iff.mpr (hearlier kind hkind)⟩
  case nothing =>
    have hall : ∀ kind, kind ∈ EventKind.all := by
      intro kind
      cases kind <;> decide
    unfold ofLine?
    rw [List.findSome?_eq_none_iff]
    constructor
    · intro hnone kind
      exact ofKind?_eq_none_iff.mp (hnone kind (hall kind))
    · intro hnone kind _
      exact ofKind?_eq_none_iff.mpr (hnone kind)

-- From the first `element` on nothing matches, since an id holds no slash; the second one is found.
example : ofLine? "/element/element/x/click".toList = some ⟨.click, ['x']⟩ := by decide +kernel

end StepRecorder.Event
