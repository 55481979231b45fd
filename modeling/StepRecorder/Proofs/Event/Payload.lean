import Mathlib.Data.List.Basic
import StepRecorder.Proofs.Event.Classification

/-!
The texts that events carry. What a line shows is well formed, whether the body that was captured
stands for a text or is kept as it is; and each well-formed event is shown by some line:

    locator       starts with two slashes
    element       not empty
    typed         not empty
    click         not empty, without / ? " and blanks, and without the mark of responses
    target        likewise

Decoding a body keeps both of what a locator and a reference need: a slash stands for itself, and no
piece of a body stands for nothing.

Main statement: `exists_line_iff_isWellFormed`.
-/

namespace StepRecorder.Event

open Json.Literal (Spells)
open Pattern

/-- Whether the text of an event is one that its kind can carry. -/
structure IsWellFormed (event : Event) : Prop where
  filled : event.payload ≠ []
  slashes : event.kind = .locator → ['/', '/'] <+: event.payload
  clean : event.kind ∈ [EventKind.click, .target] →
    ∀ c ∈ event.payload, c ∉ ['/', '?', '"'] ∧ Text.isBlank c = false
  /-- Commands are taken from requests only, so no id holds the mark of responses. -/
  unmarked : event.kind ∈ [EventKind.click, .target] → ¬ "<--".toList <:+: event.payload

variable {line captured place id text : Text} {event : Event}

/-! ### What is shown is well formed -/

/-- A slash in a body stands for itself. -/
theorem decode?_slashes (rest : Text) :
    Json.Literal.decode? ('/' :: '/' :: rest)
      = (Json.Literal.decode? rest).map fun text => '/' :: '/' :: text := by
  have hplain : Json.Literal.isPlain '/' = true := by decide
  rw [Json.Literal.decode?_plain hplain, Json.Literal.decode?_plain hplain, Option.map_map]
  rfl

theorem slashes_unescape (h : ['/', '/'] <+: captured) : ['/', '/'] <+: unescape captured := by
  obtain ⟨rest, rfl⟩ := h
  simp only [List.cons_append, List.nil_append, unescape, decode?_slashes]
  cases Json.Literal.decode? rest with
  | none => exact List.prefix_append ['/', '/'] rest
  | some text => exact List.prefix_append ['/', '/'] text

theorem isIdChar_iff {c : Char} :
    isIdChar c = true ↔ c ∉ ['/', '?', '"'] ∧ Text.isBlank c = false := by
  simp only [isIdChar, Bool.and_eq_true, decide_eq_true_eq, Bool.not_eq_true', List.mem_cons,
    List.not_mem_nil, or_false, not_or]
  constructor
  · rintro ⟨⟨⟨hslash, hquote⟩, hmark⟩, hblank⟩
    exact ⟨⟨hslash, hmark, hquote⟩, hblank⟩
  · rintro ⟨⟨hslash, hmark, hquote⟩, hblank⟩
    exact ⟨⟨⟨hslash, hquote⟩, hmark⟩, hblank⟩

/-- What is captured of a command is an id, taken from the line. -/
theorem isId_of_capture? (hkind : event.kind ∈ [EventKind.click, .target])
    (h : capture? event.kind place = some captured) : IsId captured ∧ captured <:+: place := by
  have hcommand : ∃ command, command? command place = some captured := by
    simp only [List.mem_cons, List.not_mem_nil, or_false] at hkind
    rcases hkind with hkind | hkind
    · rw [hkind] at h
      exact ⟨_, h⟩
    · rw [hkind] at h
      exact ⟨_, h⟩
  obtain ⟨command, hfound⟩ := hcommand
  obtain ⟨hid, hpath⟩ := command?_eq_some_iff.mp hfound
  have hinside : captured <:+: path captured command := ⟨"/element/".toList, '/' :: command, rfl⟩
  exact ⟨hid, hinside.trans hpath.isInfix⟩

theorem isWellFormed_of_ofLine? (h : ofLine? line = some event) : IsWellFormed event := by
  obtain ⟨hshown, place, captured, hplace, hcaptured, hpayload⟩ := exists_capture?_of_ofLine? h
  have hcommand (hkind : event.kind ∈ [EventKind.click, .target]) :
      IsId event.payload ∧ event.payload <:+: line := by
    obtain ⟨hid, hinside⟩ := isId_of_capture? hkind hcaptured
    rw [hpayload, payloadOf, if_pos (fromRequestOnly_iff.mpr hkind)]
    exact ⟨hid, hinside.trans hplace.isInfix⟩
  refine ⟨payload_ne_nil h, ?slashes, ?clean, ?unmarked⟩
  case slashes =>
    intro hkind
    rw [hkind] at hcaptured hpayload
    obtain ⟨_, _, ⟨_, hslashes⟩, _⟩ := locator?_eq_some_iff.mp hcaptured
    rw [hpayload]
    exact slashes_unescape hslashes
  case clean =>
    intro hkind c hc
    exact isIdChar_iff.mp ((hcommand hkind).1.2 c hc)
  case unmarked =>
    intro hkind hmark
    have hresponse : isResponse line = true :=
      Text.occursIn_iff.mpr (hmark.trans (hcommand hkind).2)
    rw [fromRequestOnly_iff.mpr hkind, hresponse] at hshown
    cases hshown

/-! ### What is well formed is shown -/

theorem ofLine?_locator (h : ['/', '/'] <+: text) :
    ofLine? (member locatorKey (Json.Literal.encode text)) = some ⟨.locator, text⟩ := by
  have hspells := Json.Literal.spells_encode text
  have hslashes : ['/', '/'] <+: Json.Literal.encode text := by
    obtain ⟨rest, rfl⟩ := h
    exact ⟨Json.Literal.encode rest, rfl⟩
  have hopens := opens_member locatorKey (Json.Literal.encode text) []
  rw [List.append_nil] at hopens
  have hcapture := locator?_eq_some hopens (isBody_of_spells hspells) hslashes
  have hfront : Passes .locator [] := fun _ => rfl
  have hsome : ofKind? (member locatorKey (Json.Literal.encode text)) .locator
      = some ⟨.locator, text⟩ := hfront.ofKind?_eq_some rfl hspells hcapture
  rw [ofLine?, EventKind.all, List.findSome?_cons, hsome]

/-- No literal is found in a line without quotes. -/
theorem ofKind?_eq_none_of_not_mem {kind : EventKind} (hkind : fromRequestOnly kind = false)
    (h : '"' ∉ line) : ofKind? line kind = none := by
  have hpassed := passes_of_not_mem hkind h []
  rw [List.append_nil] at hpassed
  refine ofKind?_eq_none (hpassed.trans ?_)
  exact capture?_eq_none hkind fun _ _ => rfl

theorem not_mem_of_isId (h : IsId id) {c : Char} (hc : isIdChar c = false) : c ∉ id := by
  intro hmem
  rw [h.2 c hmem] at hc
  cases hc

section Path

variable {command other command' : Text}

theorem count_slash_path (hid : IsId id) (hcommand : '/' ∉ command) :
    (path id command).count '/' = 3 := by
  have hlead : ("/element/".toList).count '/' = 2 := by decide +kernel
  have hslash := List.count_eq_zero.mpr (not_mem_of_isId hid (c := '/') (by decide))
  unfold path
  generalize "/element/".toList = lead at hlead ⊢
  rw [List.count_append, List.count_append, List.count_cons_self, hlead, hslash,
    List.count_eq_zero.mpr hcommand]

/-- A path of one command holds no path of another one. Both have three slashes, so they would begin
at the same place, and then their ids would end at the same place too. -/
theorem not_path_infix_path (hother : IsId other) (hid : IsId id) (hcommand : '/' ∉ command)
    (hcommand' : '/' ∉ command') (hdiffer : ¬ command <+: command') :
    ¬ path other command <:+: path id command' := by
  rintro ⟨before, after, hparts⟩
  have hcount := congrArg (List.count '/') hparts
  rw [List.count_append, List.count_append, count_slash_path hother hcommand,
    count_slash_path hid hcommand'] at hcount
  have hfirst : before = [] := by
    cases before with
    | nil => rfl
    | cons c before =>
      have hc : c = '/' := (List.cons.inj hparts).1
      rw [hc, List.count_cons_self] at hcount
      omega
  have hslash := not_mem_of_isId hid (c := '/') (by decide)
  rw [hfirst, List.nil_append] at hparts
  unfold path at hparts
  generalize "/element/".toList = lead at hparts
  simp only [List.append_assoc, List.cons_append, List.append_cancel_left_eq] at hparts
  obtain ⟨-, -, hrest⟩ := (List.append_cons_inj_of_notMem hslash hcommand').mp hparts.symm
  exact hdiffer ⟨after, hrest.symm⟩

/-- The line with the path of a command is a response only if the id or the command says so. -/
theorem isResponse_path (hid : ¬ "<--".toList <:+: id) (hcommand : ¬ "<--".toList <:+: command) :
    isResponse (path id command) = false := by
  have hslash : '/' ∉ "<--".toList := by decide
  have hlead : ¬ "<--".toList <:+: "/element".toList := by decide +kernel
  refine Bool.eq_false_iff.mpr fun hresponse => ?_
  have hmark : "<--".toList <:+: path id command := Text.occursIn_iff.mp hresponse
  have hpath : path id command = ("/element".toList ++ '/' :: id) ++ '/' :: command := rfl
  rw [hpath] at hmark
  generalize "/element".toList = lead at hlead hmark
  rcases Text.infix_of_infix_append_cons hslash hmark with hfront | hback
  · rcases Text.infix_of_infix_append_cons hslash hfront with hlead' | hid'
    · exact hlead hlead'
    · exact hid hid'
  · exact hcommand hback

theorem quote_not_mem_path (hid : IsId id) (hcommand : '"' ∉ command) : '"' ∉ path id command := by
  have hlead : '"' ∉ "/element/".toList := by decide
  have hquote := not_mem_of_isId hid (c := '"') (by decide)
  unfold path
  generalize "/element/".toList = lead at hlead ⊢
  simp [hlead, hquote, hcommand]

/-- A request with the path of a command shows that command. -/
theorem ofKind?_path {kind : EventKind} (hkind : fromRequestOnly kind = true)
    (hcapture : capture? kind = command? command) (hid : IsId id)
    (hrequest : isResponse (path id command) = false) :
    ofKind? (path id command) kind = some ⟨kind, id⟩ := by
  have hfound : command? command (path id command) = some id :=
    command?_eq_some_iff.mpr ⟨hid, List.prefix_refl _⟩
  have hmatch := Text.firstMatch_of_eq_some hfound
  simp only [ofKind?, payloadOf, hkind, hrequest, hcapture, hmatch, Bool.and_false,
    Bool.false_eq_true, if_false, if_true, Option.map_some]

end Path

theorem ofLine?_click (hid : IsId id) (hmark : ¬ "<--".toList <:+: id) :
    ofLine? (path id "click".toList) = some ⟨.click, id⟩ := by
  have hquote : '"' ∉ path id "click".toList := quote_not_mem_path hid (by decide)
  have hrequest : isResponse (path id "click".toList) = false :=
    isResponse_path hmark (by decide +kernel)
  rw [ofLine?, EventKind.all, List.findSome?_cons, ofKind?_eq_none_of_not_mem rfl hquote,
    List.findSome?_cons, ofKind?_eq_none_of_not_mem rfl hquote, List.findSome?_cons,
    ofKind?_path rfl rfl hid hrequest]

theorem ofLine?_target (hid : IsId id) (hmark : ¬ "<--".toList <:+: id) :
    ofLine? (path id "value".toList) = some ⟨.target, id⟩ := by
  have hquote : '"' ∉ path id "value".toList := quote_not_mem_path hid (by decide)
  have hrequest : isResponse (path id "value".toList) = false :=
    isResponse_path hmark (by decide +kernel)
  have hclick : ofKind? (path id "value".toList) .click = none :=
    ofKind?_eq_none_of_path rfl fun other hother =>
      not_path_infix_path hother hid (by decide) (by decide) (by decide +kernel)
  rw [ofLine?, EventKind.all, List.findSome?_cons, ofKind?_eq_none_of_not_mem rfl hquote,
    List.findSome?_cons, ofKind?_eq_none_of_not_mem rfl hquote, List.findSome?_cons, hclick,
    List.findSome?_cons, ofKind?_path rfl rfl hid hrequest]

/-- A response line shows any text that is typed, since it shows no command. -/
theorem ofLine?_typed_response (h : text ≠ []) :
    ofLine? ("<--".toList ++ (member typedKey (Json.Literal.encode text) ++ []))
      = some ⟨.typed, text⟩ := by
  have hmark : responseMark
      <:+: "<--".toList ++ (member typedKey (Json.Literal.encode text) ++ []) :=
    (List.prefix_append ..).isInfix
  exact ofLine?_typed (Json.Literal.spells_encode text) h
    (fun kind hkind => passes_of_not_mem hkind (by decide)) (by decide) (by decide)
    (ofKind?_eq_none_of_isResponse rfl hmark) (ofKind?_eq_none_of_isResponse rfl hmark)

/-- The events that lines show are those whose text is well formed, and no others. -/
theorem exists_line_iff_isWellFormed (event : Event) :
    (∃ line, ofLine? line = some event) ↔ IsWellFormed event := by
  constructor
  · rintro ⟨line, h⟩
    exact isWellFormed_of_ofLine? h
  · obtain ⟨kind, text⟩ := event
    rintro ⟨hfilled, hslashes, hclean, hunmarked⟩
    have hid (hkind : kind ∈ [EventKind.click, .target]) : IsId text :=
      ⟨hfilled, fun c hc => isIdChar_iff.mpr (hclean hkind c hc)⟩
    have hmark (hkind : kind ∈ [EventKind.click, .target]) : ¬ "<--".toList <:+: text :=
      hunmarked hkind
    cases kind with
    | locator => exact ⟨_, ofLine?_locator (hslashes rfl)⟩
    | element =>
      have hshown : ofLine? ([] ++ (member elementKey (Json.Literal.encode text) ++ []))
          = some ⟨.element, text⟩ :=
        ofLine?_element (Json.Literal.spells_encode text) hfilled (by decide) (fun _ => rfl)
          (fun _ => rfl) (by decide) (by decide)
      exact ⟨_, hshown⟩
    | click => exact ⟨_, ofLine?_click (hid (by decide)) (hmark (by decide))⟩
    | target => exact ⟨_, ofLine?_target (hid (by decide)) (hmark (by decide))⟩
    | typed => exact ⟨_, ofLine?_typed_response hfilled⟩

-- No literal has the escape of this body, so the body is the text.
example : ofLine? "\x7b\"text\":\"\\q\"\x7d".toList = some ⟨.typed, "\\q".toList⟩ := by
  decide +kernel

end StepRecorder.Event
