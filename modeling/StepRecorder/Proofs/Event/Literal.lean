import StepRecorder.Event.Recognition
import StepRecorder.Proofs.Event.Pattern
import StepRecorder.Proofs.Json.Spelling
import StepRecorder.Proofs.Text.Search

/-!
Recognition undoes the spelling of texts as literals. With no quote in front of the document, a line
of one of these shapes shows the text that the body spells, whatever stands in it:

    ...{"using":"xpath","value" : "body"...     locator
    ...{"value":{"ELEMENT":"body"}}             element
    ...{"ELEMENT":"body"}                       element
    ...{"text":"body"}                          typed

The quotes in front of the literal belong to known words, those inside of it follow a backslash, and
behind it there is no colon. So no kind that is tried earlier finds its key anywhere.

Main statement: `recognition_undoes_spelling`.
-/

namespace StepRecorder.Event

open Json.Literal (Spells IsUnit)
open Pattern

variable {lead front body tail text line : Text} {kind : EventKind}

theorem isBody_of_isUnit {a b d e : Char} {n : Nat} (h : IsUnit a b d e n) (hbody : IsBody body) :
    IsBody ('\\' :: 'u' :: a :: b :: d :: e :: body) := by
  obtain ⟨i, j, k, l, ha, hb, hd, he, -⟩ := h
  exact .escaped 'u' (by decide) (.plain a ha.ne.1 ha.ne.2 (.plain b hb.ne.1 hb.ne.2
    (.plain d hd.ne.1 hd.ne.2 (.plain e he.ne.1 he.ne.2 hbody))))

/-- What spells a text ends at its closing quote only. -/
theorem isBody_of_spells (h : Spells body text) : IsBody body := by
  induction h with
  | nil => exact .nil
  | plain c hquote hescape _ _ ih => exact .plain c hquote hescape ih
  | short letter c hshort _ ih =>
    have hline : letter ≠ '\n' := by
      rintro rfl
      simp [Json.Literal.shortEscapes] at hshort
    exact .escaped letter hline ih
  | unit a b d e c hunit _ ih => exact isBody_of_isUnit hunit ih
  | pair a b d e a' b' d' e' c high low hhigh hlow _ _ _ _ ih =>
    exact isBody_of_isUnit hhigh (isBody_of_isUnit hlow ih)

theorem ne_nil_of_spells (h : Spells body text) (hne : text ≠ []) : body ≠ [] := by
  rintro rfl
  cases h
  exact hne rfl

/-- A body between its quotes. -/
def literal (body : Text) : Text := '"' :: body ++ ['"']

/-- A member of a document whose value is a string. -/
def member (key body : Text) : Text := literal key ++ ':' :: literal body

/-- The keys under which a kind is looked for. -/
def keysOf : EventKind → List Text
  | .locator => [locatorKey]
  | .element => [elementKey, olderElementKey]
  | .typed => [typedKey]
  | _ => []

theorem isBody_of_mem_keysOf {key : Text} (h : key ∈ keysOf kind) : IsBody key := by
  have hall : ∀ key ∈ keysOf kind, key.all (fun c => c != '"' && c != '\\') = true := by
    cases kind <;> decide +kernel
  refine isBody_of_plain fun c hc => ?_
  simpa using List.all_eq_true.mp (hall key h) c hc

/-- A kind that is read from literals finds nothing where none of its keys is. -/
theorem capture?_eq_none (hkind : fromRequestOnly kind = false)
    (h : ∀ key ∈ keysOf kind, stringUnder? key text = none) : capture? kind text = none := by
  cases kind with
  | locator =>
    rw [capture?, locator?, h locatorKey (by simp [keysOf])]
    rfl
  | element =>
    rw [capture?, element?, filledUnder?_eq_none (h elementKey (by simp [keysOf])),
      filledUnder?_eq_none (h olderElementKey (by simp [keysOf]))]
    rfl
  | typed => exact filledUnder?_eq_none (h typedKey (by simp [keysOf]))
  | click => cases hkind
  | target => cases hkind

/-- A beginning of lines in which a kind finds nothing, whatever follows it. -/
def Passes (kind : EventKind) (front : Text) : Prop :=
  ∀ rest, Text.firstMatch (capture? kind) (front ++ rest) = Text.firstMatch (capture? kind) rest

theorem Passes.append {middle : Text} (hfront : Passes kind front) (hmiddle : Passes kind middle) :
    Passes kind (front ++ middle) := by
  intro rest
  rw [List.append_assoc, hfront, hmiddle]

theorem passes_of_not_mem (hkind : fromRequestOnly kind = false) (hlead : '"' ∉ lead) :
    Passes kind lead := by
  refine Text.firstMatch_append fun c hc rest => capture?_eq_none hkind fun key _ => ?_
  have hquote : c ≠ '"' := by
    rintro rfl
    exact hlead hc
  exact stringUnder?_cons hquote key rest

/-- Nothing is found in a literal either if there is no colon behind it. -/
theorem firstMatch_literal_eq_none (hkind : fromRequestOnly kind = false) (hbody : IsBody body)
    (hquote : '"' ∉ tail) (hcolon : ':' ∉ tail) :
    Text.firstMatch (capture? kind) (literal body ++ tail) = none := by
  have hliteral : literal body ++ tail = '"' :: (body ++ '"' :: tail) := by simp [literal]
  refine Text.firstMatch_eq_none_iff.mpr fun place hplace => ?_
  refine capture?_eq_none hkind fun key hkey => ?_
  exact stringUnder?_eq_none_of_suffix (isBody_of_mem_keysOf hkey) hbody hquote hcolon
    (hliteral ▸ hplace)

theorem ofKind?_eq_none (h : Text.firstMatch (capture? kind) line = none) :
    ofKind? line kind = none := by
  unfold ofKind?
  split
  · rfl
  · rw [h]
    rfl

/-- Nothing is found in a member with a key of another kind. -/
theorem Passes.ofKind?_member {key : Text} (hfront : Passes kind front)
    (hkey : Passes kind (literal key ++ [':'])) (hkind : fromRequestOnly kind = false)
    (hbody : IsBody body) (hquote : '"' ∉ tail) (hcolon : ':' ∉ tail) :
    ofKind? (front ++ (member key body ++ tail)) kind = none := by
  have hline : front ++ (member key body ++ tail)
      = front ++ (literal key ++ [':']) ++ (literal body ++ tail) := by simp [member]
  rw [hline]
  exact ofKind?_eq_none (((hfront.append hkey) _).trans
    (firstMatch_literal_eq_none hkind hbody hquote hcolon))

theorem Passes.ofKind?_eq_some {place : Text} (hfront : Passes kind front)
    (hkind : fromRequestOnly kind = false) (hspells : Spells body text)
    (h : capture? kind place = some body) : ofKind? (front ++ place) kind = some ⟨kind, text⟩ := by
  have hunescape : unescape body = text := by
    rw [unescape, Json.Literal.decode?_of_spells hspells]
    rfl
  have hmatch : Text.firstMatch (capture? kind) (front ++ place) = some body :=
    (hfront place).trans (Text.firstMatch_of_eq_some h)
  simp only [ofKind?, payloadOf, hkind, hmatch, Bool.false_and, Bool.false_eq_true, if_false,
    Option.map_some, hunescape]

theorem ofKind?_eq_none_of_isResponse (hkind : fromRequestOnly kind = true)
    (h : responseMark <:+: line) : ofKind? line kind = none := by
  have hresponse : isResponse line = true := Text.occursIn_iff.mpr h
  simp only [ofKind?, hkind, hresponse, Bool.and_self, if_true]

/-- A line without a path of a command shows no such command. -/
theorem ofKind?_eq_none_of_path {command : Text} (hcapture : capture? kind = command? command)
    (h : ∀ id, IsId id → ¬ path id command <:+: line) : ofKind? line kind = none := by
  refine ofKind?_eq_none (Text.firstMatch_eq_none_iff.mpr fun place hplace => ?_)
  rw [hcapture, Option.eq_none_iff_forall_ne_some]
  intro id hid
  obtain ⟨hisId, hpath⟩ := command?_eq_some_iff.mp hid
  exact h id hisId (hpath.isInfix.trans hplace.isInfix)

theorem opens_member (key body tail : Text) :
    Opens key (member key body ++ tail) (body ++ '"' :: tail) :=
  ⟨[], [], by simp [IsBlanks], by simp [IsBlanks], by simp [member, literal]⟩

theorem capture?_element {key : Text} (hkey : key ∈ keysOf .element) (hbody : IsBody body)
    (hne : body ≠ []) : capture? .element (member key body ++ tail) = some body := by
  have hfilled := filledUnder?_eq_some (opens_member key body tail) hbody hne
  simp only [keysOf, List.mem_cons, List.not_mem_nil, or_false] at hkey
  rcases hkey with rfl | rfl
  · rw [capture?, element?, hfilled, Option.some_or]
  · have hother : filledUnder? elementKey (member olderElementKey body ++ tail) = none := rfl
    rw [capture?, element?, hother, Option.none_or, hfilled]

/-- A member under an element key shows a reference. -/
theorem ofLine?_element {key : Text} (hspells : Spells body text) (hne : text ≠ [])
    (hkey : key ∈ keysOf .element) (hlocator : Passes .locator front)
    (helement : Passes .element front) (hquote : '"' ∉ tail) (hcolon : ':' ∉ tail) :
    ofLine? (front ++ (member key body ++ tail)) = some ⟨.element, text⟩ := by
  have hbody := isBody_of_spells hspells
  -- the keys are closed terms, so the search through one of them is evaluated
  have hother : Passes .locator (literal key ++ [':']) := by
    intro rest
    simp only [keysOf, List.mem_cons, List.not_mem_nil, or_false] at hkey
    rcases hkey with rfl | rfl
    · rfl
    · rfl
  have hnone : ofKind? (front ++ (member key body ++ tail)) .locator = none :=
    hlocator.ofKind?_member hother rfl hbody hquote hcolon
  have hcapture : capture? .element (member key body ++ tail) = some body :=
    capture?_element hkey hbody (ne_nil_of_spells hspells hne)
  have hsome := helement.ofKind?_eq_some rfl hspells hcapture
  rw [ofLine?, EventKind.all, List.findSome?_cons, hnone, List.findSome?_cons, hsome]

/-- A member under the key of typed texts shows one, if no command is shown. -/
theorem ofLine?_typed (hspells : Spells body text) (hne : text ≠ [])
    (hfront : ∀ kind, fromRequestOnly kind = false → Passes kind front) (hquote : '"' ∉ tail)
    (hcolon : ':' ∉ tail)
    (hclick : ofKind? (front ++ (member typedKey body ++ tail)) .click = none)
    (htarget : ofKind? (front ++ (member typedKey body ++ tail)) .target = none) :
    ofLine? (front ++ (member typedKey body ++ tail)) = some ⟨.typed, text⟩ := by
  have hbody := isBody_of_spells hspells
  have hlocator : ofKind? (front ++ (member typedKey body ++ tail)) .locator = none :=
    (hfront .locator rfl).ofKind?_member (fun _ => rfl) rfl hbody hquote hcolon
  have helement : ofKind? (front ++ (member typedKey body ++ tail)) .element = none :=
    (hfront .element rfl).ofKind?_member (fun _ => rfl) rfl hbody hquote hcolon
  have hcapture : capture? .typed (member typedKey body ++ tail) = some body :=
    filledUnder?_eq_some (opens_member typedKey body tail) hbody (ne_nil_of_spells hspells hne)
  have hsome := (hfront .typed rfl).ofKind?_eq_some rfl hspells hcapture
  simp only [ofLine?, EventKind.all, List.findSome?_cons, hlocator, helement, hclick, htarget,
    hsome]

/-- What is read back from the lines with a literal. -/
structure ReadBack (lead body text : Text) : Prop where
  /-- A literal that begins with two slashes is a locator, whatever follows it. -/
  locator (before after rest : Text) : IsBlanks before → IsBlanks after → ['/', '/'] <+: body →
    ofLine? (lead ++ "\x7b\"using\":\"xpath\",\"value\"".toList ++ before ++ ':' :: after
      ++ literal body ++ rest) = some ⟨.locator, text⟩
  /-- A literal under an element key is a reference, be it the value of the document or not. -/
  element (key : Text) : key ∈ [elementKey, olderElementKey] → text ≠ [] →
    ofLine? (lead ++ "\x7b\"value\":\x7b".toList ++ member key body ++ ['\x7d', '\x7d'])
        = some ⟨.element, text⟩
      ∧ ofLine? (lead ++ '\x7b' :: member key body ++ ['\x7d']) = some ⟨.element, text⟩
  /-- A literal under the key of typed texts is one, if the line does not show a command first. -/
  typed (line : Text) : line = lead ++ '\x7b' :: member typedKey body ++ ['\x7d'] → text ≠ [] →
    (responseMark <:+: line
      ∨ ∀ id, IsId id →
        ¬ path id "click".toList <:+: line ∧ ¬ path id "value".toList <:+: line) →
    ofLine? line = some ⟨.typed, text⟩

/-- Recognition undoes the spelling of a text behind anything that holds no quote. -/
theorem recognition_undoes_spelling (hspells : Spells body text) (hlead : '"' ∉ lead) :
    ReadBack lead body text := by
  have hpasses {kind : EventKind} (hkind : fromRequestOnly kind = false) {words : Text}
      (hwords : Passes kind words) : Passes kind (lead ++ words) :=
    (passes_of_not_mem hkind hlead).append hwords
  have hopening (kind : EventKind) (hkind : fromRequestOnly kind = false) :
      Passes kind (lead ++ ['\x7b']) :=
    hpasses hkind fun _ => by cases kind <;> rfl
  have hsingle (key : Text) : lead ++ '\x7b' :: member key body ++ ['\x7d']
      = lead ++ ['\x7b'] ++ (member key body ++ ['\x7d']) := by simp
  constructor
  case locator =>
    intro before after rest hbefore hafter hslashes
    have hopens : Opens locatorKey
        (literal locatorKey ++ before ++ ':' :: after ++ literal body ++ rest)
        (body ++ '"' :: rest) := ⟨before, after, hbefore, hafter, by simp [literal]⟩
    have hfront : Passes .locator (lead ++ "\x7b\"using\":\"xpath\",".toList) :=
      hpasses rfl fun _ => rfl
    have hsome := hfront.ofKind?_eq_some rfl hspells
      (locator?_eq_some hopens (isBody_of_spells hspells) hslashes)
    have hwords : "\x7b\"using\":\"xpath\",\"value\"".toList
        = "\x7b\"using\":\"xpath\",".toList ++ literal locatorKey := rfl
    simp only [hwords, List.append_assoc] at hsome ⊢
    rw [ofLine?, EventKind.all, List.findSome?_cons, hsome]
  case element =>
    intro key hkey hne
    constructor
    · have hlocator : Passes .locator (lead ++ "\x7b\"value\":\x7b".toList) :=
        hpasses rfl fun _ => rfl
      have helement : Passes .element (lead ++ "\x7b\"value\":\x7b".toList) :=
        hpasses rfl fun _ => rfl
      rw [List.append_assoc]
      exact ofLine?_element hspells hne hkey hlocator helement (by decide) (by decide)
    · rw [hsingle]
      exact ofLine?_element hspells hne hkey (hopening .locator rfl) (hopening .element rfl)
        (by decide) (by decide)
  case typed =>
    rintro line rfl hne hcommand
    rw [hsingle] at hcommand ⊢
    rcases hcommand with hresponse | hpath
    · exact ofLine?_typed hspells hne hopening (by decide) (by decide)
        (ofKind?_eq_none_of_isResponse rfl hresponse) (ofKind?_eq_none_of_isResponse rfl hresponse)
    · exact ofLine?_typed hspells hne hopening (by decide) (by decide)
        (ofKind?_eq_none_of_path rfl fun id hid => (hpath id hid).1)
        (ofKind?_eq_none_of_path rfl fun id hid => (hpath id hid).2)

/-- A text with a surrogate pair, a quoted key and a backslash at its end, on response lines. -/
theorem recognition_of_quoted_key :
    ofLine? ("<-- 200 ".toList ++ "\x7b\"using\":\"xpath\",\"value\"".toList ++ [' ']
        ++ ':' :: ['\t'] ++ literal "//\\uD83d\\ude00\\\"value\\\":\\\"//b\\\"\\\\".toList
        ++ ",\"id\":7\x7d".toList)
        = some ⟨.locator, "//😀\"value\":\"//b\"\\".toList⟩
      ∧ ofLine? ("<-- 200 ".toList ++ '\x7b' :: member olderElementKey
          "//\\uD83d\\ude00\\\"value\\\":\\\"//b\\\"\\\\".toList ++ ['\x7d'])
        = some ⟨.element, "//😀\"value\":\"//b\"\\".toList⟩
      ∧ ofLine? ("<-- 200 ".toList ++ '\x7b' :: member typedKey
          "//\\uD83d\\ude00\\\"value\\\":\\\"//b\\\"\\\\".toList ++ ['\x7d'])
        = some ⟨.typed, "//😀\"value\":\"//b\"\\".toList⟩ := by
  have hspells : Spells "//\\uD83d\\ude00\\\"value\\\":\\\"//b\\\"\\\\".toList
      "//😀\"value\":\"//b\"\\".toList := Json.Literal.decode?_eq_some_iff.mp (by decide +kernel)
  have hread : ReadBack "<-- 200 ".toList _ _ :=
    recognition_undoes_spelling hspells (by decide +kernel)
  have hblank {c : Char} (hc : Text.isBlank c = true) : IsBlanks [c] := by simpa [IsBlanks] using hc
  refine ⟨hread.locator [' '] ['\t'] _ (hblank (by decide)) (hblank (by decide)) ?slashes,
    (hread.element _ ?key ?filled).2, hread.typed _ rfl ?filled (Or.inl ?response)⟩
  case slashes => decide +kernel
  case key => decide +kernel
  case filled => decide +kernel
  case response => exact Text.occursIn_iff.mp (by decide +kernel)

end StepRecorder.Event
