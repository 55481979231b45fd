import StepRecorder.Proofs.Event
import StepRecorder.Proofs.Event.Literal
import StepRecorder.Proofs.Text.Regex

/-!
The regular expressions by which a line shows an event. They are of two shapes:

    member    " key " blanks : blanks " ( body ) "       locator, element, typed
    command   /element/ ( id ) / word                    click, target

From a given place of a line an expression matches one text at most: a key ends at its quote, a body
at the first quote that no backslash protects, an id at its slash.

Main statements: `finds_capture?`, each recognizer finds what its expression captures, and
`isSingle_regexOf`, nothing else could be captured from the same place.
-/

namespace StepRecorder.Event

open Regex Pattern

/-- Any blanks: `\s*` -/
def blanks : Regex := .many (.one Text.isBlank)

/-- A piece of the body of a literal: `[^"\\]|\\.` -/
def piece : Regex :=
  .either (.one (noneOf ['"', '\\'])) (.seq (.word ['\\']) (.one (noneOf ['\n'])))

/-- A member of a document, of which the string is captured: `"key"\s*:\s*"(body)"` -/
def memberRegex (key body : Regex) : Regex :=
  inTurn [.word ['"'], key, .word ['"'], blanks, .word [':'], blanks, .word ['"'], .group body,
    .word ['"']]

/-- The path of a command, of which the id is captured: `/element/([^/\s"?]+)/command` -/
def commandRegex (command : Text) : Regex :=
  inTurn [.word "/element/".toList,
    .group (several (.one fun c => noneOf ['/', '"', '?'] c && !Text.isBlank c)), .word ['/'],
    .word command]

/-- The expression of a kind. -/
def regexOf : EventKind → Regex
  | .locator => memberRegex (.word "value".toList) (.seq (.word "//".toList) (.many piece))
  | .element =>
    memberRegex
      (.either (.word "element-6066-11e4-a52e-4f735466cecf".toList) (.word "ELEMENT".toList))
      (several piece)
  | .click => commandRegex "click".toList
  | .target => commandRegex "value".toList
  | .typed => memberRegex (.word "text".toList) (several piece)

variable {key body : Regex} {keys : List Text} {holds : Text → Prop} {text found rest : Text}
  {captures : List Text}

/-! ### Bodies -/

theorem accepts_piece :
    Accepts piece fun text =>
      (∃ c, c ≠ '"' ∧ c ≠ '\\' ∧ text = [c]) ∨ ∃ c, c ≠ '\n' ∧ text = ['\\', c] := by
  intro text captures
  rw [piece, ((accepts_one _).either ((accepts_word _).seq (accepts_one _))) text captures]
  refine and_congr_left fun _ => or_congr ?_ ?_
  · simp [noneOf, and_assoc]
  · constructor
    · rintro ⟨left, right, rfl, ⟨c, hc, rfl⟩, rfl⟩
      exact ⟨c, by simpa [noneOf] using hc, rfl⟩
    · rintro ⟨c, hc, rfl⟩
      exact ⟨['\\'], [c], rfl, ⟨c, by simpa [noneOf] using hc, rfl⟩, rfl⟩

/-- The bodies of literals are made of pieces. -/
theorem accepts_pieces : Accepts (.many piece) IsBody := by
  intro text captures
  constructor
  · intro h
    generalize hitem : Regex.many piece = item at h
    induction h with
    | stop => exact ⟨.nil, rfl⟩
    | next left right _ ih =>
      obtain rfl := Regex.many.inj hitem
      obtain ⟨hbody, rfl⟩ := ih rfl
      obtain ⟨hpiece, rfl⟩ := (accepts_piece _ _).mp left
      rcases hpiece with ⟨c, hquote, hescape, rfl⟩ | ⟨c, hline, rfl⟩
      · exact ⟨.plain c hquote hescape hbody, rfl⟩
      · exact ⟨.escaped c hline hbody, rfl⟩
    | _ => cases hitem
  · rintro ⟨h, rfl⟩
    induction h with
    | nil => exact .stop _
    | plain c hquote hescape _ ih =>
      have hpiece : Matches piece [c] [] :=
        (accepts_piece _ _).mpr ⟨Or.inl ⟨c, hquote, hescape, rfl⟩, rfl⟩
      exact hpiece.next ih
    | escaped c hline _ ih =>
      have hpiece : Matches piece ['\\', c] [] :=
        (accepts_piece _ _).mpr ⟨Or.inr ⟨c, hline, rfl⟩, rfl⟩
      exact hpiece.next ih

theorem accepts_filled : Accepts (several piece) fun text => IsBody text ∧ text ≠ [] := by
  intro text captures
  rw [several, accepts_piece.seq accepts_pieces text captures]
  refine and_congr_left fun _ => ?_
  constructor
  · rintro ⟨left, right, ⟨c, hquote, hescape, rfl⟩ | ⟨c, hline, rfl⟩, hright, rfl⟩
    · exact ⟨.plain c hquote hescape hright, List.cons_ne_nil c right⟩
    · exact ⟨.escaped c hline hright, List.cons_ne_nil '\\' (c :: right)⟩
  · rintro ⟨hbody, hne⟩
    cases hbody with
    | nil => exact absurd rfl hne
    | plain c hquote hescape hrest =>
      exact ⟨[c], _, Or.inl ⟨c, hquote, hescape, rfl⟩, hrest, rfl⟩
    | escaped c hline hrest => exact ⟨['\\', c], _, Or.inr ⟨c, hline, rfl⟩, hrest, rfl⟩

theorem accepts_slashes :
    Accepts (.seq (.word "//".toList) (.many piece)) fun text =>
      IsBody text ∧ ['/', '/'] <+: text := by
  intro text captures
  rw [(accepts_word _).seq accepts_pieces text captures]
  refine and_congr_left fun _ => ?_
  constructor
  · rintro ⟨left, right, rfl, hright, rfl⟩
    exact ⟨.plain '/' (by decide) (by decide) (.plain '/' (by decide) (by decide) hright),
      List.prefix_append ..⟩
  · rintro ⟨hbody, rest, rfl⟩
    refine ⟨['/', '/'], rest, rfl, ?_, rfl⟩
    have hslash {c : Char} {rest : Text} (h : IsBody (c :: rest)) (hc : c = '/') : IsBody rest := by
      cases h with
      | plain _ _ _ hrest => exact hrest
      | escaped _ _ _ => cases hc
    exact hslash (hslash hbody rfl) rfl

/-! ### The two shapes -/

/-- What a member is made of. -/
theorem matches_memberRegex_iff (hkey : Accepts key (· ∈ keys)) (hbody : Accepts body holds) :
    Matches (memberRegex key body) text captures
      ↔ ∃ name ∈ keys, ∃ found, holds found ∧ captures = [found]
        ∧ Opens name text (found ++ ['"']) := by
  have hblanks : Accepts blanks IsBlanks := accepts_many_one _
  simp only [memberRegex, inTurn, matches_word_seq_iff, hkey.matches_seq_iff,
    hblanks.matches_seq_iff, hbody.matches_group_seq_iff, matches_word_iff]
  constructor
  · rintro ⟨_, rfl, name, _, hname, rfl, _, rfl, before, _, hbefore, rfl, _, rfl, after, _, hafter,
      rfl, _, rfl, found, _, _, hfound, rfl, rfl, _, rfl, rfl, rfl⟩
    exact ⟨name, hname, found, hfound, rfl, before, after, hbefore, hafter, by simp⟩
  · rintro ⟨name, hname, found, hfound, rfl, before, after, hbefore, hafter, rfl⟩
    refine ⟨name ++ (['"'] ++ (before ++ ([':'] ++ (after ++ (['"'] ++ (found ++ ['"'])))))), ?_,
      name, _, hname, rfl, _, rfl, before, _, hbefore, rfl, _, rfl, after, _, hafter, rfl, _, rfl,
      found, _, _, hfound, rfl, rfl, _, (List.append_nil _).symm, rfl, rfl⟩
    simp

/-- What the path of a command is made of. -/
theorem matches_commandRegex_iff {command : Text} :
    Matches (commandRegex command) text captures
      ↔ ∃ id, IsId id ∧ captures = [id] ∧ text = path id command := by
  have hclass : (fun c => noneOf ['/', '"', '?'] c && !Text.isBlank c) = isIdChar := by
    funext c
    simp [noneOf, isIdChar, Bool.and_assoc]
  have hid : Accepts (several (.one isIdChar)) IsId := accepts_several_one _
  unfold commandRegex path
  generalize "/element/".toList = lead
  simp only [hclass, inTurn, matches_word_seq_iff, hid.matches_group_seq_iff, matches_word_iff]
  constructor
  · rintro ⟨_, rfl, id, _, _, hid, rfl, rfl, _, rfl, _, rfl, rfl, rfl⟩
    exact ⟨id, hid, rfl, by simp⟩
  · rintro ⟨id, hid, rfl, rfl⟩
    refine ⟨id ++ (['/'] ++ (command ++ [])), ?_, id, _, _, hid, rfl, rfl, _, rfl, _, rfl, rfl, rfl⟩
    simp

/-! ### The recognizers -/

/-- What follows the end of a member follows what it opens. -/
theorem opens_append_iff {name inner : Text} :
    Opens name text (inner ++ rest)
      ↔ ∃ matched, text = matched ++ rest ∧ Opens name matched inner := by
  constructor
  · rintro ⟨before, after, hbefore, hafter, rfl⟩
    refine ⟨'"' :: name ++ '"' :: before ++ ':' :: after ++ '"' :: inner, by simp, ?_⟩
    exact ⟨before, after, hbefore, hafter, rfl⟩
  · rintro ⟨matched, rfl, before, after, hbefore, hafter, rfl⟩
    exact ⟨before, after, hbefore, hafter, by simp⟩

theorem opens_closed_iff {name : Text} :
    Opens name text (found ++ '"' :: rest)
      ↔ ∃ matched, text = matched ++ rest ∧ Opens name matched (found ++ ['"']) := by
  rw [← opens_append_iff, List.append_assoc, List.singleton_append]

/-- A text opens one string under one key at most. -/
theorem opens_unique {name other inner : Text} (hname : IsBody name) (hother : IsBody other)
    (h : Opens name text inner) (h' : Opens other text rest) : name = other ∧ inner = rest := by
  have hsame : name = other := by
    obtain ⟨before, after, -, -, htext⟩ := h
    obtain ⟨before', after', -, -, htext'⟩ := h'
    have hquoted := htext.symm.trans htext'
    simp only [List.cons_append, List.append_assoc, List.cons.injEq, true_and] at hquoted
    exact (hname.append_inj hother hquoted).1
  subst hsame
  have hfound := (stringUnder?_eq_some_iff.mpr h).symm.trans (stringUnder?_eq_some_iff.mpr h')
  exact ⟨rfl, Option.some.inj hfound⟩

theorem locator?_eq_some_iff :
    locator? text = some found
      ↔ ∃ name ∈ keysOf .locator, (IsBody found ∧ ['/', '/'] <+: found)
        ∧ ∃ rest, Opens name text (found ++ '"' :: rest) := by
  constructor
  · intro h
    unfold locator? at h
    obtain ⟨inner, hinner, hslashed⟩ := Option.bind_eq_some_iff.mp h
    obtain ⟨slashed, hslashes, hbody⟩ := Option.bind_eq_some_iff.mp hslashed
    obtain ⟨hisBody, rest, rfl⟩ := body?_eq_some_iff.mp hbody
    refine ⟨locatorKey, List.mem_singleton_self _, ⟨hisBody, ?_⟩, rest,
      stringUnder?_eq_some_iff.mp hinner⟩
    -- the second slash is no quote, so it is in the body
    have hparts := Text.eq_append_of_after? hslashes
    rcases found with _ | ⟨first, _ | ⟨second, more⟩⟩
    · simp at hparts
    · simp at hparts
    · obtain ⟨rfl, rfl, -⟩ : first = '/' ∧ second = '/' ∧ _ := by simpa using hparts
      exact ⟨more, rfl⟩
  · rintro ⟨name, hname, ⟨hbody, hslashes⟩, rest, hopens⟩
    obtain rfl := List.mem_singleton.mp hname
    exact locator?_eq_some hopens hbody hslashes

theorem filledUnder?_eq_some_iff {name : Text} :
    filledUnder? name text = some found
      ↔ (IsBody found ∧ found ≠ []) ∧ ∃ rest, Opens name text (found ++ '"' :: rest) := by
  constructor
  · intro h
    have hne := filledUnder?_ne_nil h
    unfold filledUnder? at h
    obtain ⟨inner, hinner, hfilled⟩ := Option.bind_eq_some_iff.mp h
    obtain ⟨body, hbody, hkept⟩ := Option.bind_eq_some_iff.mp hfilled
    obtain ⟨hisBody, rest, rfl⟩ := body?_eq_some_iff.mp hbody
    split at hkept
    · cases hkept
    · obtain rfl := Option.some.inj hkept
      exact ⟨⟨hisBody, hne⟩, rest, stringUnder?_eq_some_iff.mp hinner⟩
  · rintro ⟨⟨hbody, hne⟩, rest, hopens⟩
    exact filledUnder?_eq_some hopens hbody hne

/-- No text begins with both of the element keys. -/
theorem element?_eq_some_iff :
    element? text = some found
      ↔ ∃ name ∈ keysOf .element, (IsBody found ∧ found ≠ [])
        ∧ ∃ rest, Opens name text (found ++ '"' :: rest) := by
  have helement : ∀ name ∈ keysOf .element, IsBody name := fun name => isBody_of_mem_keysOf
  simp only [keysOf, List.mem_cons, List.not_mem_nil, or_false, exists_eq_or_imp,
    exists_eq_left, forall_eq_or_imp, forall_eq, ← filledUnder?_eq_some_iff] at helement ⊢
  rw [element?, Option.or_eq_some_iff]
  refine or_congr_right ⟨And.right, fun hfound => ⟨?_, hfound⟩⟩
  rw [Option.eq_none_iff_forall_ne_some]
  intro other hother
  obtain ⟨-, rest, hopens⟩ := filledUnder?_eq_some_iff.mp hother
  obtain ⟨-, rest', hopens'⟩ := filledUnder?_eq_some_iff.mp hfound
  exact absurd (opens_unique helement.1 helement.2 hopens hopens').1 (by decide +kernel)

theorem typed?_eq_some_iff :
    typed? text = some found
      ↔ ∃ name ∈ keysOf .typed, (IsBody found ∧ found ≠ [])
        ∧ ∃ rest, Opens name text (found ++ '"' :: rest) := by
  simp only [keysOf, List.mem_singleton, exists_eq_left, ← filledUnder?_eq_some_iff, typed?]

/-- A recognizer of members finds what their expression captures. -/
theorem finds_memberRegex {recognize : Text → Option Text} (hkey : Accepts key (· ∈ keys))
    (hbody : Accepts body holds)
    (h : ∀ place found, recognize place = some found
      ↔ ∃ name ∈ keys, holds found ∧ ∃ rest, Opens name place (found ++ '"' :: rest)) :
    Finds recognize (memberRegex key body) := by
  intro place captures
  constructor
  · rintro ⟨matched, rest, rfl, hmatches⟩
    obtain ⟨name, hname, found, hfound, rfl, hopens⟩ :=
      (matches_memberRegex_iff hkey hbody).mp hmatches
    refine ⟨found, (h _ _).mpr ⟨name, hname, hfound, rest, ?_⟩, rfl⟩
    exact opens_closed_iff.mpr ⟨matched, rfl, hopens⟩
  · rintro ⟨found, hfound, rfl⟩
    obtain ⟨name, hname, hholds, rest, hopens⟩ := (h _ _).mp hfound
    obtain ⟨matched, rfl, hmatched⟩ := opens_closed_iff.mp hopens
    refine ⟨matched, rest, rfl, (matches_memberRegex_iff hkey hbody).mpr ?_⟩
    exact ⟨name, hname, found, hholds, rfl, hmatched⟩

theorem finds_commandRegex (command : Text) :
    Finds (command? command) (commandRegex command) := by
  intro place captures
  constructor
  · rintro ⟨matched, rest, rfl, hmatches⟩
    obtain ⟨id, hid, rfl, rfl⟩ := matches_commandRegex_iff.mp hmatches
    exact ⟨id, command?_eq_some_iff.mpr ⟨hid, List.prefix_append ..⟩, rfl⟩
  · rintro ⟨id, hfound, rfl⟩
    obtain ⟨hid, rest, rfl⟩ := command?_eq_some_iff.mp hfound
    exact ⟨path id command, rest, rfl, matches_commandRegex_iff.mpr ⟨id, hid, rfl, rfl⟩⟩

theorem accepts_locatorKey : Accepts (.word "value".toList) (· ∈ keysOf .locator) :=
  fun _ _ => matches_word_iff.trans (and_congr_left' List.mem_singleton.symm)

theorem accepts_elementKeys :
    Accepts (.either (.word "element-6066-11e4-a52e-4f735466cecf".toList) (.word "ELEMENT".toList))
      (· ∈ keysOf .element) := by
  intro text captures
  rw [(accepts_word _).either (accepts_word _) text captures]
  simp only [keysOf, List.mem_cons, List.not_mem_nil, or_false]
  rfl

theorem accepts_typedKey : Accepts (.word "text".toList) (· ∈ keysOf .typed) :=
  fun _ _ => matches_word_iff.trans (and_congr_left' List.mem_singleton.symm)

/-- Each recognizer finds what its expression captures. -/
theorem finds_capture? (kind : EventKind) : Finds (capture? kind) (regexOf kind) := by
  cases kind with
  | locator =>
    exact finds_memberRegex accepts_locatorKey accepts_slashes fun _ _ => locator?_eq_some_iff
  | element =>
    exact finds_memberRegex accepts_elementKeys accepts_filled fun _ _ => element?_eq_some_iff
  | click => exact finds_commandRegex "click".toList
  | target => exact finds_commandRegex "value".toList
  | typed =>
    exact finds_memberRegex accepts_typedKey accepts_filled fun _ _ => typed?_eq_some_iff

/-! ### One match from each place -/

/-- Whether an expression matches one text at most from each place. -/
def IsSingle (item : Regex) : Prop :=
  ∀ matched matched' rest rest' captures captures', matched ++ rest = matched' ++ rest' →
    Matches item matched captures → Matches item matched' captures' →
    matched = matched' ∧ captures = captures'

theorem isSingle_memberRegex (hkey : Accepts key (· ∈ keys)) (hbody : Accepts body holds)
    (hkeys : ∀ name ∈ keys, IsBody name) (hholds : ∀ text, holds text → IsBody text) :
    IsSingle (memberRegex key body) := by
  intro matched matched' rest rest' captures captures' htext h h'
  obtain ⟨name, hname, found, hfound, rfl, hopens⟩ :=
    (matches_memberRegex_iff hkey hbody).mp h
  obtain ⟨name', hname', found', hfound', rfl, hopens'⟩ :=
    (matches_memberRegex_iff hkey hbody).mp h'
  have hplace : Opens name (matched ++ rest) (found ++ '"' :: rest) :=
    opens_closed_iff.mpr ⟨matched, rfl, hopens⟩
  have hplace' : Opens name' (matched ++ rest) (found' ++ '"' :: rest') :=
    opens_closed_iff.mpr ⟨matched', htext, hopens'⟩
  obtain ⟨-, hinner⟩ := opens_unique (hkeys name hname) (hkeys name' hname') hplace hplace'
  obtain ⟨rfl, rfl⟩ := (hholds found hfound).append_inj (hholds found' hfound') hinner
  exact ⟨List.append_cancel_right htext, rfl⟩

theorem isSingle_commandRegex (command : Text) : IsSingle (commandRegex command) := by
  intro matched matched' rest rest' captures captures' htext h h'
  obtain ⟨id, hid, rfl, rfl⟩ := matches_commandRegex_iff.mp h
  obtain ⟨id', hid', rfl, rfl⟩ := matches_commandRegex_iff.mp h'
  have hfound : command? command (path id command ++ rest) = some id :=
    command?_eq_some_iff.mpr ⟨hid, List.prefix_append ..⟩
  rw [htext, command?_eq_some_iff.mpr ⟨hid', List.prefix_append ..⟩] at hfound
  obtain rfl := Option.some.inj hfound
  exact ⟨rfl, rfl⟩

/-- From each place an expression of events matches one text at most. -/
theorem isSingle_regexOf (kind : EventKind) : IsSingle (regexOf kind) := by
  cases kind with
  | locator =>
    exact isSingle_memberRegex accepts_locatorKey accepts_slashes
      (fun _ => isBody_of_mem_keysOf) fun _ h => h.1
  | element =>
    exact isSingle_memberRegex accepts_elementKeys accepts_filled
      (fun _ => isBody_of_mem_keysOf) fun _ h => h.1
  | click => exact isSingle_commandRegex "click".toList
  | target => exact isSingle_commandRegex "value".toList
  | typed =>
    exact isSingle_memberRegex accepts_typedKey accepts_filled
      (fun _ => isBody_of_mem_keysOf) fun _ h => h.1

end StepRecorder.Event
