import StepRecorder.Proofs.Text.Search

/-!
Regular expressions as languages. `Matches` says which texts an expression accepts, and what its
groups capture in them; `IsLeftmost` says which match a search has to find.

    text      before │ matched │ after
    search    no match starts here, whatever its end
                      └ one that is captured

Main statements: `Finds.firstMatch_eq_some_iff` and `Finds.firstMatch_eq_none_iff`, where a
recognizer that finds the matches at one place finds the leftmost one of a text.
-/

namespace StepRecorder

/-- A regular expression over characters. -/
inductive Regex where
  /-- A text as it is. -/
  | word (text : Text)
  /-- One character of a class. -/
  | one (accepts : Char → Bool)
  | seq (first second : Regex)
  | either (first second : Regex)
  /-- Any number of repetitions. -/
  | many (item : Regex)
  /-- A group, whose text is captured. -/
  | group (item : Regex)

namespace Regex

/-- The texts of an expression, each with what the groups capture in it. -/
inductive Matches : Regex → Text → List Text → Prop where
  | word (text : Text) : Matches (.word text) text []
  | one {accepts : Char → Bool} (c : Char) (accepted : accepts c = true) :
    Matches (.one accepts) [c] []
  | seq {first second : Regex} {text more : Text} {captures moreCaptures : List Text}
      (left : Matches first text captures) (right : Matches second more moreCaptures) :
    Matches (.seq first second) (text ++ more) (captures ++ moreCaptures)
  | first {first second : Regex} {text : Text} {captures : List Text}
      (item : Matches first text captures) : Matches (.either first second) text captures
  | second {first second : Regex} {text : Text} {captures : List Text}
      (item : Matches second text captures) : Matches (.either first second) text captures
  | stop (item : Regex) : Matches (.many item) [] []
  | next {item : Regex} {text more : Text} {captures moreCaptures : List Text}
      (left : Matches item text captures) (right : Matches (.many item) more moreCaptures) :
    Matches (.many item) (text ++ more) (captures ++ moreCaptures)
  | group {item : Regex} {text : Text} {captures : List Text}
      (inside : Matches item text captures) : Matches (.group item) text (text :: captures)

/-- Some expressions, one after the other. -/
def inTurn : List Regex → Regex
  | [] => .word []
  | item :: items => .seq item (inTurn items)

/-- At least one repetition. -/
def several (item : Regex) : Regex := .seq item (.many item)

/-- The class of all characters but some. -/
def noneOf (characters : List Char) (c : Char) : Bool := !characters.contains c

variable {item first second : Regex} {text : Text} {captures : List Text}

/-! ### What the texts are made of -/

theorem matches_word_iff {other : Text} :
    Matches (.word other) text captures ↔ text = other ∧ captures = [] := by
  constructor
  · rintro ⟨⟩
    exact ⟨rfl, rfl⟩
  · rintro ⟨rfl, rfl⟩
    exact .word text

theorem matches_one_iff {accepts : Char → Bool} :
    Matches (.one accepts) text captures
      ↔ (∃ c, accepts c = true ∧ text = [c]) ∧ captures = [] := by
  constructor
  · rintro ⟨⟩
    exact ⟨⟨_, ‹_›, rfl⟩, rfl⟩
  · rintro ⟨⟨c, hc, rfl⟩, rfl⟩
    exact .one c hc

theorem matches_seq_iff :
    Matches (.seq first second) text captures
      ↔ ∃ left right outer inner, Matches first left outer ∧ Matches second right inner
        ∧ text = left ++ right ∧ captures = outer ++ inner := by
  constructor
  · rintro ⟨⟩
    exact ⟨_, _, _, _, ‹_›, ‹_›, rfl, rfl⟩
  · rintro ⟨left, right, outer, inner, hleft, hright, rfl, rfl⟩
    exact .seq hleft hright

theorem matches_either_iff :
    Matches (.either first second) text captures
      ↔ Matches first text captures ∨ Matches second text captures := by
  constructor
  · intro h
    cases h with
    | first h => exact Or.inl h
    | second h => exact Or.inr h
  · rintro (h | h)
    · exact .first h
    · exact .second h

theorem matches_group_iff :
    Matches (.group item) text captures
      ↔ ∃ inner, Matches item text inner ∧ captures = text :: inner := by
  constructor
  · rintro ⟨⟩
    exact ⟨_, ‹_›, rfl⟩
  · rintro ⟨inner, h, rfl⟩
    exact .group h

/-- The texts of an expression in which nothing is captured. -/
def Accepts (item : Regex) (holds : Text → Prop) : Prop :=
  ∀ text captures, Matches item text captures ↔ holds text ∧ captures = []

theorem accepts_word (word : Text) : Accepts (.word word) (· = word) :=
  fun _ _ => matches_word_iff

theorem accepts_one (accepts : Char → Bool) :
    Accepts (.one accepts) fun text => ∃ c, accepts c = true ∧ text = [c] :=
  fun _ _ => matches_one_iff

theorem Accepts.either {holds holds' : Text → Prop} (h : Accepts first holds)
    (h' : Accepts second holds') :
    Accepts (.either first second) fun text => holds text ∨ holds' text := by
  intro text captures
  rw [matches_either_iff, h text captures, h' text captures, or_and_right]

theorem Accepts.seq {holds holds' : Text → Prop} (h : Accepts first holds)
    (h' : Accepts second holds') :
    Accepts (.seq first second) fun text =>
      ∃ left right, holds left ∧ holds' right ∧ text = left ++ right := by
  intro text captures
  rw [matches_seq_iff]
  constructor
  · rintro ⟨left, right, outer, inner, hleft, hright, rfl, rfl⟩
    obtain ⟨hholds, rfl⟩ := (h _ _).mp hleft
    obtain ⟨hholds', rfl⟩ := (h' _ _).mp hright
    exact ⟨⟨left, right, hholds, hholds', rfl⟩, rfl⟩
  · rintro ⟨⟨left, right, hleft, hright, rfl⟩, rfl⟩
    exact ⟨left, right, [], [], (h _ _).mpr ⟨hleft, rfl⟩, (h' _ _).mpr ⟨hright, rfl⟩, rfl, rfl⟩

/-- An item that captures nothing, and what follows it. -/
theorem Accepts.matches_seq_iff {holds : Text → Prop} (h : Accepts first holds) :
    Matches (.seq first second) text captures
      ↔ ∃ left right, holds left ∧ text = left ++ right ∧ Matches second right captures := by
  rw [Regex.matches_seq_iff]
  constructor
  · rintro ⟨left, right, outer, inner, hleft, hright, rfl, rfl⟩
    obtain ⟨hholds, rfl⟩ := (h _ _).mp hleft
    exact ⟨left, right, hholds, rfl, hright⟩
  · rintro ⟨left, right, hleft, rfl, hright⟩
    exact ⟨left, right, [], captures, (h _ _).mpr ⟨hleft, rfl⟩, hright, rfl, rfl⟩

theorem matches_word_seq_iff {word : Text} :
    Matches (.seq (.word word) second) text captures
      ↔ ∃ right, text = word ++ right ∧ Matches second right captures := by
  rw [(accepts_word word).matches_seq_iff]
  simp

/-- A group, and what follows it. -/
theorem Accepts.matches_group_seq_iff {holds : Text → Prop} (h : Accepts first holds) :
    Matches (.seq (.group first) second) text captures
      ↔ ∃ left right more, holds left ∧ text = left ++ right ∧ captures = left :: more
        ∧ Matches second right more := by
  rw [Regex.matches_seq_iff]
  constructor
  · rintro ⟨left, right, outer, inner, hleft, hright, rfl, rfl⟩
    obtain ⟨inside, hinside, rfl⟩ := matches_group_iff.mp hleft
    obtain ⟨hholds, rfl⟩ := (h _ _).mp hinside
    exact ⟨left, right, inner, hholds, rfl, rfl, hright⟩
  · rintro ⟨left, right, more, hleft, rfl, rfl, hright⟩
    exact ⟨left, right, [left], more, .group ((h _ _).mpr ⟨hleft, rfl⟩), hright, rfl, rfl⟩

/-- Repetitions of one class. -/
theorem accepts_many_one (accepts : Char → Bool) :
    Accepts (.many (.one accepts)) fun text => ∀ c ∈ text, accepts c = true := by
  intro text captures
  constructor
  · intro h
    generalize hitem : Regex.many (.one accepts) = item at h
    induction h with
    | stop => exact ⟨fun c hc => absurd hc List.not_mem_nil, rfl⟩
    | next left right _ ih =>
      obtain rfl := Regex.many.inj hitem
      obtain ⟨⟨c, hc, rfl⟩, rfl⟩ := matches_one_iff.mp left
      obtain ⟨hmore, rfl⟩ := ih rfl
      exact ⟨List.forall_mem_cons.mpr ⟨hc, hmore⟩, rfl⟩
    | _ => cases hitem
  · rintro ⟨h, rfl⟩
    induction text with
    | nil => exact .stop _
    | cons c text ih =>
      obtain ⟨hc, htext⟩ := List.forall_mem_cons.mp h
      exact .next (.one c hc) (ih htext)

/-- At least one character of a class. -/
theorem accepts_several_one (accepts : Char → Bool) :
    Accepts (several (.one accepts)) fun text => text ≠ [] ∧ ∀ c ∈ text, accepts c = true := by
  intro text captures
  rw [several, (accepts_one accepts).seq (accepts_many_one accepts) text captures]
  refine and_congr_left fun _ => ?_
  constructor
  · rintro ⟨left, right, ⟨c, hc, rfl⟩, hright, rfl⟩
    exact ⟨List.cons_ne_nil c right, List.forall_mem_cons.mpr ⟨hc, hright⟩⟩
  · rintro ⟨hne, hall⟩
    obtain ⟨c, rest, rfl⟩ := List.exists_cons_of_ne_nil hne
    obtain ⟨hc, hrest⟩ := List.forall_mem_cons.mp hall
    exact ⟨[c], rest, ⟨c, hc, rfl⟩, hrest, rfl⟩

/-! ### The leftmost match -/

/-- A match in a text that starts nowhere further to the right than any other one. -/
structure IsLeftmost (item : Regex) (text before matched after : Text) (captures : List Text) :
    Prop where
  parts : text = before ++ (matched ++ after)
  accepted : Matches item matched captures
  leftmost : ∀ other found rest captures, text = other ++ (found ++ rest) →
    Matches item found captures → before.length ≤ other.length

/-- Whether a recognizer finds what an expression captures at the place that it looks at. -/
def Finds (recognize : Text → Option Text) (item : Regex) : Prop :=
  ∀ place captures, (∃ matched rest, place = matched ++ rest ∧ Matches item matched captures)
    ↔ ∃ found, recognize place = some found ∧ captures = [found]

variable {recognize : Text → Option Text}

/-- Where nothing is found, no match starts. -/
theorem Finds.not_matches (h : Finds recognize item) {matched rest : Text}
    (hnone : recognize (matched ++ rest) = none) : ¬ Matches item matched captures := by
  intro hmatches
  obtain ⟨found, hfound, -⟩ := (h _ captures).mp ⟨matched, rest, rfl, hmatches⟩
  cases hnone.symm.trans hfound

/-- A search finds what the leftmost match captures. -/
theorem Finds.firstMatch_eq_some_iff (h : Finds recognize item) {found : Text} :
    Text.firstMatch recognize text = some found
      ↔ ∃ before matched after, IsLeftmost item text before matched after [found] := by
  rw [Text.firstMatch_eq_some_iff]
  constructor
  · rintro ⟨before, place, rfl, hfound, hearlier⟩
    obtain ⟨matched, after, rfl, hmatches⟩ := (h place [found]).mpr ⟨found, hfound, rfl⟩
    refine ⟨before, matched, after, rfl, hmatches, ?_⟩
    intro other found' rest captures hparts hother
    refine Nat.le_of_not_lt fun hlength => ?_
    exact h.not_matches (hearlier other (found' ++ rest) hparts hlength) hother
  · rintro ⟨before, matched, after, rfl, hmatches, hleftmost⟩
    obtain ⟨found', hfound, heq⟩ := (h _ _).mp ⟨matched, after, rfl, hmatches⟩
    obtain rfl := List.singleton_inj.mp heq
    refine ⟨before, matched ++ after, rfl, hfound, ?_⟩
    intro other place hparts hlength
    rw [Option.eq_none_iff_forall_ne_some]
    intro more hmore
    obtain ⟨early, rest, rfl, hearly⟩ := (h place [more]).mpr ⟨more, hmore, rfl⟩
    exact Nat.not_lt.mpr (hleftmost other early rest _ hparts hearly) hlength

/-- A search finds nothing exactly if no part of the text is accepted. -/
theorem Finds.firstMatch_eq_none_iff (h : Finds recognize item) :
    Text.firstMatch recognize text = none
      ↔ ∀ matched captures, matched <:+: text → ¬ Matches item matched captures := by
  rw [Text.firstMatch_eq_none_iff]
  constructor
  · rintro hnone matched captures ⟨before, after, rfl⟩
    refine h.not_matches (hnone (matched ++ after) ⟨before, ?_⟩)
    rw [List.append_assoc]
  · rintro hnone place ⟨before, rfl⟩
    rw [Option.eq_none_iff_forall_ne_some]
    intro found hfound
    obtain ⟨matched, after, rfl, hmatches⟩ := (h place [found]).mpr ⟨found, hfound, rfl⟩
    exact hnone matched [found] ⟨before, after, by simp⟩ hmatches

end Regex
end StepRecorder
