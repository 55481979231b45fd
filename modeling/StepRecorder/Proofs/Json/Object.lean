import StepRecorder.Json.Reader
import StepRecorder.Proofs.Json.Number
import StepRecorder.Proofs.Json.Spelling

/-!
Flat objects: objects whose members are strings and whole numbers. Spaces may stand around every
part, so an object is written by many texts, and the reader has to find its members in all of them:

    ␣ { ␣ "name" ␣ : ␣ "LoginButton" ␣ , ␣ "secs" ␣ : ␣ 2 ␣ } ␣

Main statement: `ofText?_of_writes`.
-/

namespace StepRecorder.Json

/-- Some spaces, or none. -/
def IsGap (text : Text) : Prop := ∀ c ∈ text, isSpace c = true

/-- The text of a string or of a whole number. -/
inductive WritesScalar : Value → Text → Prop where
  | string {body text : Text} (h : Literal.Spells body text) :
    WritesScalar (.string body) ('"' :: body ++ ['"'])
  | number {digits : Text} (h : Number.IsWhole digits) : WritesScalar (.number digits) digits

/-- The texts of a member, with spaces around its name and its value. -/
inductive WritesMember : Text × Value → Text → Prop where
  | mk {name text written gap₁ gap₂ gap₃ gap₄ : Text} {value : Value}
      (hname : Literal.Spells name text) (hvalue : WritesScalar value written)
      (h₁ : IsGap gap₁) (h₂ : IsGap gap₂) (h₃ : IsGap gap₃) (h₄ : IsGap gap₄) :
    WritesMember (name, value)
      (gap₁ ++ '"' :: (name ++ '"' :: (gap₂ ++ ':' :: (gap₃ ++ (written ++ gap₄)))))

/-- The texts of some members, with commas between them. -/
inductive WritesMembers : List (Text × Value) → Text → Prop where
  | last {member : Text × Value} {text : Text} (h : WritesMember member text) :
    WritesMembers [member] text
  | cons {member : Text × Value} {members : List (Text × Value)} {text rest : Text}
      (h : WritesMember member text) (hrest : WritesMembers members rest) :
    WritesMembers (member :: members) (text ++ ',' :: rest)

/-- The texts of an object, with spaces around it. -/
inductive WritesObject : List (Text × Value) → Text → Prop where
  | empty {gap₁ gap₂ gap₃ : Text} (h₁ : IsGap gap₁) (h₂ : IsGap gap₂) (h₃ : IsGap gap₃) :
    WritesObject [] (gap₁ ++ '\x7b' :: (gap₂ ++ '\x7d' :: gap₃))
  | members {members : List (Text × Value)} {gap₁ inner gap₂ : Text} (h₁ : IsGap gap₁)
      (h : WritesMembers members inner) (h₂ : IsGap gap₂) :
    WritesObject members (gap₁ ++ '\x7b' :: (inner ++ '\x7d' :: gap₂))

theorem isGap_nil : IsGap [] := nofun

theorem skip_gap {gap : Text} (h : IsGap gap) (rest : Text) : skip (gap ++ rest) = skip rest :=
  List.dropWhile_append_of_pos h

theorem skip_of_not_isSpace {c : Char} (h : isSpace c = false) (rest : Text) :
    skip (c :: rest) = c :: rest := by
  simp [skip, h]

/-- What comes behind a gap. -/
theorem skip_gap_cons {gap : Text} {c : Char} (h : IsGap gap) (hc : isSpace c = false)
    (rest : Text) : skip (gap ++ c :: rest) = c :: rest := by
  rw [skip_gap h, skip_of_not_isSpace hc]

/-- No number goes on with spaces, or with a comma or brace behind them. -/
theorem stops_gap {gap : Text} (h : IsGap gap) {c : Char} (hc : Number.Stops [c]) (rest : Text) :
    Number.Stops (gap ++ c :: rest) := by
  intro first hfirst
  cases gap with
  | nil => exact hc first hfirst
  | cons space gap =>
    obtain rfl := Option.some.inj hfirst
    have hspace := h space List.mem_cons_self
    simp only [isSpace, Bool.or_eq_true, decide_eq_true_eq] at hspace
    obtain ((rfl | rfl) | rfl) | rfl := hspace <;> decide

theorem isSpace_of_isDigit {c : Char} (h : c.isDigit = true) : isSpace c = false := by
  rw [Bool.eq_false_iff]
  intro hspace
  simp only [isSpace, Bool.or_eq_true, decide_eq_true_eq] at hspace
  obtain ((rfl | rfl) | rfl) | rfl := hspace <;> cases h

/-- A digit begins a number and nothing else. -/
theorem scan?_digit {c : Char} (h : c.isDigit = true) (bound : Nat) {text rest : Text}
    (htext : skip text = c :: rest) :
    Value.scan? (bound + 1) text
      = (Number.scan? (c :: rest)).map fun found => (.number found.1, found.2) := by
  rw [Value.scan?, htext]
  split
  case h_7 => rfl
  all_goals
    rename_i heq
    obtain ⟨rfl, -⟩ := List.cons.inj heq
    cases h

/-- A string or a number is found behind spaces, where no number goes on. -/
theorem WritesScalar.scan? {value : Value} {written gap rest : Text}
    (h : WritesScalar value written) (hgap : IsGap gap) (hrest : Number.Stops rest)
    (bound : Nat) :
    Value.scan? (bound + 1) (gap ++ (written ++ rest)) = some (value, rest) := by
  cases h with
  | @string body text h =>
    have hskip : skip (gap ++ ('"' :: body ++ ['"'] ++ rest)) = '"' :: (body ++ '"' :: rest) := by
      simp [skip_gap_cons hgap, show isSpace '"' = false from rfl]
    rw [Value.scan?, hskip]
    simp only [Literal.scan?_of_spells h, Option.map_some]
  | number h =>
    cases written with
    | nil => exact absurd rfl h.ne_nil
    | cons c digits =>
      have hdigit := h.isDigit c List.mem_cons_self
      have hskip : skip (gap ++ (c :: digits ++ rest)) = c :: (digits ++ rest) :=
        skip_gap_cons hgap (isSpace_of_isDigit hdigit) _
      rw [scan?_digit hdigit bound hskip, ← List.cons_append, Number.scan?_of_isWhole h hrest]
      rfl

section Member

variable {member : Text × Value} {text : Text} (h : WritesMember member text) (bound : Nat)
include h

/-- A member and a comma: more members follow. -/
theorem WritesMember.scan?_comma (rest : Text) :
    Value.scanMembers? (bound + 2) (text ++ ',' :: rest)
      = (Value.scanMembers? (bound + 1) rest).map fun found => (member :: found.1, found.2) := by
  obtain ⟨hname, hvalue, h₁, h₂, h₃, h₄⟩ := h
  have hstops : Number.Stops [','] := Number.stops_cons (by decide) []
  have hvalue := hvalue.scan? h₃ (stops_gap h₄ hstops rest) bound
  simp only [List.append_assoc, List.cons_append]
  rw [Value.scanMembers?, skip_gap_cons h₁ rfl]
  simp only [Literal.scan?_of_spells hname, Option.bind_eq_bind, Option.bind_some,
    skip_gap_cons h₂ (show isSpace ':' = false from rfl), hvalue,
    skip_gap_cons h₄ (show isSpace ',' = false from rfl)]

/-- A member and a brace: it is the last one. -/
theorem WritesMember.scan?_brace (rest : Text) :
    Value.scanMembers? (bound + 2) (text ++ '\x7d' :: rest) = some ([member], rest) := by
  obtain ⟨hname, hvalue, h₁, h₂, h₃, h₄⟩ := h
  have hstops : Number.Stops ['\x7d'] := Number.stops_cons (by decide) []
  have hvalue := hvalue.scan? h₃ (stops_gap h₄ hstops rest) bound
  simp only [List.append_assoc, List.cons_append]
  rw [Value.scanMembers?, skip_gap_cons h₁ rfl]
  simp only [Literal.scan?_of_spells hname, Option.bind_eq_bind, Option.bind_some,
    skip_gap_cons h₂ (show isSpace ':' = false from rfl), hvalue,
    skip_gap_cons h₄ (show isSpace '\x7d' = false from rfl)]

end Member

variable {members : List (Text × Value)} {text : Text}

/-- The members up to the brace behind them. -/
theorem WritesMembers.scan? (h : WritesMembers members text) (rest : Text) {bound : Nat}
    (hbound : members.length + 1 ≤ bound) :
    Value.scanMembers? bound (text ++ '\x7d' :: rest) = some (members, rest) := by
  induction h generalizing bound with
  | last h =>
    obtain ⟨bound, rfl⟩ := Nat.exists_eq_add_of_le' hbound
    exact h.scan?_brace bound rest
  | @cons member members text written h hmembers ih =>
    obtain ⟨bound, rfl⟩ := Nat.exists_eq_add_of_le'
      (show 2 ≤ bound by simp only [List.length_cons] at hbound; omega)
    have hrestBound : members.length + 1 ≤ bound + 1 := by
      simp only [List.length_cons] at hbound
      omega
    rw [List.append_assoc, List.cons_append, h.scan?_comma, ih hrestBound]
    rfl

/-- A member takes room. -/
theorem WritesMembers.length_le (h : WritesMembers members text) :
    members.length ≤ text.length := by
  induction h with
  | last h =>
    obtain ⟨-, -, -, -, -, -⟩ := h
    simp only [List.length_cons, List.length_nil, List.length_append]
    omega
  | cons h hrest ih =>
    simp only [List.length_cons, List.length_append]
    omega

/-- Members begin with the quote of a name. -/
theorem WritesMembers.skip_eq (h : WritesMembers members text) (rest : Text) :
    ∃ inner, skip (text ++ rest) = '"' :: inner := by
  obtain ⟨hname, hvalue, h₁, h₂, h₃, h₄⟩ | ⟨⟨hname, hvalue, h₁, h₂, h₃, h₄⟩, hrest⟩ := h
  · rw [List.append_assoc, List.cons_append, skip_gap_cons h₁ rfl]
    exact ⟨_, rfl⟩
  · simp only [List.append_assoc, List.cons_append]
    rw [skip_gap_cons h₁ rfl]
    exact ⟨_, rfl⟩

/-- An object that begins with a member. -/
theorem scan?_object (bound : Nat) {text inner rest : Text} (htext : skip text = '\x7b' :: inner)
    (h : skip inner = '"' :: rest) :
    Value.scan? (bound + 1) text
      = (Value.scanMembers? bound inner).map fun found => (.object found.1, found.2) := by
  -- the spaces before the first member are passed over twice
  have hskip : Value.scanMembers? bound ('"' :: rest) = Value.scanMembers? bound inner := by
    cases bound with
    | zero => rfl
    | succ bound => rw [Value.scanMembers?, Value.scanMembers?, skip_of_not_isSpace rfl, h]
  rw [Value.scan?, htext, ← hskip]
  simp only [h]
  rfl

/-- A text that writes an object is read as that object. -/
theorem ofText?_of_writes (h : WritesObject members text) :
    Value.ofText? text = some (.object members) := by
  have hskip : ∀ {gap : Text}, IsGap gap → skip gap = [] := by
    intro gap hgap
    simpa [skip] using skip_gap hgap []
  cases h with
  | @empty gap₁ gap₂ gap₃ h₁ h₂ h₃ =>
    have hscan (bound : Nat) : Value.scan? (bound + 1) (gap₁ ++ '\x7b' :: (gap₂ ++ '\x7d' :: gap₃))
        = some (.object [], gap₃) := by
      rw [Value.scan?, skip_gap_cons h₁ rfl]
      simp only [skip_gap_cons h₂ (show isSpace '\x7d' = false from rfl)]
    rw [Value.ofText?, hscan]
    simp [hskip h₃]
  | @members members gap₁ inner gap₂ h₁ h h₂ =>
    obtain ⟨first, hfirst⟩ := h.skip_eq ('\x7d' :: gap₂)
    have hbound : members.length + 1
        ≤ 2 * (gap₁ ++ '\x7b' :: (inner ++ '\x7d' :: gap₂)).length + 1 := by
      have hlength := h.length_le
      simp only [List.length_append, List.length_cons]
      omega
    rw [Value.ofText?, scan?_object _ (skip_gap_cons h₁ rfl _) hfirst, h.scan? gap₂ hbound]
    simp [hskip h₂]

end StepRecorder.Json
