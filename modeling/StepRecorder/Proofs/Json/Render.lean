import StepRecorder.Proofs.Json.Object

/-!
A document that is written without blanks is read back, however deep its arrays and objects nest.
Each part is read in front of whatever may follow it:

    null  true  "body"  12             a number ends where no number goes on
    [ item , item , item ]             an item ends at a comma or bracket
    { "name" : value , ... }           a member ends at a comma or brace

The reader's bound counts how deep it is and how many parts it has passed, which is less than the
length of what is written.

Main statement: `ofText?_render`.
-/

namespace StepRecorder.Json.Value

/-- Documents whose strings and names stand for texts, and whose numbers are whole numbers. -/
inductive IsSpelled : Value → Prop where
  | null : IsSpelled .null
  | bool (value : Bool) : IsSpelled (.bool value)
  | number {written : Text} (h : Number.IsWhole written) : IsSpelled (.number written)
  | string {body text : Text} (h : Literal.Spells body text) : IsSpelled (.string body)
  | array {items : List Value} (h : ∀ item ∈ items, IsSpelled item) : IsSpelled (.array items)
  | object {members : List (Text × Value)}
      (hnames : ∀ member ∈ members, ∃ text, Literal.Spells member.1 text)
      (h : ∀ member ∈ members, IsSpelled member.2) : IsSpelled (.object members)

/-- Whether a document is read from what is written for it, in front of anything that cannot belong
to it, with a bound that is as great as what is written is long. -/
def IsRead (value : Value) : Prop :=
  ∀ rest bound, Number.Stops rest → value.render.length ≤ bound →
    scan? bound (value.render ++ rest) = some (value, rest)

/-- A document begins with a character that is neither a space nor a closing bracket. -/
theorem IsSpelled.exists_render_eq {value : Value} (h : IsSpelled value) :
    ∃ c rest, value.render = c :: rest ∧ isSpace c = false ∧ c ≠ ']' := by
  cases h with
  | null => exact ⟨'n', _, rfl, by decide, by decide⟩
  | bool value =>
    cases value with
    | true => exact ⟨'t', _, rfl, by decide, by decide⟩
    | false => exact ⟨'f', _, rfl, by decide, by decide⟩
  | @number written h =>
    cases written with
    | nil => exact absurd rfl h.ne_nil
    | cons c digits =>
      have hdigit := h.isDigit c List.mem_cons_self
      refine ⟨c, digits, by rw [render], isSpace_of_isDigit hdigit, ?_⟩
      rintro rfl
      cases hdigit
  | string => exact ⟨'"', _, rfl, by decide, by decide⟩
  | array => exact ⟨'[', _, rfl, by decide, by decide⟩
  | object => exact ⟨'\x7b', _, rfl, by decide, by decide⟩

/-- So do items. -/
theorem exists_renderItems_eq {item : Value} (h : IsSpelled item) (items : List Value) :
    ∃ c rest, renderItems (item :: items) = c :: rest ∧ isSpace c = false ∧ c ≠ ']' := by
  obtain ⟨c, rest, hrender, hc⟩ := h.exists_render_eq
  cases items with
  | nil => exact ⟨c, rest, by rw [renderItems, hrender], hc⟩
  | cons next items =>
    refine ⟨c, rest ++ ',' :: renderItems (next :: items), ?_, hc⟩
    rw [← List.cons_append, ← hrender]
    rfl

/-- Members begin with the quote of a name. -/
theorem exists_renderMembers_eq (member : Text × Value) (members : List (Text × Value)) :
    ∃ rest, renderMembers (member :: members) = '"' :: rest := by
  cases members with
  | nil => exact ⟨_, rfl⟩
  | cons next members => exact ⟨_, rfl⟩

section Item

variable {item : Value} (h : item.IsRead) {bound : Nat} (hbound : item.render.length ≤ bound)
  (rest : Text)
include h hbound

/-- An item and a comma: more items follow. -/
theorem IsRead.scanItems?_comma :
    scanItems? (bound + 1) (item.render ++ ',' :: rest)
      = (scanItems? bound rest).map fun found => (item :: found.1, found.2) := by
  have hread := h (',' :: rest) bound (Number.stops_cons (by decide) rest) hbound
  rw [scanItems?, hread]
  simp only [Option.bind_eq_bind, Option.bind_some,
    skip_of_not_isSpace (show isSpace ',' = false from rfl)]

/-- An item and a bracket: it is the last one. -/
theorem IsRead.scanItems?_bracket :
    scanItems? (bound + 1) (item.render ++ ']' :: rest) = some ([item], rest) := by
  have hread := h (']' :: rest) bound (Number.stops_cons (by decide) rest) hbound
  rw [scanItems?, hread]
  simp only [Option.bind_eq_bind, Option.bind_some,
    skip_of_not_isSpace (show isSpace ']' = false from rfl)]

variable {name text : Text} (hname : Literal.Spells name text)
include hname

/-- A member and a comma: more members follow. -/
theorem IsRead.scanMembers?_comma :
    scanMembers? (bound + 1) ('"' :: (name ++ '"' :: ':' :: (item.render ++ ',' :: rest)))
      = (scanMembers? bound rest).map fun found => ((name, item) :: found.1, found.2) := by
  have hread := h (',' :: rest) bound (Number.stops_cons (by decide) rest) hbound
  rw [scanMembers?, skip_of_not_isSpace rfl]
  simp only [Literal.scan?_of_spells hname, Option.bind_eq_bind, Option.bind_some, hread,
    skip_of_not_isSpace (show isSpace ':' = false from rfl),
    skip_of_not_isSpace (show isSpace ',' = false from rfl)]

/-- A member and a brace: it is the last one. -/
theorem IsRead.scanMembers?_brace :
    scanMembers? (bound + 1) ('"' :: (name ++ '"' :: ':' :: (item.render ++ '\x7d' :: rest)))
      = some ([(name, item)], rest) := by
  have hread := h ('\x7d' :: rest) bound (Number.stops_cons (by decide) rest) hbound
  rw [scanMembers?, skip_of_not_isSpace rfl]
  simp only [Literal.scan?_of_spells hname, Option.bind_eq_bind, Option.bind_some, hread,
    skip_of_not_isSpace (show isSpace ':' = false from rfl),
    skip_of_not_isSpace (show isSpace '\x7d' = false from rfl)]

end Item

/-- Items are read up to the bracket behind them. -/
theorem scanItems?_render {items : List Value} (hne : items ≠ [])
    (h : ∀ item ∈ items, item.IsRead) (rest : Text) {bound : Nat}
    (hbound : (renderItems items).length + 1 ≤ bound) :
    scanItems? bound (renderItems items ++ ']' :: rest) = some (items, rest) := by
  induction items generalizing bound with
  | nil => exact absurd rfl hne
  | cons item items ih =>
    obtain ⟨hitem, hitems⟩ := List.forall_mem_cons.mp h
    obtain ⟨bound, rfl⟩ := Nat.exists_eq_add_of_le' (Nat.le_trans (Nat.le_add_left 1 _) hbound)
    cases items with
    | nil =>
      rw [renderItems] at hbound ⊢
      exact hitem.scanItems?_bracket (Nat.le_of_succ_le_succ hbound) rest
    | cons next items =>
      have hrender : renderItems (item :: next :: items)
          = item.render ++ ',' :: renderItems (next :: items) := rfl
      rw [hrender] at hbound ⊢
      simp only [List.length_append, List.length_cons] at hbound
      rw [List.append_assoc, List.cons_append, hitem.scanItems?_comma (by omega),
        ih (List.cons_ne_nil _ _) hitems (by omega)]
      rfl

/-- Members are read up to the brace behind them. -/
theorem scanMembers?_render {members : List (Text × Value)} (hne : members ≠ [])
    (hnames : ∀ member ∈ members, ∃ text, Literal.Spells member.1 text)
    (h : ∀ member ∈ members, member.2.IsRead) (rest : Text) {bound : Nat}
    (hbound : (renderMembers members).length + 1 ≤ bound) :
    scanMembers? bound (renderMembers members ++ '\x7d' :: rest) = some (members, rest) := by
  induction members generalizing bound with
  | nil => exact absurd rfl hne
  | cons member members ih =>
    obtain ⟨name, value⟩ := member
    obtain ⟨⟨text, hname⟩, hnames⟩ := List.forall_mem_cons.mp hnames
    obtain ⟨(hvalue : value.IsRead), hmembers⟩ := List.forall_mem_cons.mp h
    obtain ⟨bound, rfl⟩ := Nat.exists_eq_add_of_le' (Nat.le_trans (Nat.le_add_left 1 _) hbound)
    cases members with
    | nil =>
      have hrender : renderMembers [(name, value)] ++ '\x7d' :: rest
          = '"' :: (name ++ '"' :: ':' :: (value.render ++ '\x7d' :: rest)) := by
        simp [renderMembers]
      have hlength : value.render.length ≤ bound := by
        simp only [renderMembers, List.length_append, List.length_cons] at hbound
        omega
      rw [hrender]
      exact hvalue.scanMembers?_brace hlength rest hname
    | cons next members =>
      have hrender : renderMembers ((name, value) :: next :: members) ++ '\x7d' :: rest
          = '"' :: (name ++ '"' :: ':' :: (value.render
            ++ ',' :: (renderMembers (next :: members) ++ '\x7d' :: rest))) := by
        simp [renderMembers]
      have hlength :
          value.render.length + (renderMembers (next :: members)).length + 1 ≤ bound := by
        simp only [renderMembers, List.length_append, List.length_cons] at hbound ⊢
        omega
      rw [hrender, hvalue.scanMembers?_comma (by omega) _ hname,
        ih (List.cons_ne_nil _ _) hnames hmembers (by omega)]
      rfl

/-- An array that begins with an item. -/
theorem scan?_array (bound : Nat) {c : Char} {inner : Text} (hspace : isSpace c = false)
    (hc : c ≠ ']') :
    scan? (bound + 1) ('[' :: c :: inner)
      = (scanItems? bound (c :: inner)).map fun found => (.array found.1, found.2) := by
  rw [scan?, skip_of_not_isSpace rfl]
  simp only [skip_of_not_isSpace hspace]
  split
  next heq => exact absurd (List.cons.inj heq).1 hc
  next => rfl

/-- A document is read if it is, wherever there is something to count with. -/
theorem isRead_of_succ {value : Value} (hne : value.render ≠ [])
    (h : ∀ rest bound, Number.Stops rest → value.render.length ≤ bound + 1 →
      scan? (bound + 1) (value.render ++ rest) = some (value, rest)) : value.IsRead := by
  intro rest bound hrest hbound
  have hpos : 0 < value.render.length := List.length_pos_iff.mpr hne
  obtain ⟨bound, rfl⟩ := Nat.exists_eq_add_of_le' (Nat.lt_of_lt_of_le hpos hbound)
  exact h rest bound hrest hbound

/-- What is written for a document is read, however deep it nests. -/
theorem IsSpelled.isRead {value : Value} (h : IsSpelled value) : value.IsRead := by
  induction h with
  | null => exact isRead_of_succ (by decide) fun rest bound _ _ => rfl
  | bool value =>
    cases value with
    | false => exact isRead_of_succ (by decide) fun rest bound _ _ => rfl
    | true => exact isRead_of_succ (by decide) fun rest bound _ _ => rfl
  | @number written h =>
    refine isRead_of_succ ?_ fun rest bound hrest _ => ?_
    · rw [render]
      exact h.ne_nil
    · exact (WritesScalar.number h).scan? isGap_nil hrest bound
  | string h =>
    refine isRead_of_succ (by simp [render]) fun rest bound hrest _ => ?_
    exact (WritesScalar.string h).scan? isGap_nil hrest bound
  | @array items h ih =>
    refine isRead_of_succ (by simp [render]) fun rest bound hrest hbound => ?_
    have hrender : render (.array items) ++ rest = '[' :: (renderItems items ++ ']' :: rest) := by
      simp [render]
    rw [hrender]
    cases items with
    | nil => rfl
    | cons item items =>
      obtain ⟨c, inner, hinner, hspace, hc⟩ :=
        exists_renderItems_eq (h item List.mem_cons_self) items
      have hlength : (renderItems (item :: items)).length + 1 ≤ bound := by
        simp only [render, List.length_append, List.length_cons, List.length_nil] at hbound
        omega
      have hread := scanItems?_render (List.cons_ne_nil item items) ih rest hlength
      rw [hinner, List.cons_append] at hread ⊢
      rw [scan?_array bound hspace hc, hread]
      rfl
  | @object members hnames h ih =>
    refine isRead_of_succ (by simp [render]) fun rest bound hrest hbound => ?_
    have hrender : render (.object members) ++ rest
        = '\x7b' :: (renderMembers members ++ '\x7d' :: rest) := by
      simp [render]
    rw [hrender]
    cases members with
    | nil => rfl
    | cons member members =>
      obtain ⟨inner, hinner⟩ := exists_renderMembers_eq member members
      have hlength : (renderMembers (member :: members)).length + 1 ≤ bound := by
        simp only [render, List.length_append, List.length_cons, List.length_nil] at hbound
        omega
      have hread := scanMembers?_render (List.cons_ne_nil member members) hnames ih rest hlength
      have hskip : skip (renderMembers (member :: members) ++ '\x7d' :: rest)
          = '"' :: (inner ++ '\x7d' :: rest) := by
        rw [hinner, List.cons_append, skip_of_not_isSpace rfl]
      rw [scan?_object bound (skip_of_not_isSpace rfl _) hskip, hread]
      rfl

/-- A document that is written without blanks is read back. -/
theorem ofText?_render {value : Value} (h : IsSpelled value) :
    ofText? value.render = some value := by
  have hscan := h.isRead [] (2 * value.render.length + 2) Number.stops_nil (by omega)
  rw [List.append_nil] at hscan
  rw [ofText?, hscan]
  rfl

end StepRecorder.Json.Value
