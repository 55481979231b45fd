import StepRecorder.Json.Tagged
import StepRecorder.Proofs.Json.Field
import StepRecorder.Proofs.Json.Object

/-!
Records in edited objects. Whoever edits the text of a record may move its members, set spaces
between their parts, and add texts under names that the record does not use:

    {"action":"tap","name":"Ok"}   ──▶   { "note":"?", "name":"Ok", "action":"tap" }

Every field is found again, by name, and so is the kind of a record that names its own kind.

Main statements: `holds_of_edits` and `Holds.tagged?`.
-/

namespace StepRecorder.Json

/-- The value of a field: a text, or a number of 64 bits. -/
inductive IsField : Value → Prop where
  | text (text : Text) : IsField (.ofText text)
  | word {n : Nat} (h : n < 2 ^ 64) : IsField (.ofNat n)

/-- A member that adds a text to others, under a name that none of these has. -/
def IsAddition (members : List (Text × Value)) (member : Text × Value) : Prop :=
  (∃ name, Literal.Spells member.1 name ∧ ∀ other ∈ members, ¬ Literal.Spells other.1 name)
    ∧ ∃ body text, member.2 = .string body ∧ Literal.Spells body text

/-- The texts of an object after its members are reordered and others are added. -/
def Value.Edits : Value → Text → Prop
  | .object members, text =>
    ∃ added all, all.Perm (members ++ added) ∧ (∀ member ∈ added, IsAddition members member)
      ∧ WritesObject all text
  | _, _ => False

/-- A member that a reader can keep, and that opens no array or object. -/
structure IsFlat (member : Text × Value) : Prop where
  named : ∃ name, Literal.Spells member.1 name
  isSound : member.2.isSound = true
  depth : member.2.depth = 0

/-- Members among which each of some fields is found by its name. -/
structure Holds (fields members : List (Text × Value)) : Prop where
  found : ∃ decoded, named? members = some decoded
    ∧ ∀ field ∈ fields, required? field.1 decoded = some field.2
  flat : ∀ member ∈ members, IsFlat member

theorem isSound_of_flat {members : List (Text × Value)} (h : ∀ member ∈ members, IsFlat member) :
    (Value.object members).isSound = true := by
  rw [Value.isSound]
  induction members with
  | nil => rfl
  | cons member members ih =>
    obtain ⟨⟨name, hname⟩, hsound, -⟩ := h member List.mem_cons_self
    rw [Value.isSoundMembers, Literal.decode?_of_spells hname, hsound,
      ih fun other hother => h other (List.mem_cons_of_mem _ hother)]
    rfl

theorem depth_of_flat {members : List (Text × Value)} (h : ∀ member ∈ members, IsFlat member) :
    (Value.object members).depth = 1 := by
  have hmembers : Value.depthMembers members = 0 := by
    induction members with
    | nil => rfl
    | cons member members ih =>
      rw [Value.depthMembers, (h member List.mem_cons_self).depth,
        ih fun other hother => h other (List.mem_cons_of_mem _ hother)]
      rfl
  rw [Value.depth, hmembers]

namespace IsField

variable {value : Value} (h : IsField value)
include h

theorem isFlat (name : Text) : IsFlat (Literal.encode name, value) where
  named := ⟨name, Literal.spells_encode name⟩
  isSound := by
    cases h with
    | text text =>
      rw [Value.ofText, Value.isSound, Literal.decode?_encode]
      rfl
    | word h => exact Number.inRange_decimal h
  depth := by cases h <;> rfl

theorem writes : WritesScalar value value.render := by
  cases h with
  | text text =>
    rw [Value.ofText, Value.render]
    exact .string (Literal.spells_encode text)
  | word h =>
    rw [Value.ofNat, Value.render]
    exact .number (Number.isWhole_decimal _)

end IsField

theorem IsAddition.isFlat {members : List (Text × Value)} {member : Text × Value}
    (h : IsAddition members member) : IsFlat member := by
  obtain ⟨⟨name, hname, -⟩, body, text, hbody, hspells⟩ := h
  refine ⟨⟨name, hname⟩, ?_, ?_⟩
  · rw [hbody, Value.isSound, Literal.decode?_of_spells hspells]
    rfl
  · rw [hbody]
    rfl

/-- The names of additions are decoded to names that the other members do not have. -/
theorem named_of_additions {members added : List (Text × Value)}
    (h : ∀ member ∈ added, IsAddition members member) :
    ∃ decoded, Named added decoded
      ∧ ∀ field ∈ decoded, ∀ other ∈ members, ¬ Literal.Spells other.1 field.1 := by
  induction added with
  | nil => exact ⟨[], .nil, nofun⟩
  | cons member added ih =>
    obtain ⟨decoded, hdecoded, hothers⟩ :=
      ih fun other hother => h other (List.mem_cons_of_mem _ hother)
    obtain ⟨⟨name, hname, hother⟩, -⟩ := h member List.mem_cons_self
    refine ⟨(name, member.2) :: decoded, .cons ⟨hname, rfl⟩ hdecoded, ?_⟩
    intro field hfield
    rcases List.mem_cons.mp hfield with rfl | hfield
    · exact hother
    · exact hothers field hfield

variable {fields : List (Text × Value)} {text : Text}

/-- The names of written fields are decoded again. -/
theorem named_encode (fields : List (Text × Value)) :
    Named (fields.map fun field => (Literal.encode field.1, field.2)) fields := by
  induction fields with
  | nil => exact .nil
  | cons field fields ih => exact .cons ⟨Literal.spells_encode field.1, rfl⟩ ih

/-- The fields of a record are found in every text that its object becomes by editing. -/
theorem holds_of_edits (hnodup : (fields.map (·.1)).Nodup)
    (hfields : ∀ field ∈ fields, IsField field.2) (h : (Value.ofMembers fields).Edits text) :
    ∃ members, Value.ofText? text = some (.object members) ∧ Holds fields members := by
  obtain ⟨added, all, hperm, hadded, hwrites⟩ := h
  obtain ⟨more, hmore, hothers⟩ := named_of_additions hadded
  obtain ⟨decoded, hdecoded, hdecodedPerm⟩ :=
    List.perm_comp_forall₂ hperm (List.rel_append (named_encode fields) hmore)
  refine ⟨all, ofText?_of_writes hwrites, ⟨?found, ?flat⟩⟩
  case found =>
    refine ⟨decoded, named?_eq_some_iff.mpr hdecoded, fun field hfield => ?_⟩
    refine required?_of_perm hdecodedPerm ?_
    have hnone : valuesOf field.1 more = [] := by
      rw [valuesOf, List.map_eq_nil_iff, List.filter_eq_nil_iff]
      intro other hother hname
      have heq : other.1 = field.1 := of_decide_eq_true hname
      refine hothers other hother _ (List.mem_map.mpr ⟨field, hfield, rfl⟩) ?_
      rw [heq]
      exact Literal.spells_encode field.1
    rw [valuesOf_append, valuesOf_eq_singleton hnodup hfield, hnone, List.append_nil]
  case flat =>
    intro member hmember
    rcases List.mem_append.mp (hperm.mem_iff.mp hmember) with hmember | hmember
    · obtain ⟨field, hfield, rfl⟩ := List.mem_map.mp hmember
      exact (hfields field hfield).isFlat field.1
    · exact (hadded member hmember).isFlat

/-- A record that names its own kind is kept, and its kind and its other fields are found. -/
theorem Holds.tagged? {members : List (Text × Value)} {label kind : Text}
    (h : Holds fields members) (hlabel : (label, .ofText kind) ∈ fields) :
    ∃ rest, Json.tagged? label (.object members) = some (kind, .byName rest)
      ∧ ∀ field ∈ fields, field.1 ≠ label → required? field.1 rest = some field.2 := by
  obtain ⟨⟨decoded, hnamed, hfound⟩, hflat⟩ := h
  refine ⟨decoded.filter fun member => member.1 ≠ label, ?_, ?_⟩
  · have hkind : (Value.ofText kind).text? = some kind := Literal.decode?_encode kind
    unfold Json.tagged?
    rw [isSound_of_flat hflat, depth_of_flat hflat, if_pos (by decide)]
    simp only [hnamed, hfound _ hlabel, hkind, Option.bind_eq_bind, Option.bind_some]
  · intro field hfield hne
    rw [required?_filter hne]
    exact hfound field hfield

/-- The object of some fields is one of its own edits. -/
theorem edits_render (hne : fields ≠ []) (hfields : ∀ field ∈ fields, IsField field.2) :
    (Value.ofMembers fields).Edits (Value.ofMembers fields).render := by
  have hmembers : WritesMembers (fields.map fun field => (Literal.encode field.1, field.2))
      (Value.renderMembers (fields.map fun field => (Literal.encode field.1, field.2))) := by
    induction fields with
    | nil => exact absurd rfl hne
    | cons field fields ih =>
      have hmember := WritesMember.mk (Literal.spells_encode field.1)
        (hfields field List.mem_cons_self).writes isGap_nil isGap_nil isGap_nil isGap_nil
      cases fields with
      | nil => simpa [Value.renderMembers] using WritesMembers.last hmember
      | cons next fields =>
        have hrest := ih (List.cons_ne_nil _ _) fun other hother =>
          hfields other (List.mem_cons_of_mem _ hother)
        simpa [Value.renderMembers] using WritesMembers.cons hmember hrest
  refine ⟨[], _, by rw [List.append_nil], nofun, ?_⟩
  have hobject := WritesObject.members isGap_nil hmembers isGap_nil
  simpa [Value.ofMembers, Value.render] using hobject

end StepRecorder.Json
