import Mathlib.Data.List.Perm.Basic
import StepRecorder.Json.Field
import StepRecorder.Proofs.Json.Spelling

/-!
Members by name. What the names of an object spell is told by a relation, so that nothing depends on
how they are spelled; a field is found where exactly one member has its name, wherever it stands.

Main statements: `named?_eq_some_iff`, `optional?_eq_some_iff`, `required?_of_perm`.
-/

namespace StepRecorder.Json

/-- A list is read item by item. -/
theorem mapM_eq_some_iff {α β : Type} {f : α → Option β} {items : List α} {results : List β} :
    items.mapM f = some results ↔ List.Forall₂ (fun item result => f item = some result) items
      results := by
  induction items generalizing results with
  | nil =>
    rw [List.mapM_nil, List.forall₂_nil_left_iff]
    exact ⟨fun h => (Option.some.inj h).symm, fun h => h ▸ rfl⟩
  | cons item items ih =>
    rw [List.mapM_cons, List.forall₂_cons_left_iff]
    constructor
    · intro h
      obtain ⟨result, hresult, h⟩ := Option.bind_eq_some_iff.mp h
      obtain ⟨rest, hrest, h⟩ := Option.bind_eq_some_iff.mp h
      exact ⟨result, rest, hresult, ih.mp hrest, (Option.some.inj h).symm⟩
    · rintro ⟨result, rest, hresult, hrest, rfl⟩
      rw [hresult, ih.mpr hrest]
      rfl

/-- A list is read item by item, each item as the view of something that it stands for. -/
theorem mapM_eq_some_iff_exists {α β γ : Type} {f : α → Option β} {stands : α → γ → Prop}
    {view : γ → β} (h : ∀ item result, f item = some result
      ↔ ∃ meant, stands item meant ∧ result = view meant) {items : List α} {results : List β} :
    items.mapM f = some results
      ↔ ∃ meant, List.Forall₂ stands items meant ∧ results = meant.map view := by
  rw [mapM_eq_some_iff]
  constructor
  · intro hresults
    induction hresults with
    | nil => exact ⟨[], .nil, rfl⟩
    | cons hresult _ ih =>
      obtain ⟨first, hfirst, rfl⟩ := (h _ _).mp hresult
      obtain ⟨meant, hmeant, rfl⟩ := ih
      exact ⟨first :: meant, .cons hfirst hmeant, rfl⟩
  · rintro ⟨meant, hmeant, rfl⟩
    induction hmeant with
    | nil => exact .nil
    | cons hfirst _ ih => exact .cons ((h _ _).mpr ⟨_, hfirst, rfl⟩) ih

/-- The members of an object and what their names spell. -/
def Named (members decoded : List (Text × Value)) : Prop :=
  List.Forall₂ (fun member field => Literal.Spells member.1 field.1 ∧ member.2 = field.2) members
    decoded

theorem named?_eq_some_iff {members decoded : List (Text × Value)} :
    named? members = some decoded ↔ Named members decoded := by
  have hmember : ∀ (member field : Text × Value),
      (Literal.decode? member.1).map (fun name => (name, member.2)) = some field
        ↔ Literal.Spells member.1 field.1 ∧ member.2 = field.2 := by
    intro member field
    rw [Option.map_eq_some_iff, ← Literal.decode?_eq_some_iff]
    constructor
    · rintro ⟨name, hname, rfl⟩
      exact ⟨hname, rfl⟩
    · rintro ⟨hname, hvalue⟩
      exact ⟨field.1, hname, Prod.ext rfl hvalue⟩
  rw [named?, mapM_eq_some_iff, Named]
  simp only [hmember]

theorem optional?_eq_none_iff {name : Text} {fields : List (Text × Value)} :
    optional? name fields = some none ↔ ∀ field ∈ fields, field.1 ≠ name := by
  have hvalues : valuesOf name fields = [] ↔ ∀ field ∈ fields, field.1 ≠ name := by
    simp [valuesOf, List.filter_eq_nil_iff]
  rw [← hvalues, optional?]
  split <;> simp_all

theorem optional?_eq_some_iff {name : Text} {value : Value} {fields : List (Text × Value)} :
    optional? name fields = some (some value)
      ↔ ∃ before after, fields = before ++ (name, value) :: after
        ∧ ∀ other ∈ before ++ after, other.1 ≠ name := by
  have hvalues : optional? name fields = some (some value) ↔ valuesOf name fields = [value] := by
    rw [optional?]
    split <;> simp_all
  rw [hvalues, valuesOf, List.map_eq_singleton_iff]
  constructor
  · rintro ⟨⟨found, _⟩, hfilter, rfl⟩
    obtain ⟨before, after, rfl, hbefore, hfound, hafter⟩ := List.filter_eq_cons_iff.mp hfilter
    obtain rfl := of_decide_eq_true hfound
    refine ⟨before, after, rfl, fun other hother => ?_⟩
    rcases List.mem_append.mp hother with hother | hother
    · simpa using hbefore other hother
    · simpa using List.filter_eq_nil_iff.mp hafter other hother
  · rintro ⟨before, after, rfl, hother⟩
    refine ⟨(name, value), List.filter_eq_cons_iff.mpr ⟨before, after, rfl, ?_, ?_, ?_⟩, rfl⟩
    · intro other hmem
      simpa using hother other (List.mem_append_left _ hmem)
    · simp
    · rw [List.filter_eq_nil_iff]
      intro other hmem
      simpa using hother other (List.mem_append_right _ hmem)

section Values

variable {name : Text} {fields members : List (Text × Value)}

/-- A field that stands once is found by its name. -/
theorem valuesOf_eq_singleton {value : Value} (hnodup : (fields.map (·.1)).Nodup)
    (hmem : (name, value) ∈ fields) : valuesOf name fields = [value] := by
  induction fields with
  | nil => cases hmem
  | cons field fields ih =>
    obtain ⟨hnot, hnodup⟩ := List.nodup_cons.mp hnodup
    rcases List.mem_cons.mp hmem with rfl | hmem
    · have hnone : fields.filter (fun field => field.1 = name) = [] := by
        rw [List.filter_eq_nil_iff]
        intro other hother hname
        exact hnot (List.mem_map.mpr ⟨other, hother, of_decide_eq_true hname⟩)
      rw [valuesOf, List.filter_cons_of_pos (by simp), hnone]
      rfl
    · have hne : field.1 ≠ name := by
        rintro rfl
        exact hnot (List.mem_map.mpr ⟨_, hmem, rfl⟩)
      rw [valuesOf, List.filter_cons_of_neg (by simpa using hne)]
      exact ih hnodup hmem

theorem valuesOf_append (name : Text) (fields more : List (Text × Value)) :
    valuesOf name (fields ++ more) = valuesOf name fields ++ valuesOf name more := by
  rw [valuesOf, List.filter_append, List.map_append]
  rfl

/-- A field is found in any order. -/
theorem required?_of_perm {value : Value} (hperm : members.Perm fields)
    (h : valuesOf name fields = [value]) : required? name members = some value := by
  have hvalues : (valuesOf name members).Perm [value] := by
    rw [← h]
    exact (hperm.filter _).map _
  rw [required?, List.perm_singleton.mp hvalues]

/-- Other names do not matter to a field. -/
theorem required?_filter {label : Text} (h : name ≠ label) :
    required? name (members.filter fun member => member.1 ≠ label) = required? name members := by
  have hvalues : valuesOf name (members.filter fun member => member.1 ≠ label)
      = valuesOf name members := by
    rw [valuesOf, valuesOf, List.filter_filter]
    congr 1
    refine List.filter_congr fun member _ => ?_
    by_cases hname : member.1 = name
    · simp [hname, h]
    · simp [hname]
  rw [required?, required?, hvalues]

end Values

end StepRecorder.Json
