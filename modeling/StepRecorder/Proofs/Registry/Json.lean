import StepRecorder.Proofs.Json.Object
import StepRecorder.Proofs.Ordered
import StepRecorder.Registry.Json

/-!
The document of a registry is read back as the entries it was written for.

    entries ─▶ document ─▶ members ─▶ entries
            render      scan?      decode?

Main statement: `ofText?_render`.
-/

namespace StepRecorder.Registry

open Json

/-- The members of the document of some entries. -/
def members (entries : List (Text × Text)) : List (Text × Value) :=
  entries.map fun entry => (Literal.encode entry.1, .string (Literal.encode entry.2))

theorem render_eq (entries : List (Text × Text)) :
    render entries = Value.renderPretty 0 (.object (members entries)) := by
  simp [render, Value.ofMembers, Value.ofText, members, Function.comp_def]

/-- A line starts with spaces alone. -/
theorem isGap_newline (level : Nat) : IsGap (Value.newline level) := by
  intro c hc
  rcases List.mem_cons.mp hc with rfl | hc
  · rfl
  · rw [List.eq_of_mem_replicate hc]
    rfl

/-- An entry on a line of its own. -/
theorem writesMember_line (entry : Text × Text) {gap : Text} (hgap : IsGap gap) :
    WritesMember (Literal.encode entry.1, .string (Literal.encode entry.2))
      (Value.newline 1 ++ '"' :: (Literal.encode entry.1
        ++ '"' :: ':' :: ' ' :: '"' :: (Literal.encode entry.2 ++ '"' :: gap))) := by
  have hspace : IsGap [' '] := by
    intro c hc
    rw [List.mem_singleton.mp hc]
    rfl
  have hmember := WritesMember.mk (Literal.spells_encode entry.1)
    (.string (Literal.spells_encode entry.2)) (isGap_newline 1) isGap_nil hspace hgap
  simpa using hmember

/-- The lines of some entries, up to the brace behind them. -/
theorem writesMembers_prettyMembers (entry : Text × Text) (entries : List (Text × Text)) :
    WritesMembers (members (entry :: entries))
      (Value.prettyMembers 1 (members (entry :: entries)) ++ Value.newline 0) := by
  induction entries generalizing entry with
  | nil =>
    have hlast := WritesMembers.last (writesMember_line entry (isGap_newline 0))
    simpa [members, Value.prettyMembers, Value.renderPretty, Value.render] using hlast
  | cons next entries ih =>
    have hcons := WritesMembers.cons (writesMember_line entry isGap_nil) (ih next)
    simpa [members, Value.prettyMembers, Value.renderPretty, Value.render] using hcons

/-- A document is read as the object that was written. -/
theorem ofText?_object (entries : List (Text × Text)) :
    Value.ofText? (render entries) = some (.object (members entries)) := by
  rw [render_eq]
  cases entries with
  | nil => rfl
  | cons entry entries =>
    have htext : Value.renderPretty 0 (.object (members (entry :: entries)))
        = [] ++ '\x7b' :: (Value.prettyMembers 1 (members (entry :: entries)) ++ Value.newline 0
          ++ '\x7d' :: []) := by
      simp [members, Value.renderPretty]
    rw [htext]
    exact ofText?_of_writes
      (.members isGap_nil (writesMembers_prettyMembers entry entries) isGap_nil)

/-- The members of a document stand for the entries it was written for. -/
theorem entriesOf?_members {entries : List (Text × Text)}
    (h : (Ordered.keys entries).Nodup) : entriesOf? (.object (members entries)) = some entries := by
  have hmembers : (members entries).mapM (fun member => do
      some (← Literal.decode? member.1, ← member.2.text?)) = some entries := by
    clear h
    induction entries with
    | nil => rfl
    | cons entry entries ih =>
      have hcons : members (entry :: entries)
          = (Literal.encode entry.1, .string (Literal.encode entry.2)) :: members entries := rfl
      rw [hcons, List.mapM_cons, ih]
      simp [Literal.decode?_encode, Value.text?]
  rw [entriesOf?, hmembers]
  exact congrArg some (Ordered.ofPairs_of_nodup h)

/-- The document of some entries is read back as these entries. -/
theorem ofText?_render {entries : List (Text × Text)} (h : (Ordered.keys entries).Nodup) :
    ofText? (render entries) = some entries := by
  rw [ofText?, ofText?_object]
  exact entriesOf?_members h

end StepRecorder.Registry
