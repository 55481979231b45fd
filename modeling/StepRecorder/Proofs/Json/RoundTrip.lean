import StepRecorder.Action.Json
import StepRecorder.Event.Json
import StepRecorder.Proofs.Json.Edit
import StepRecorder.Script.Json

/-!
Events, actions and steps are read back from their JSON texts, and from whatever these texts become
by editing that leaves the members of the record alone: reordering, and adding texts under other
names.

    event     {"kind": ..., "payload": ...}     label and text beside each other
    action    {"action": ..., fields}           the kind among the fields
    step      {"step": ..., fields}

Main statement: `serialised_forms_read_back`.
-/

namespace StepRecorder

open Json

/-- A value is read back from a document's text, and from the edits of that text. -/
def ReadsBack {α : Type} (read : Value → Option α) (document : Value) (a : α) : Prop :=
  ∀ text, text = document.render ∨ document.Edits text → (Value.ofText? text).bind read = some a

/-- It suffices to read the objects in which the fields are found. -/
theorem readsBack_ofMembers {α : Type} {read : Value → Option α} {fields : List (Text × Value)}
    {a : α} (hne : fields ≠ []) (hnodup : (fields.map (·.1)).Nodup)
    (hfields : ∀ field ∈ fields, IsField field.2)
    (hread : ∀ members, Holds fields members → read (.object members) = some a) :
    ReadsBack read (.ofMembers fields) a := by
  intro text htext
  have hedits : (Value.ofMembers fields).Edits text := by
    rcases htext with rfl | hedits
    · exact edits_render hne hfields
    · exact hedits
  obtain ⟨members, hmembers, hholds⟩ := holds_of_edits hnodup hfields hedits
  rw [hmembers, Option.bind_some]
  exact hread members hholds

/-- The values of all fields beside the kind of a record. -/
theorem values?_eq_some {fields members : List (Text × Value)}
    (h : ∀ field ∈ fields, required? field.1 members = some field.2) :
    (Fields.byName members).values? (fields.map (·.1)) = some (fields.map (·.2)) := by
  rw [Fields.values?]
  induction fields with
  | nil => rfl
  | cons field fields ih =>
    have hrest := ih fun other hother => h other (List.mem_cons_of_mem _ hother)
    rw [List.map_cons, List.mapM_cons, h field List.mem_cons_self, hrest]
    rfl

/-- For a record that names its own kind, it suffices to read that kind with the values of its
other fields. -/
theorem readsBack_record {α : Type} {read : Value → Option α} {label kind : Text} {a : α}
    (fields : List (Text × Value)) (hnodup : (label :: fields.map (·.1)).Nodup)
    (hfields : ∀ field ∈ fields, IsField field.2)
    (hread : ∀ value found, tagged? label value = some (kind, found) →
      found.values? (fields.map (·.1)) = some (fields.map (·.2)) → read value = some a) :
    ReadsBack read (.ofMembers ((label, .ofText kind) :: fields)) a := by
  have hall : ∀ field ∈ (label, .ofText kind) :: fields, IsField field.2 := by
    intro field hfield
    rcases List.mem_cons.mp hfield with rfl | hfield
    · exact .text kind
    · exact hfields field hfield
  refine readsBack_ofMembers (List.cons_ne_nil _ _) hnodup hall ?_
  intro members h
  obtain ⟨rest, htagged, hfound⟩ := h.tagged? List.mem_cons_self
  refine hread _ _ htagged (values?_eq_some fun field hfield => ?_)
  refine hfound field (List.mem_cons_of_mem _ hfield) ?_
  intro hlabel
  exact (List.nodup_cons.mp hnodup).1 (List.mem_map.mpr ⟨field, hfield, hlabel⟩)

theorem text?_ofText (text : Text) : (Value.ofText text).text? = some text :=
  Literal.decode?_encode text

theorem EventKind.ofLabel?_label (kind : EventKind) : ofLabel? kind.label = some kind := by
  cases kind <;> decide

/-- An event, with its kind beside its text. -/
theorem Event.readsBack (event : Event) : ReadsBack ofJson? event.toJson event := by
  have hnames : ["kind".toList, "payload".toList].Nodup := by decide
  refine readsBack_ofMembers (List.cons_ne_nil _ _) hnames (by simp [IsField.text]) ?_
  intro members h
  obtain ⟨decoded, hnamed, hfound⟩ := h.found
  have hkind : required? "kind".toList decoded = some (.ofText event.kind.label) :=
    hfound ("kind".toList, _) List.mem_cons_self
  have hpayload : required? "payload".toList decoded = some (.ofText event.payload) :=
    hfound ("payload".toList, _) (List.mem_cons_of_mem _ List.mem_cons_self)
  have hlabelled : kindOf? (.ofText event.kind.label) = some event.kind := by
    have hstring : kindOf? (.ofText event.kind.label) = labelled? (.ofText event.kind.label) := rfl
    rw [hstring, labelled?, text?_ofText, Option.bind_some, EventKind.ofLabel?_label]
  simp only [ofJson?, hnamed, hkind, hpayload, hlabelled, text?_ofText, Option.bind_eq_bind,
    Option.bind_some]

/-- An action, with its kind among its fields. -/
theorem Action.readsBack (action : Action) : ReadsBack ofJson? action.toJson action := by
  cases action with
  | tap name =>
    have hnames : ["action".toList, "name".toList].Nodup := by decide
    refine readsBack_record [("name".toList, .ofText name)] hnames
      (by simp [IsField.text]) ?_
    intro value found hkind hvalues
    simp only [List.map_cons, List.map_nil] at hvalues
    simp only [ofJson?, hkind, Option.bind_eq_bind, Option.bind_some, if_true, hvalues,
      text?_ofText, Option.map_some]
  | enter text name =>
    have hnames : ["action".toList, "text".toList, "name".toList].Nodup := by decide
    have hother : "type".toList ≠ "tap".toList := by decide
    refine readsBack_record [("text".toList, .ofText text), ("name".toList, .ofText name)] hnames
      (by simp [IsField.text]) ?_
    intro value found hkind hvalues
    simp only [List.map_cons, List.map_nil] at hvalues
    simp only [ofJson?, hkind, Option.bind_eq_bind, Option.bind_some, if_neg hother, if_true,
      hvalues, text?_ofText]

namespace Step

/-- A step with one text beside its kind. -/
theorem readsBack_withText {name kind text : Text} (make : Text → Step)
    (hnames : ["step".toList, name].Nodup)
    (hread : ∀ value found, tagged? "step".toList value = some (kind, found) →
      ofJson? value = withText? name make found) :
    ReadsBack ofJson? (record kind [(name, .ofText text)]) (make text) := by
  refine readsBack_record [(name, .ofText text)] hnames (by simp [IsField.text]) ?_
  intro value found hkind hvalues
  simp only [List.map_cons, List.map_nil] at hvalues
  simp only [hread value found hkind, withText?, hvalues, text?_ofText, Option.bind_eq_bind,
    Option.bind_some, Option.map_some]

/-- A step, with its kind among its fields. -/
theorem readsBack (step : Step) (h : ∀ seconds, step = .wait seconds → seconds < 2 ^ 64) :
    ReadsBack ofJson? step.toJson step := by
  cases step with
  | openBrowser =>
    have hnames : ["step".toList].Nodup := by decide
    refine readsBack_record [] hnames nofun ?_
    intro value found hkind hvalues
    simp only [List.map_nil] at hvalues
    rw [ofJson?, hkind, Option.bind_eq_bind, Option.bind_some]
    dsimp only
    rw [if_pos rfl, hvalues]
    rfl
  | navigate url =>
    refine readsBack_withText .navigate (by decide) ?_
    intro value found hkind
    rw [ofJson?, hkind, Option.bind_eq_bind, Option.bind_some]
    dsimp only
    rw [if_neg (by decide), if_pos rfl]
  | verify name =>
    refine readsBack_withText .verify (by decide) ?_
    intro value found hkind
    rw [ofJson?, hkind, Option.bind_eq_bind, Option.bind_some]
    dsimp only
    rw [if_neg (by decide), if_neg (by decide), if_pos rfl]
  | tap name =>
    refine readsBack_withText .tap (by decide) ?_
    intro value found hkind
    rw [ofJson?, hkind, Option.bind_eq_bind, Option.bind_some]
    dsimp only
    rw [if_neg (by decide), if_neg (by decide), if_neg (by decide), if_pos rfl]
  | enter text name =>
    have hnames : ["step".toList, "text".toList, "name".toList].Nodup := by decide
    refine readsBack_record [("text".toList, .ofText text), ("name".toList, .ofText name)] hnames
      (by simp [IsField.text]) ?_
    intro value found hkind hvalues
    simp only [List.map_cons, List.map_nil] at hvalues
    rw [ofJson?, hkind, Option.bind_eq_bind, Option.bind_some]
    dsimp only
    rw [if_neg (by decide), if_neg (by decide), if_neg (by decide), if_neg (by decide), if_pos rfl,
      hvalues]
    simp only [text?_ofText, Option.bind_eq_bind, Option.bind_some]
  | wait seconds =>
    have hnames : ["step".toList, "secs".toList].Nodup := by decide
    have hword := h seconds rfl
    refine readsBack_record [("secs".toList, .ofNat seconds)] hnames
      (by simpa using IsField.word hword) ?_
    intro value found hkind hvalues
    simp only [List.map_cons, List.map_nil] at hvalues
    rw [ofJson?, hkind, Option.bind_eq_bind, Option.bind_some]
    dsimp only
    rw [if_neg (by decide), if_neg (by decide), if_neg (by decide), if_neg (by decide),
      if_neg (by decide), if_pos rfl, hvalues]
    simp only [Value.ofNat, seconds?, Number.word?_decimal hword, Option.bind_eq_bind,
      Option.bind_some, Option.map_some]

end Step

/-- The serialised forms of events, actions and steps are read back as what they were written for,
and so are their edits. -/
theorem serialised_forms_read_back :
    (∀ event : Event, ReadsBack Event.ofJson? event.toJson event)
    ∧ (∀ action : Action, ReadsBack Action.ofJson? action.toJson action)
    ∧ ∀ step : Step, (∀ seconds, step = .wait seconds → seconds < 2 ^ 64) →
      ReadsBack Step.ofJson? step.toJson step :=
  ⟨Event.readsBack, Action.readsBack, Step.readsBack⟩

/-- The longest wait, behind a text that was added under a name with an escape. -/
theorem longest_wait_reads_back_edited :
    let text := "\x7b \"n\\u006fte\" : \"?\" , \"secs\":18446744073709551615,".toList
      ++ "\"step\":\"wait\"\x7d".toList
    let step := Step.wait 18446744073709551615
    step.toJson.Edits text ∧ (Value.ofText? text).bind Step.ofJson? = some step := by
  intro text step
  have hdecimal : Text.decimal 18446744073709551615 = "18446744073709551615".toList := by
    decide +kernel
  have hjson : step.toJson = .object [("step".toList, .string "wait".toList),
      ("secs".toList, .number "18446744073709551615".toList)] := by
    rw [← hdecimal, Step.toJson, Step.record, Value.ofMembers, Value.ofNat]
    rfl
  have hwhole : Number.IsWhole "18446744073709551615".toList := by
    rw [← hdecimal]
    exact Number.isWhole_decimal _
  have hspells : ∀ word ∈ ["step".toList, "wait".toList, "secs".toList, "?".toList],
      Literal.Spells word word := by
    intro word hword
    exact Literal.spells_of_decode? (by revert word; decide)
  have hname : Literal.Spells "n\\u006fte".toList "note".toList :=
    Literal.spells_of_decode? (by decide +kernel)
  have hspace : IsGap [' '] := by
    intro c hc
    rw [List.mem_singleton.mp hc]
    rfl
  have hnote := WritesMember.mk hname (.string (hspells "?".toList (by decide))) hspace hspace
    hspace hspace
  have hsecs := WritesMember.mk (hspells "secs".toList (by decide)) (.number hwhole) hspace
    isGap_nil isGap_nil isGap_nil
  have hstep := WritesMember.mk (hspells "step".toList (by decide))
    (.string (hspells "wait".toList (by decide))) isGap_nil isGap_nil isGap_nil isGap_nil
  have hwrites := WritesObject.members isGap_nil (.cons hnote (.cons hsecs (.last hstep))) isGap_nil
  have hedits : step.toJson.Edits text := by
    rw [hjson]
    refine ⟨[("n\\u006fte".toList, .string "?".toList)], _, List.reverse_perm _, ?_, hwrites⟩
    intro member hmember
    rw [List.mem_singleton.mp hmember]
    refine ⟨⟨_, hname, fun other hother hnote => ?_⟩, _, _, rfl, hspells "?".toList (by decide)⟩
    rcases List.mem_cons.mp hother with rfl | hother
    · exact absurd (Literal.decode?_of_spells hnote) (by decide)
    · rw [List.mem_singleton.mp hother] at hnote
      exact absurd (Literal.decode?_of_spells hnote) (by decide)
  refine ⟨hedits, serialised_forms_read_back.2.2 step ?_ text (.inr hedits)⟩
  intro seconds hseconds
  rw [← Step.wait.inj hseconds]
  decide

end StepRecorder
