import StepRecorder.Oracle.Response
import StepRecorder.Proofs.Json.Field

/-!
The records that a reply is made of, and the documents that stand for them:

    reply        candidates    may lack     list
    candidate    content       may lack     may be null
    content      parts         may lack     list
    part         text          may lack     may be null

A record is an object in which the field stands at most once, among members with other names, or an
array of the field alone.

Main statement: `text?_eq_some_iff`, the text of a reply is that of the record it stands for.
-/

namespace StepRecorder.Response

open Json

/-- The documents of a record with one field, and what they have under its name. With `mayLack`, an
array can do without the field. -/
inductive IsRecord (mayLack : Bool) (name : Text) : Value → Option Value → Prop where
  | absent {members fields : List (Text × Value)} (hnames : Named members fields)
      (h : ∀ field ∈ fields, field.1 ≠ name) : IsRecord mayLack name (.object members) none
  | present {members before after : List (Text × Value)} {value : Value}
      (hnames : Named members (before ++ (name, value) :: after))
      (h : ∀ other ∈ before ++ after, other.1 ≠ name) :
    IsRecord mayLack name (.object members) (some value)
  | lacking (h : mayLack = true) : IsRecord mayLack name (.array []) none
  | alone (value : Value) : IsRecord mayLack name (.array [value]) (some value)

theorem field?_eq_some_iff {mayLack : Bool} {name : String} {record : Value}
    {found : Option Value} :
    field? mayLack name record = some found ↔ IsRecord mayLack name.toList record found := by
  constructor
  · intro h
    unfold field? at h
    split at h
    · obtain ⟨fields, hfields, h⟩ := Option.bind_eq_some_iff.mp h
      have hnames := named?_eq_some_iff.mp hfields
      cases found with
      | none => exact .absent hnames (optional?_eq_none_iff.mp h)
      | some value =>
        obtain ⟨before, after, rfl, hother⟩ := optional?_eq_some_iff.mp h
        exact .present hnames hother
    · obtain ⟨hlack, h⟩ := Option.ite_none_right_eq_some.mp h
      obtain rfl := Option.some.inj h
      exact .lacking hlack
    · obtain rfl := Option.some.inj h
      exact .alone _
    · cases h
  · intro h
    cases h with
    | absent hnames h =>
      rw [field?, named?_eq_some_iff.mpr hnames]
      exact optional?_eq_none_iff.mpr h
    | present hnames h =>
      rw [field?, named?_eq_some_iff.mpr hnames]
      exact optional?_eq_some_iff.mpr ⟨_, _, rfl, h⟩
    | lacking hlack => rw [field?, if_pos hlack]
    | alone value => rfl

/-- A part of a content. -/
structure Part where
  text : Option Text

/-- What a candidate says. -/
structure Content where
  parts : List Part

/-- One of the answers to a question. -/
structure Candidate where
  content : Option Content

/-- What a model replies. -/
structure Reply where
  candidates : List Candidate

/-- The texts of a content, one for each part that has one. -/
def Content.texts (content : Content) : List Text := content.parts.filterMap (·.text)

/-- The texts of a candidate. -/
def Candidate.texts (candidate : Candidate) : List Text := candidate.content.elim [] Content.texts

/-- The texts of the first candidate, joined. -/
def Reply.text (reply : Reply) : Text := (reply.candidates.head?.elim [] Candidate.texts).flatten

/-- The documents of a part. -/
inductive IsPart : Value → Part → Prop where
  | absent {document : Value} (h : IsRecord false "text".toList document none) :
    IsPart document ⟨none⟩
  | null {document : Value} (h : IsRecord false "text".toList document (some .null)) :
    IsPart document ⟨none⟩
  | text {document : Value} {body text : Text}
      (h : IsRecord false "text".toList document (some (.string body)))
      (hspells : Literal.Spells body text) : IsPart document ⟨some text⟩

/-- The documents of a content. -/
inductive IsContent : Value → Content → Prop where
  | absent {document : Value} (h : IsRecord true "parts".toList document none) :
    IsContent document ⟨[]⟩
  | list {document : Value} {items : List Value} {parts : List Part}
      (h : IsRecord true "parts".toList document (some (.array items)))
      (hparts : List.Forall₂ IsPart items parts) : IsContent document ⟨parts⟩

/-- The documents of a candidate. -/
inductive IsCandidate : Value → Candidate → Prop where
  | absent {document : Value} (h : IsRecord false "content".toList document none) :
    IsCandidate document ⟨none⟩
  | null {document : Value} (h : IsRecord false "content".toList document (some .null)) :
    IsCandidate document ⟨none⟩
  | content {document value : Value} {content : Content}
      (h : IsRecord false "content".toList document (some value))
      (hcontent : IsContent value content) : IsCandidate document ⟨some content⟩

/-- The documents of a reply. -/
inductive IsReply : Value → Reply → Prop where
  | absent {document : Value} (h : IsRecord true "candidates".toList document none) :
    IsReply document ⟨[]⟩
  | list {document : Value} {items : List Value} {candidates : List Candidate}
      (h : IsRecord true "candidates".toList document (some (.array items)))
      (hcandidates : List.Forall₂ IsCandidate items candidates) : IsReply document ⟨candidates⟩

theorem partText?_eq_some_iff (document : Value) (text : Option Text) :
    partText? document = some text ↔ ∃ part, IsPart document part ∧ text = part.text := by
  constructor
  · intro h
    obtain ⟨found, hfound, h⟩ := Option.bind_eq_some_iff.mp h
    have hrecord := field?_eq_some_iff.mp hfound
    cases found with
    | none => exact ⟨_, .absent hrecord, (Option.some.inj h).symm⟩
    | some value =>
      cases value with
      | null => exact ⟨_, .null hrecord, (Option.some.inj h).symm⟩
      | string body =>
        obtain ⟨written, hwritten, rfl⟩ := Option.map_eq_some_iff.mp h
        exact ⟨_, .text hrecord (Literal.spells_of_decode? hwritten), rfl⟩
      | bool _ | number _ | array _ | object _ => cases h
  · rintro ⟨part, hpart, rfl⟩
    cases hpart with
    | absent h | null h =>
      rw [partText?, field?_eq_some_iff.mpr h]
      rfl
    | text h hspells =>
      rw [partText?, field?_eq_some_iff.mpr h]
      exact Option.map_eq_some_iff.mpr ⟨_, Literal.decode?_of_spells hspells, rfl⟩

/-- A list under the name of a record's field, which is empty where the field is lacking. -/
theorem listField_eq_some_iff {name : String} {record : Value} {items : List Value} :
    (field? true name record).bind items? = some items
      ↔ IsRecord true name.toList record none ∧ items = []
        ∨ IsRecord true name.toList record (some (.array items)) := by
  rw [Option.bind_eq_some_iff]
  constructor
  · rintro ⟨found, hfound, h⟩
    have hrecord := field?_eq_some_iff.mp hfound
    cases found with
    | none => exact .inl ⟨hrecord, (Option.some.inj h).symm⟩
    | some value =>
      cases value with
      | array found => exact .inr (Option.some.inj h ▸ hrecord)
      | null | bool _ | number _ | string _ | object _ => cases h
  · rintro (⟨hrecord, rfl⟩ | hrecord)
    · exact ⟨none, field?_eq_some_iff.mpr hrecord, rfl⟩
    · exact ⟨_, field?_eq_some_iff.mpr hrecord, rfl⟩

theorem contentTexts?_eq_some_iff (document : Value) (texts : List Text) :
    contentTexts? document = some texts
      ↔ ∃ content, IsContent document content ∧ texts = content.texts := by
  have hunfold : contentTexts? document = ((field? true "parts" document).bind items?).bind
      fun items => (items.mapM partText?).map (·.filterMap id) := by
    simp only [contentTexts?, Option.bind_eq_bind, Option.bind_assoc, Option.map_eq_bind]
    rfl
  have hparts := @mapM_eq_some_iff_exists _ _ _ _ _ _ partText?_eq_some_iff
  rw [hunfold, Option.bind_eq_some_iff]
  constructor
  · rintro ⟨items, hitems, h⟩
    obtain ⟨found, hfound, rfl⟩ := Option.map_eq_some_iff.mp h
    obtain ⟨parts, hparts, rfl⟩ := hparts.mp hfound
    rcases listField_eq_some_iff.mp hitems with ⟨hrecord, rfl⟩ | hrecord
    · cases hparts
      exact ⟨_, .absent hrecord, rfl⟩
    · exact ⟨_, .list hrecord hparts, by simp [Content.texts, List.filterMap_map]⟩
  · rintro ⟨content, hcontent, rfl⟩
    cases hcontent with
    | absent h => exact ⟨[], listField_eq_some_iff.mpr (.inl ⟨h, rfl⟩), rfl⟩
    | @list items parts h hlist =>
      refine ⟨items, listField_eq_some_iff.mpr (.inr h), ?_⟩
      rw [hparts.mpr ⟨parts, hlist, rfl⟩]
      simp [Content.texts, List.filterMap_map]

theorem candidateTexts?_eq_some_iff (document : Value) (texts : List Text) :
    candidateTexts? document = some texts
      ↔ ∃ candidate, IsCandidate document candidate ∧ texts = candidate.texts := by
  constructor
  · intro h
    obtain ⟨found, hfound, h⟩ := Option.bind_eq_some_iff.mp h
    have hrecord := field?_eq_some_iff.mp hfound
    cases found with
    | none => exact ⟨_, .absent hrecord, (Option.some.inj h).symm⟩
    | some value =>
      by_cases hnull : value = .null
      · subst hnull
        exact ⟨_, .null hrecord, (Option.some.inj h).symm⟩
      · have hpresent : present? (some value) = some value := by
          cases value <;> first | rfl | exact absurd rfl hnull
        rw [hpresent] at h
        obtain ⟨content, hcontent, rfl⟩ := (contentTexts?_eq_some_iff value texts).mp h
        exact ⟨_, .content hrecord hcontent, rfl⟩
  · rintro ⟨candidate, hcandidate, rfl⟩
    cases hcandidate with
    | absent h | null h =>
      rw [candidateTexts?, field?_eq_some_iff.mpr h]
      rfl
    | @content value content h hcontent =>
      have hpresent : present? (some value) = some value := by
        cases value <;> first | rfl | (rcases hcontent with ⟨⟨⟩⟩ | ⟨⟨⟩⟩)
      rw [candidateTexts?, field?_eq_some_iff.mpr h]
      simp only [Option.bind_eq_bind, Option.bind_some, hpresent]
      exact (contentTexts?_eq_some_iff value _).mpr ⟨content, hcontent, rfl⟩

theorem candidates?_eq_some_iff (document : Value) (texts : List (List Text)) :
    candidates? document = some texts
      ↔ ∃ reply, IsReply document reply ∧ texts = reply.candidates.map Candidate.texts := by
  have hunfold : candidates? document
      = ((field? true "candidates" document).bind items?).bind fun items =>
        items.mapM candidateTexts? := by
    rw [candidates?]
    cases field? true "candidates" document <;> rfl
  have hcandidates := @mapM_eq_some_iff_exists _ _ _ _ _ _ candidateTexts?_eq_some_iff
  rw [hunfold, Option.bind_eq_some_iff]
  constructor
  · rintro ⟨items, hitems, h⟩
    obtain ⟨candidates, hlist, rfl⟩ := hcandidates.mp h
    rcases listField_eq_some_iff.mp hitems with ⟨hrecord, rfl⟩ | hrecord
    · cases hlist
      exact ⟨_, .absent hrecord, rfl⟩
    · exact ⟨_, .list hrecord hlist, rfl⟩
  · rintro ⟨reply, hreply, rfl⟩
    cases hreply with
    | absent h => exact ⟨[], listField_eq_some_iff.mpr (.inl ⟨h, rfl⟩), rfl⟩
    | @list items candidates h hlist =>
      exact ⟨items, listField_eq_some_iff.mpr (.inr h), hcandidates.mpr ⟨candidates, hlist, rfl⟩⟩

/-- The text in the bytes of a reply is that of the record that the bytes stand for. -/
theorem text?_eq_some_iff {bytes : Bytes} {text : Text} :
    text? bytes = some text
      ↔ ∃ document reply, Value.ofBytes? bytes = some document ∧ IsReply document reply
        ∧ text = reply.text := by
  have hfirst : ∀ reply : Reply,
      firstText (reply.candidates.map Candidate.texts) = reply.text := by
    intro reply
    rw [firstText, Reply.text, List.head?_map]
    cases reply.candidates.head? <;> rfl
  rw [text?, Option.map_eq_some_iff]
  constructor
  · rintro ⟨texts, htexts, rfl⟩
    obtain ⟨document, hdocument, htexts⟩ := Option.bind_eq_some_iff.mp htexts
    obtain ⟨reply, hreply, rfl⟩ := (candidates?_eq_some_iff document texts).mp htexts
    exact ⟨document, reply, hdocument, hreply, hfirst reply⟩
  · rintro ⟨document, reply, hdocument, hreply, rfl⟩
    refine ⟨_, Option.bind_eq_some_iff.mpr ⟨document, hdocument, ?_⟩, hfirst reply⟩
    exact (candidates?_eq_some_iff document _).mpr ⟨reply, hreply, rfl⟩

end StepRecorder.Response
