/-
  Transcripts/Proofs/Project/Plain.lean
  =====================================
  **Projects that can be stored, and projects of plain texts.**

  What can be stored of a project does not depend on the kind of its texts.  A
  project of plain texts is also one of texts of any other kind, is written as
  the same fields there, and can be stored in the one kind if it can be in the
  other.  No project but these is written as plain values: every text of a project
  comes up in its fields.
-/
import Mathlib.Data.Set.List
import Transcripts.Project.Basic
import Transcripts.Proofs.Project.Record

namespace Transcripts

open Transcripts.Text

/-! ### Projects that can be stored -/

/-- What the stored form of a project takes for granted. -/
structure Project.Storable {τ : Type} [LT τ] [Textual τ] (p : Project τ) : Prop where
  version : p.version ≠ Textual.literal ""
  sessions : ∀ s ∈ p.sessions, s.Storable
  tags : ∀ t ∈ p.tags, t.Storable
  /-- A spelling is sent to one identity. -/
  aliases : (p.aliases.map Prod.fst).Nodup
  legalReferences : ∀ r ∈ p.legalReferences, r.Storable

instance Project.decidableStorable {τ : Type} [DecidableEq τ] [LT τ] [DecidableLT τ] [Textual τ]
    (p : Project τ) : Decidable p.Storable :=
  decidable_of_iff
    (p.version ≠ Textual.literal "" ∧ (∀ s ∈ p.sessions, s.Storable) ∧ (∀ t ∈ p.tags, t.Storable) ∧
      (p.aliases.map Prod.fst).Nodup ∧ ∀ r ∈ p.legalReferences, r.Storable)
    ⟨fun ⟨h₁, h₂, h₃, h₄, h₅⟩ => ⟨h₁, h₂, h₃, h₄, h₅⟩, fun ⟨h₁, h₂, h₃, h₄, h₅⟩ => ⟨h₁, h₂, h₃, h₄, h₅⟩⟩

/-! ### Plain texts as texts of another kind -/

section Lift

variable {τ : Type} [Textual τ]

def Session.lift (s : Session) : Session τ where
  id := Textual.literal s.id
  target := Textual.literal s.target
  date := Textual.literal s.date
  kind := s.kind
  content := Textual.literal s.content
  sourceFile := Textual.literal s.sourceFile
  targetName := s.targetName.map Textual.literal
  sourceNumber := s.sourceNumber.map Textual.literal
  sourceName := s.sourceName.map Textual.literal
  destinationNumber := s.destinationNumber.map Textual.literal
  destinationName := s.destinationName.map Textual.literal
  startTime := s.startTime.map Textual.literal
  endTime := s.endTime.map Textual.literal
  duration := s.duration.map Textual.literal
  startPage := s.startPage
  endPage := s.endPage
  summary := s.summary.map Textual.literal
  legalReferenceIds := s.legalReferenceIds.map Textual.literal

def Tag.lift (t : Tag) : Tag τ where
  id := Textual.literal t.id
  name := Textual.literal t.name
  timestamp := t.timestamp
  sessionIds := t.sessionIds.map Textual.literal
  description := Textual.literal t.description

def LegalReference.lift (r : LegalReference) : LegalReference τ where
  id := Textual.literal r.id
  category := r.category
  label := Textual.literal r.label
  description := r.description.map Textual.literal
  status := r.status

/-- A project of plain texts as one of texts of another kind. -/
def Project.lift (p : Project) : Project τ where
  version := Textual.literal p.version
  sessions := p.sessions.map Session.lift
  tags := p.tags.map Tag.lift
  aliases := p.aliases.map fun entry => (Textual.literal entry.1, Textual.literal entry.2)
  legalReferences := p.legalReferences.map LegalReference.lift

/-- A project in whose texts no surrogate stands. -/
def Project.IsPlain (p : Project RawText) : Prop := ∃ q : Project, p = q.lift

/-! ### They are written as the same fields -/

theorem optionalField_lift (name : String) (t : Option String) :
    optionalField name (t.map Textual.literal : Option τ) = Json.liftFields (optionalField name t) := by
  cases t <;> rfl

theorem textArray_lift (texts : List String) :
    (textArray (texts.map Textual.literal) : Json τ) = (textArray texts).lift := by
  simp [textArray, Json.lift, Json.liftItems_eq_map, Function.comp_def]

theorem Session.toFields_lift (s : Session) :
    (s.lift : Session τ).toFields = Json.liftFields s.toFields := by
  have hreferences : (s.lift : Session τ).referenceField = Json.liftFields s.referenceField := by
    rw [referenceField, referenceField, lift, List.isEmpty_map, textArray_lift]
    split <;> rfl
  have hoptional : (s.lift : Session τ).optionalFields.flatMap (fun e => optionalField e.1 e.2) =
      Json.liftFields (s.optionalFields.flatMap fun e => optionalField e.1 e.2) := by
    simp only [optionalFields, lift, List.flatMap_cons, List.flatMap_nil, List.append_nil,
      Json.liftFields_append, optionalField_lift]
  rw [toFields_eq, toFields_eq, Json.liftFields_append, Json.liftFields_append, hreferences,
    hoptional]
  rfl

theorem Tag.toFields_lift (t : Tag) : (t.lift : Tag τ).toFields = Json.liftFields t.toFields := by
  simp only [toFields, lift, textArray_lift]
  rfl

theorem LegalReference.toFields_lift (r : LegalReference) :
    (r.lift : LegalReference τ).toFields = Json.liftFields r.toFields := by
  rw [toFields, toFields, Json.liftFields_append, lift, optionalField_lift]
  rfl

theorem Project.toJson_lift (p : Project) : (p.lift : Project τ).toJson = p.toJson.lift := by
  simp [toJson, lift, Json.lift, Json.liftFields, Json.liftItems_eq_map, Json.liftFields_eq_map,
    Session.toFields_lift, Tag.toFields_lift, LegalReference.toFields_lift, Function.comp_def]

/-! ### No others are written as plain values -/

theorem mem_range_of_optionalField {name : String} {t : Option τ}
    (h : ∀ f ∈ optionalField name t, f.2 ∈ Set.range (Json.lift : Json → Json τ)) :
    t ∈ Set.range (Option.map (Textual.literal : String → τ)) := by
  cases t with
  | none => exact ⟨none, rfl⟩
  | some u =>
    obtain ⟨s, hs⟩ := Json.mem_range_literal_of_string (h _ (List.mem_singleton_self _))
    exact ⟨some s, congrArg some hs⟩

theorem mem_range_of_textArray {texts : List τ}
    (h : textArray texts ∈ Set.range (Json.lift : Json → Json τ)) :
    texts ∈ Set.range (List.map (Textual.literal : String → τ)) := by
  rw [Set.range_list_map]
  exact fun t ht => Json.mem_range_literal_of_string
    (Json.mem_range_lift_of_array h _ (List.mem_map_of_mem ht))

theorem Session.mem_range_of_referenceField {s : Session τ}
    (h : ∀ f ∈ s.referenceField, f.2 ∈ Set.range (Json.lift : Json → Json τ)) :
    s.legalReferenceIds ∈ Set.range (List.map (Textual.literal : String → τ)) := by
  rw [referenceField] at h
  split at h
  · next hempty => exact ⟨[], (List.isEmpty_iff.mp hempty).symm⟩
  · exact mem_range_of_textArray (h _ (List.mem_singleton_self _))

theorem Session.mem_range_lift {s : Session τ}
    (h : ∀ f ∈ s.toFields, f.2 ∈ Set.range (Json.lift : Json → Json τ)) :
    s ∈ Set.range (Session.lift : Session → Session τ) := by
  simp only [toFields_eq, requiredFields, optionalFields, List.flatMap_cons, List.flatMap_nil,
    List.append_nil, List.forall_mem_append, List.forall_mem_cons] at h
  obtain ⟨⟨hid, htarget, hdate, -, hcontent, hfile, -⟩, ⟨htargetName, hsourceNumber, hsourceName,
    hdestinationNumber, hdestinationName, hstart, hend, hduration, hsummary⟩, hreferences⟩ := h
  obtain ⟨id, hid⟩ := Json.mem_range_literal_of_string hid
  obtain ⟨target, htarget⟩ := Json.mem_range_literal_of_string htarget
  obtain ⟨date, hdate⟩ := Json.mem_range_literal_of_string hdate
  obtain ⟨content, hcontent⟩ := Json.mem_range_literal_of_string hcontent
  obtain ⟨sourceFile, hfile⟩ := Json.mem_range_literal_of_string hfile
  obtain ⟨targetName, htargetName⟩ := mem_range_of_optionalField htargetName
  obtain ⟨sourceNumber, hsourceNumber⟩ := mem_range_of_optionalField hsourceNumber
  obtain ⟨sourceName, hsourceName⟩ := mem_range_of_optionalField hsourceName
  obtain ⟨destinationNumber, hdestinationNumber⟩ := mem_range_of_optionalField hdestinationNumber
  obtain ⟨destinationName, hdestinationName⟩ := mem_range_of_optionalField hdestinationName
  obtain ⟨startTime, hstart⟩ := mem_range_of_optionalField hstart
  obtain ⟨endTime, hend⟩ := mem_range_of_optionalField hend
  obtain ⟨duration, hduration⟩ := mem_range_of_optionalField hduration
  obtain ⟨summary, hsummary⟩ := mem_range_of_optionalField hsummary
  obtain ⟨legalReferenceIds, hreferences⟩ := mem_range_of_referenceField hreferences
  exact ⟨{
    id, target, date, content, sourceFile, targetName, sourceNumber, sourceName, destinationNumber
    destinationName, startTime, endTime, duration, summary, legalReferenceIds
    kind := s.kind, startPage := s.startPage, endPage := s.endPage },
    by simp only [lift, hid, htarget, hdate, hcontent, hfile, htargetName, hsourceNumber,
      hsourceName, hdestinationNumber, hdestinationName, hstart, hend, hduration, hsummary,
      hreferences]⟩

theorem Tag.mem_range_lift {t : Tag τ}
    (h : ∀ f ∈ t.toFields, f.2 ∈ Set.range (Json.lift : Json → Json τ)) :
    t ∈ Set.range (Tag.lift : Tag → Tag τ) := by
  simp only [toFields, List.forall_mem_cons] at h
  obtain ⟨hid, hname, -, hsessions, hdescription, -⟩ := h
  obtain ⟨id, hid⟩ := Json.mem_range_literal_of_string hid
  obtain ⟨name, hname⟩ := Json.mem_range_literal_of_string hname
  obtain ⟨sessionIds, hsessions⟩ := mem_range_of_textArray hsessions
  obtain ⟨description, hdescription⟩ := Json.mem_range_literal_of_string hdescription
  exact ⟨{ id, name, sessionIds, description, timestamp := t.timestamp },
    by simp only [lift, hid, hname, hsessions, hdescription]⟩

theorem LegalReference.mem_range_lift {r : LegalReference τ}
    (h : ∀ f ∈ r.toFields, f.2 ∈ Set.range (Json.lift : Json → Json τ)) :
    r ∈ Set.range (LegalReference.lift : LegalReference → LegalReference τ) := by
  simp only [toFields, List.forall_mem_append, List.forall_mem_cons] at h
  obtain ⟨⟨hid, -, hlabel, -⟩, hdescription⟩ := h
  obtain ⟨id, hid⟩ := Json.mem_range_literal_of_string hid
  obtain ⟨label, hlabel⟩ := Json.mem_range_literal_of_string hlabel
  obtain ⟨description, hdescription⟩ := mem_range_of_optionalField hdescription
  exact ⟨{ id, label, description, category := r.category, status := r.status },
    by simp only [lift, hid, hlabel, hdescription]⟩

/-- Records that are written as plain values are plain ones. -/
theorem mem_range_map_lift {α : Type} {β : Type} {records : List α} {lift : β → α}
    {toFields : α → Fields τ}
    (hrecord : ∀ {r}, (∀ f ∈ toFields r, f.2 ∈ Set.range (Json.lift : Json → Json τ)) →
      r ∈ Set.range lift)
    (h : Json.array (records.map fun r => .object (toFields r)) ∈
      Set.range (Json.lift : Json → Json τ)) :
    records ∈ Set.range (List.map lift) := by
  rw [Set.range_list_map]
  intro r hr
  have hfields := Json.mem_range_lift_of_object
    (Json.mem_range_lift_of_array h _ (List.mem_map_of_mem hr))
  exact hrecord fun f hf => (hfields f hf).2

theorem mem_range_map_entry {entries : Keyed τ τ}
    (h : Json.object (entries.map fun (raw, shown) => (raw, .string shown)) ∈
      Set.range (Json.lift : Json → Json τ)) :
    entries ∈ Set.range
      (List.map fun e : String × String => ((Textual.literal e.1 : τ), (Textual.literal e.2 : τ))) := by
  rw [Set.range_list_map]
  intro e he
  obtain ⟨⟨raw, hraw⟩, hshown⟩ := Json.mem_range_lift_of_object h _ (List.mem_map_of_mem he)
  obtain ⟨shown, hshown⟩ := Json.mem_range_literal_of_string hshown
  exact ⟨(raw, shown), Prod.ext hraw hshown⟩

/-- A project that is written as a plain value is a project of plain texts. -/
theorem Project.mem_range_lift {p : Project τ}
    (h : p.toJson ∈ Set.range (Json.lift : Json → Json τ)) :
    p ∈ Set.range (Project.lift : Project → Project τ) := by
  have hfields := Json.mem_range_lift_of_object h
  simp only [List.forall_mem_cons] at hfields
  obtain ⟨⟨-, hversion⟩, ⟨-, hsessions⟩, ⟨-, htags⟩, ⟨-, haliases⟩, ⟨-, hreferences⟩, -⟩ := hfields
  obtain ⟨version, hversion⟩ := Json.mem_range_literal_of_string hversion
  obtain ⟨sessions, hsessions⟩ := mem_range_map_lift Session.mem_range_lift hsessions
  obtain ⟨tags, htags⟩ := mem_range_map_lift Tag.mem_range_lift htags
  obtain ⟨aliases, haliases⟩ := mem_range_map_entry haliases
  obtain ⟨legalReferences, hreferences⟩ :=
    mem_range_map_lift LegalReference.mem_range_lift hreferences
  exact ⟨{ version, sessions, tags, aliases, legalReferences },
    by simp only [lift, hversion, hsessions, htags, haliases, hreferences]⟩

/-! ### They can be stored alike -/

variable [LT τ] [LawfulTextual τ]

theorem map_literal_ne_iff {t : Option String} :
    t.map Textual.literal ≠ some (Textual.literal "" : τ) ↔ t ≠ some "" := by
  cases t <;> simp

theorem TextSet.isAscending_map_literal {texts : List String} :
    IsAscending (texts.map Textual.literal : TextSet τ) ↔ IsAscending texts := by
  simp only [IsAscending, List.pairwise_map, LawfulTextual.literal_lt_iff]

theorem Session.storable_lift_iff {s : Session} : (s.lift : Session τ).Storable ↔ s.Storable := by
  have htexts : (s.lift : Session τ).optionalFields =
      s.optionalFields.map fun e => (e.1, e.2.map Textual.literal) := rfl
  constructor
  · intro h
    exact {
      texts := fun e he => map_literal_ne_iff.mp (h.texts _ (htexts ▸ List.mem_map_of_mem he))
      startPage := h.startPage
      endPage := h.endPage
      references := TextSet.isAscending_map_literal.mp h.references }
  · intro h
    refine {
      texts := ?_
      startPage := h.startPage
      endPage := h.endPage
      references := TextSet.isAscending_map_literal.mpr h.references }
    rw [htexts]
    exact List.forall_mem_map.mpr fun e he => map_literal_ne_iff.mpr (h.texts e he)

theorem LegalReference.storable_lift_iff {r : LegalReference} :
    (r.lift : LegalReference τ).Storable ↔ r.Storable := map_literal_ne_iff

theorem Project.storable_lift_iff {p : Project} : (p.lift : Project τ).Storable ↔ p.Storable := by
  have hkeys : (p.lift : Project τ).aliases.map Prod.fst =
      (p.aliases.map Prod.fst).map Textual.literal := by simp [lift, Function.comp_def]
  have hdistinct : ((p.lift : Project τ).aliases.map Prod.fst).Nodup ↔ (p.aliases.map Prod.fst).Nodup := by
    rw [hkeys, List.nodup_map_iff Textual.literal_injective]
  have hversion : (p.lift : Project τ).version ≠ Textual.literal "" ↔ p.version ≠ "" :=
    Textual.literal_inj.not
  constructor
  · intro h
    exact {
      version := hversion.mp h.version
      sessions := fun s hs => Session.storable_lift_iff.mp (h.sessions _ (List.mem_map_of_mem hs))
      tags := fun t ht => h.tags _ (List.mem_map_of_mem ht)
      aliases := hdistinct.mp h.aliases
      legalReferences := fun r hr =>
        LegalReference.storable_lift_iff.mp (h.legalReferences _ (List.mem_map_of_mem hr)) }
  · intro h
    exact {
      version := hversion.mpr h.version
      sessions := List.forall_mem_map.mpr fun s hs => Session.storable_lift_iff.mpr (h.sessions s hs)
      tags := List.forall_mem_map.mpr h.tags
      aliases := hdistinct.mpr h.aliases
      legalReferences := List.forall_mem_map.mpr fun r hr =>
        LegalReference.storable_lift_iff.mpr (h.legalReferences r hr) }

end Lift

/-! ### As plain texts they are themselves -/

@[simp] theorem Project.lift_plain (p : Project) : (p.lift : Project) = p := by
  have hsession : (Session.lift : Session → Session) = id :=
    funext fun s => by simp [Session.lift, Textual.literal_eq_id]
  have htag : (Tag.lift : Tag → Tag) = id :=
    funext fun t => by simp [Tag.lift, Textual.literal_eq_id]
  have hreference : (LegalReference.lift : LegalReference → LegalReference) = id :=
    funext fun r => by simp [LegalReference.lift, Textual.literal_eq_id]
  simp [lift, hsession, htag, hreference]

end Transcripts
