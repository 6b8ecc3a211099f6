/-
  Transcripts/Proofs/Project/Record.lean
  ======================================
  **Records are read as they were written.**

  An empty text where a text is optional would be left out by the reader, and a
  whole number of too many digits would not be read at all.  Nothing else stands
  in the way: a record without either is read as it was written, and every record
  that is read is one.
-/
import Transcripts.Project.Record
import Transcripts.Proofs.Json.Reading

namespace Transcripts

open Transcripts.Numeral
open Transcripts.Text

/-! ### Records that can be stored -/

section Storable

variable {τ : Type}

/-- The texts that a session may have or not, under their names. -/
def Session.optionalFields (s : Session τ) : List (String × Option τ) :=
  [("targetName", s.targetName), ("sourceNumber", s.sourceNumber), ("sourceName", s.sourceName),
   ("destinationNumber", s.destinationNumber), ("destinationName", s.destinationName),
   ("startTime", s.startTime), ("endTime", s.endTime), ("duration", s.duration),
   ("summary", s.summary)]

/-- What the stored form of a session takes for granted. -/
structure Session.Storable [LT τ] [Textual τ] (s : Session τ) : Prop where
  /-- A text that is there is not empty. -/
  texts : ∀ field ∈ s.optionalFields, field.2 ≠ some (Textual.literal "")
  startPage : Json.FitsDigits s.startPage
  endPage : Json.FitsDigits s.endPage
  /-- The legal references are a set. -/
  references : TextSet.IsAscending s.legalReferenceIds

instance [DecidableEq τ] [LT τ] [DecidableLT τ] [Textual τ] (s : Session τ) :
    Decidable s.Storable :=
  decidable_of_iff
    ((∀ field ∈ s.optionalFields, field.2 ≠ some (Textual.literal "")) ∧
      Json.FitsDigits s.startPage ∧ Json.FitsDigits s.endPage ∧
      TextSet.IsAscending s.legalReferenceIds)
    ⟨fun ⟨h₁, h₂, h₃, h₄⟩ => ⟨h₁, h₂, h₃, h₄⟩, fun ⟨h₁, h₂, h₃, h₄⟩ => ⟨h₁, h₂, h₃, h₄⟩⟩

/-- What the stored form of a tag takes for granted. -/
def Tag.Storable (t : Tag τ) : Prop := Json.FitsDigits t.timestamp

instance (t : Tag τ) : Decidable t.Storable := inferInstanceAs (Decidable (Json.FitsDigits _))

/-- What the stored form of a legal reference takes for granted. -/
def LegalReference.Storable [Textual τ] (r : LegalReference τ) : Prop :=
  r.description ≠ some (Textual.literal "")

instance [DecidableEq τ] [Textual τ] (r : LegalReference τ) : Decidable r.Storable :=
  inferInstanceAs (Decidable (r.description ≠ some (Textual.literal "")))

end Storable

/-! ### Fields -/

namespace Fields

section Written

variable {τ : Type} [DecidableEq τ] [Textual τ] {fields : Fields τ} {name : String}

theorem required_of_get? {s : τ}
    (h : Keyed.get? fields (Textual.literal name) = some (.string s)) :
    fields.required name = .ok s := by
  rw [required, h]
  rfl

theorem wholeNumber_of_get? {n : Int}
    (h : Keyed.get? fields (Textual.literal name) = some (.int n)) :
    fields.wholeNumber name = .ok n := by
  rw [wholeNumber, value, h]
  rfl

theorem textItems_of_get? {texts : List τ}
    (h : Keyed.get? fields (Textual.literal name) = some (textArray texts)) :
    fields.textItems name = .ok texts := by
  rw [textItems, value, h]
  cases texts with
  | nil => rfl
  | cons t ts =>
    have hmap : ((t :: ts).map Json.string).map Json.text = t :: ts := by
      rw [List.map_map]
      exact List.map_id _
    exact congrArg Except.ok hmap

/-- An empty text is read as none. -/
theorem optionalText_eq_filter {t : Option τ}
    (h : Keyed.get? fields (Textual.literal name) = t.map Json.string) :
    fields.optionalText name = t.filter (!Textual.isEmpty ·) := by
  rw [optionalText, value, h]
  cases t with
  | none => rfl
  | some s =>
    rw [Option.filter_some]
    by_cases hs : Textual.isEmpty s = true
    · simp [Json.text, hs]
    · simp [Json.text, hs]

variable [LT τ] [LawfulTextual τ]

@[simp] theorem lookup_field (k name : String) (v : Json τ) (fields : Fields τ) :
    List.lookup (Textual.literal k) (field name v :: fields) =
      if k = name then some v else List.lookup (Textual.literal k) fields := by
  rw [List.lookup_cons, Textual.literal_beq]
  by_cases hk : k = name
  · simp [hk]
  · rw [if_neg hk, beq_eq_false_iff_ne.mpr hk]

theorem textOf_of_get? {s : τ} (h : Keyed.get? fields (Textual.literal name) = some (.string s)) :
    fields.textOf name = s := by
  rw [textOf, value, h]
  by_cases hs : s = Textual.literal ""
  · subst hs
    simp [Json.isGiven]
  · have hgiven : Textual.isEmpty s = false := by simpa using mt (LawfulTextual.isEmpty_iff s).mp hs
    simp [Json.isGiven, Json.text, hgiven]

theorem loweredOr_of_get? {s : String}
    (h : Keyed.get? fields (Textual.literal name) = some (.string (Textual.literal s)))
    (missing : String) : fields.loweredOr name missing = lowered s := by
  rw [loweredOr, h]
  exact congrArg lowered (LawfulTextual.shown_literal s)

omit [DecidableEq τ] in
theorem filter_eq_self_iff {t : Option τ} :
    t.filter (!Textual.isEmpty ·) = t ↔ t ≠ some (Textual.literal "") := by
  cases t with
  | none => simp
  | some s => simp [Option.filter_some, ← LawfulTextual.isEmpty_iff]

theorem optionalText_of_get? {t : Option τ} (ht : t ≠ some (Textual.literal ""))
    (h : Keyed.get? fields (Textual.literal name) = t.map Json.string) :
    fields.optionalText name = t := by
  rw [optionalText_eq_filter h, filter_eq_self_iff.mpr ht]

end Written

section Read

variable {τ : Type} [DecidableEq τ] [Textual τ] {fields : Fields τ} {name : String}

/-- An optional text is never empty. -/
theorem optionalText_ne [LT τ] [LawfulTextual τ] (fields : Fields τ) (name : String) :
    fields.optionalText name ≠ some (Textual.literal "") := by
  rw [optionalText]
  split
  · simp
  · split
    · simp
    · next hempty =>
      intro h
      exact hempty ((LawfulTextual.isEmpty_iff _).mpr (Option.some.inj h))

theorem value_regular {depth : Nat} (hfields : ∀ field ∈ fields, field.2.Regular depth)
    (name : String) : (fields.value name).Regular depth := by
  rw [value, Keyed.get?]
  cases hlookup : List.lookup (Textual.literal name) fields with
  | none => cases depth <;> trivial
  | some v =>
    obtain ⟨front, back, rfl, _⟩ := List.lookup_eq_some_iff.mp hlookup
    exact hfields (Textual.literal name, v) (by simp)

/-- A whole number that is read has no more digits than can be read. -/
theorem wholeNumber_fits {depth : Nat} (hfields : ∀ field ∈ fields, field.2.Regular depth) {n : Int}
    (h : fields.wholeNumber name = .ok n) : Json.FitsDigits n := by
  have hvalue := value_regular hfields name
  rw [wholeNumber] at h
  split at h
  · next b _ =>
    rw [← Except.ok.inj h]
    cases b <;> decide
  · next m hm =>
    rw [hm] at hvalue
    rw [← Except.ok.inj h]
    exact Json.fitsDigits_of_regular hvalue
  · next negative m e hx =>
    rw [hx] at hvalue
    rw [← Except.ok.inj h]
    exact Json.fitsDigits_iff.mpr (Json.truncatesInLimits_of_regular hvalue _ _ _ rfl)
  · exact absurd h (by simp)
  · next s _ =>
    rw [← Except.ok.inj h]
    cases hs : integer? (Textual.shown s).toList with
    | none => decide
    | some m => exact Json.fitsDigits_iff.mpr (natAbs_integer?_lt hs)
  · rw [← Except.ok.inj h]
    decide

end Read

end Fields

/-! ### Sessions -/

section Optional

variable {τ : Type} [DecidableEq τ] [LT τ] [Textual τ] [LawfulTextual τ]

theorem lookup_optionalField (k name : String) (t : Option τ) :
    List.lookup (Textual.literal k) (optionalField name t) =
      if k = name then t.map Json.string else none := by
  cases t with
  | none => simp [optionalField]
  | some s => simp [optionalField]

theorem lookup_optionalFields_none {entries : List (String × Option τ)} {name : String}
    (h : name ∉ entries.map Prod.fst) :
    List.lookup (Textual.literal name) (entries.flatMap fun e => optionalField e.1 e.2) = none := by
  induction entries with
  | nil => rfl
  | cons e entries ih =>
    rw [List.map_cons, List.mem_cons, not_or] at h
    rw [List.flatMap_cons, List.lookup_append, lookup_optionalField, ih h.2]
    simp [h.1]

/-- Among fields with distinct names each is found under its own. -/
theorem lookup_optionalFields {entries : List (String × Option τ)} {name : String}
    {t : Option τ} (hnodup : (entries.map Prod.fst).Nodup) (hmem : (name, t) ∈ entries) :
    List.lookup (Textual.literal name) (entries.flatMap fun e => optionalField e.1 e.2) =
      t.map Json.string := by
  induction entries with
  | nil => exact absurd hmem List.not_mem_nil
  | cons e entries ih =>
    rw [List.map_cons, List.nodup_cons] at hnodup
    rw [List.flatMap_cons, List.lookup_append, lookup_optionalField]
    rcases List.mem_cons.mp hmem with rfl | hmem
    · simp [lookup_optionalFields_none hnodup.1]
    · have hne : name ≠ e.1 := fun h => hnodup.1 (h ▸ List.mem_map_of_mem hmem)
      simp [hne, ih hnodup.2 hmem]

end Optional

theorem names_optionalFields_sublist (entries : List (String × Option String)) :
    ((entries.flatMap fun e => optionalField e.1 e.2).map Prod.fst).Sublist
      (entries.map Prod.fst) := by
  induction entries with
  | nil => exact List.Sublist.refl _
  | cons e entries ih =>
    obtain ⟨name, t⟩ := e
    cases t with
    | none => exact ih.cons name
    | some s => exact ih.cons_cons name

theorem mem_optionalField {name : String} {t : Option String} {field : String × Json}
    (h : field ∈ optionalField name t) : ∃ s, field = (name, .string s) := by
  cases t with
  | none => exact absurd h List.not_mem_nil
  | some s => exact ⟨s, List.mem_singleton.mp h⟩

theorem within_textArray (numbers : Binary64 → Prop) (depth : Nat) (texts : List String) :
    (textArray texts).Within numbers (depth + 1) := by
  intro v hv
  obtain ⟨s, _, rfl⟩ := List.mem_map.mp hv
  cases depth <;> trivial

theorem SessionKind.ofText_text (kind : SessionKind) : .ofText kind.text = kind := by
  cases kind <;> decide +kernel

namespace Session

section Written

variable {τ : Type} [Textual τ]

/-- The fields that every stored session has. -/
def requiredFields (s : Session τ) : Fields τ :=
  [field "sessionId" (.string s.id), field "target" (.string s.target),
   field "date" (.string s.date), field "type" (.string (Textual.literal s.kind.text)),
   field "content" (.string s.content), field "sourceFileName" (.string s.sourceFile),
   field "startPage" (.int s.startPage), field "endPage" (.int s.endPage)]

/-- The legal references of a session, if it has any. -/
def referenceField (s : Session τ) : Fields τ :=
  if s.legalReferenceIds.isEmpty then []
  else [field "legalReferenceIds" (textArray s.legalReferenceIds)]

theorem toFields_eq (s : Session τ) :
    s.toFields = s.requiredFields ++
      ((s.optionalFields.flatMap fun e => optionalField e.1 e.2) ++ s.referenceField) := by
  simp [toFields, requiredFields, optionalFields, referenceField]

omit [Textual τ] in
theorem nodup_optionalFields (s : Session τ) : (s.optionalFields.map Prod.fst).Nodup := by
  have hnames : s.optionalFields.map Prod.fst =
      ["targetName", "sourceNumber", "sourceName", "destinationNumber", "destinationName",
       "startTime", "endTime", "duration", "summary"] := rfl
  rw [hnames]
  decide

variable [DecidableEq τ]

/-- A field that every session has is found under its name. -/
theorem get?_required {s : Session τ} {name : String} {v : Json τ}
    (h : List.lookup (Textual.literal name) s.requiredFields = some v) :
    Keyed.get? s.toFields (Textual.literal name) = some v := by
  rw [Keyed.get?, toFields_eq, List.lookup_append, h]
  rfl

variable [LT τ] [LawfulTextual τ]

theorem lookup_referenceField (s : Session τ) {name : String} (h : name ≠ "legalReferenceIds") :
    List.lookup (Textual.literal name) s.referenceField = none := by
  rw [referenceField]
  split
  · rfl
  · simp [h]

/-- An optional text is found under its name, which no other field has. -/
theorem get?_optional {s : Session τ} {name : String} {t : Option τ}
    (h : (name, t) ∈ s.optionalFields) :
    Keyed.get? s.toFields (Textual.literal name) = t.map Json.string := by
  have hother : ∀ e ∈ s.optionalFields,
      List.lookup (Textual.literal e.1) s.requiredFields = none ∧ e.1 ≠ "legalReferenceIds" := by
    simp [optionalFields, requiredFields]
  obtain ⟨hrequired, hreference⟩ := hother _ h
  rw [Keyed.get?, toFields_eq, List.lookup_append, hrequired, List.lookup_append,
    lookup_optionalFields s.nodup_optionalFields h, s.lookup_referenceField hreference,
    Option.none_or, Option.or_none]

theorem textItems_references (s : Session τ) :
    s.toFields.textItems "legalReferenceIds" = .ok s.legalReferenceIds := by
  have hget : Keyed.get? s.toFields (Textual.literal "legalReferenceIds") =
      List.lookup (Textual.literal "legalReferenceIds") s.referenceField := by
    have hrequired : List.lookup (Textual.literal "legalReferenceIds") s.requiredFields = none := by
      simp [requiredFields]
    have hnot : "legalReferenceIds" ∉ s.optionalFields.map Prod.fst := by simp [optionalFields]
    rw [Keyed.get?, toFields_eq, List.lookup_append, hrequired, List.lookup_append,
      lookup_optionalFields_none hnot, Option.none_or, Option.none_or]
  cases hrefs : s.legalReferenceIds with
  | nil =>
    rw [referenceField, hrefs] at hget
    rw [Fields.textItems, Fields.value, hget]
    rfl
  | cons r rs =>
    rw [referenceField, hrefs] at hget
    exact Fields.textItems_of_get? (hget.trans (by simp))

/-- **A session is read as it was written.** -/
theorem ofFields_toFields [DecidableLT τ] [Std.Asymm ((· < ·) : τ → τ → Prop)] {s : Session τ}
    (h : s.Storable) : Session.ofFields s.toFields = .ok s := by
  have text {name : String} {t : Option τ} (hmem : (name, t) ∈ s.optionalFields) :
      s.toFields.optionalText name = t :=
    Fields.optionalText_of_get? (h.texts _ hmem) (get?_optional hmem)
  have hid : s.toFields.required "sessionId" = .ok s.id :=
    Fields.required_of_get? (get?_required (by simp [requiredFields]))
  have hstart : s.toFields.wholeNumber "startPage" = .ok s.startPage :=
    Fields.wholeNumber_of_get? (get?_required (by simp [requiredFields]))
  have hend : s.toFields.wholeNumber "endPage" = .ok s.endPage :=
    Fields.wholeNumber_of_get? (get?_required (by simp [requiredFields]))
  have hkind : SessionKind.ofJson (s.toFields.value "type") = s.kind := by
    rw [Fields.value, get?_required (v := .string (Textual.literal s.kind.text))
      (by simp [requiredFields]), Option.getD_some, SessionKind.ofJson,
      LawfulTextual.shown_literal, SessionKind.ofText_text]
  have htarget : s.toFields.textOf "target" = s.target :=
    Fields.textOf_of_get? (get?_required (by simp [requiredFields]))
  have hdate : s.toFields.textOf "date" = s.date :=
    Fields.textOf_of_get? (get?_required (by simp [requiredFields]))
  have hcontent : s.toFields.textOf "content" = s.content :=
    Fields.textOf_of_get? (get?_required (by simp [requiredFields]))
  have hsource : s.toFields.textOf "sourceFileName" = s.sourceFile :=
    Fields.textOf_of_get? (get?_required (by simp [requiredFields]))
  have htexts : ∀ e ∈ s.optionalFields, s.toFields.optionalText e.1 = e.2 := fun _ he => text he
  simp only [optionalFields, List.forall_mem_cons] at htexts
  rw [ofFields, hid, hstart, hend, textItems_references]
  simp only [bind, Except.bind, pure, Except.pure, hkind, htarget, hdate, hcontent, hsource, htexts,
    TextSet.ofList_of_ascending h.references]

/-- Every session that is read can be stored. -/
theorem storable_of_ofFields [DecidableLT τ] [Std.Trichotomous ((· < ·) : τ → τ → Prop)]
    [Trans ((· < ·) : τ → τ → Prop) (· < ·) (· < ·)] {fields : Fields τ} {depth : Nat}
    (hfields : ∀ field ∈ fields, field.2.Regular depth) {s : Session τ}
    (h : Session.ofFields fields = .ok s) : s.Storable := by
  rw [ofFields] at h
  obtain ⟨id, _, h⟩ := exists_of_bind_eq_ok h
  obtain ⟨startPage, hstart, h⟩ := exists_of_bind_eq_ok h
  obtain ⟨endPage, hend, h⟩ := exists_of_bind_eq_ok h
  obtain ⟨refs, _, h⟩ := exists_of_bind_eq_ok h
  rw [← Except.ok.inj h]
  exact {
    texts := by simp [optionalFields, Fields.optionalText_ne]
    startPage := Fields.wholeNumber_fits hfields hstart
    endPage := Fields.wholeNumber_fits hfields hend
    references := TextSet.ofList_ascending refs }

end Written

theorem nodup_names (s : Session) : (s.toFields.map Prod.fst).Nodup := by
  have hnames : (s.toFields.map Prod.fst).Sublist
      (s.requiredFields.map Prod.fst ++ (s.optionalFields.map Prod.fst ++ ["legalReferenceIds"])) := by
    rw [toFields_eq, List.map_append, List.map_append]
    refine (List.Sublist.refl _).append (List.Sublist.append ?_ ?_)
    · exact names_optionalFields_sublist _
    · rw [referenceField]
      split
      · exact List.nil_sublist _
      · exact List.Sublist.refl _
  refine List.Pairwise.sublist hnames ?_
  show (["sessionId", "target", "date", "type", "content", "sourceFileName", "startPage", "endPage",
    "targetName", "sourceNumber", "sourceName", "destinationNumber", "destinationName", "startTime",
    "endTime", "duration", "summary", "legalReferenceIds"] : List String).Nodup
  decide

/-- The stored form of a session can be written and read. -/
theorem within_toFields {s : Session} (h : s.Storable) (depth : Nat) :
    (Json.object s.toFields).Within Json.OnlyWhole (depth + 2) := by
  refine ⟨s.nodup_names, fun field hfield => ?_⟩
  rw [toFields_eq] at hfield
  rcases List.mem_append.mp hfield with hfield | hfield
  · simp only [requiredFields, List.mem_cons, List.not_mem_nil, or_false] at hfield
    rcases hfield with rfl | rfl | rfl | rfl | rfl | rfl | rfl | rfl
    case inr.inr.inr.inr.inr.inr.inl => exact h.startPage
    case inr.inr.inr.inr.inr.inr.inr => exact h.endPage
    all_goals trivial
  · rcases List.mem_append.mp hfield with hfield | hfield
    · obtain ⟨e, _, hfield⟩ := List.mem_flatMap.mp hfield
      obtain ⟨text, rfl⟩ := mem_optionalField hfield
      trivial
    · rw [referenceField] at hfield
      split at hfield
      · exact absurd hfield List.not_mem_nil
      · rw [List.mem_singleton.mp hfield]
        exact within_textArray _ _ _

end Session

/-! ### Tags -/

namespace Tag

variable {τ : Type} [DecidableEq τ] [Textual τ]

/-- **A tag is read as it was written.** -/
theorem ofFields_toFields [LT τ] [LawfulTextual τ] (t : Tag τ) : Tag.ofFields t.toFields = .ok t := by
  have hid : t.toFields.required "id" = .ok t.id :=
    Fields.required_of_get? (by simp [Keyed.get?, toFields])
  have htime : t.toFields.wholeNumber "timestamp" = .ok t.timestamp :=
    Fields.wholeNumber_of_get? (by simp [Keyed.get?, toFields])
  have hitems : t.toFields.textItems "sessionIds" = .ok t.sessionIds :=
    Fields.textItems_of_get? (by simp [Keyed.get?, toFields])
  have hname : t.toFields.textOf "name" = t.name :=
    Fields.textOf_of_get? (by simp [Keyed.get?, toFields])
  have hdescription : t.toFields.textOf "filterDescription" = t.description :=
    Fields.textOf_of_get? (by simp [Keyed.get?, toFields])
  rw [ofFields, hid, htime, hitems]
  simp only [bind, Except.bind, pure, Except.pure, hname, hdescription]

theorem storable_of_ofFields {fields : Fields τ} {depth : Nat}
    (hfields : ∀ field ∈ fields, field.2.Regular depth) {t : Tag τ}
    (h : Tag.ofFields fields = .ok t) : t.Storable := by
  rw [ofFields] at h
  obtain ⟨id, _, h⟩ := exists_of_bind_eq_ok h
  obtain ⟨timestamp, htime, h⟩ := exists_of_bind_eq_ok h
  obtain ⟨sessionIds, _, h⟩ := exists_of_bind_eq_ok h
  rw [← Except.ok.inj h]
  exact Fields.wholeNumber_fits hfields htime

theorem within_toFields {t : Tag} (h : t.Storable) (depth : Nat) :
    (Json.object t.toFields).Within Json.OnlyWhole (depth + 2) := by
  refine ⟨?_, fun field hfield => ?_⟩
  · show (["id", "name", "timestamp", "sessionIds", "filterDescription"] : List String).Nodup
    decide
  · simp only [toFields, List.mem_cons, List.not_mem_nil, or_false] at hfield
    rcases hfield with rfl | rfl | rfl | rfl | rfl
    · trivial
    · trivial
    · exact h
    · exact within_textArray _ _ _
    · trivial

end Tag

/-! ### Legal references -/

namespace LegalReference

theorem category_read (category : LegalCategory) : LegalCategory.ofText? (lowered category.text) = some category := by
  cases category <;> decide +kernel

theorem status_read (status : LegalStatus) : LegalStatus.ofText? (lowered status.text) = some status := by
  cases status <;> decide +kernel

section Read

variable {τ : Type} [DecidableEq τ] [LT τ] [Textual τ] [LawfulTextual τ]

/-- A legal reference is read as it was written, less an empty description. -/
theorem ofFields_written (r : LegalReference τ) :
    LegalReference.ofFields r.toFields =
      .ok { r with description := r.description.filter (!Textual.isEmpty ·) } := by
  have hid : r.toFields.required "id" = .ok r.id :=
    Fields.required_of_get? (by simp [Keyed.get?, toFields])
  have hcategory : r.toFields.loweredOr "category" "tag" = lowered r.category.text :=
    Fields.loweredOr_of_get? (by simp [Keyed.get?, toFields]) _
  have hstatus : r.toFields.loweredOr "status" "active" = lowered r.status.text :=
    Fields.loweredOr_of_get? (by simp [Keyed.get?, toFields]) _
  have hlabel : r.toFields.textOf "label" = r.label :=
    Fields.textOf_of_get? (by simp [Keyed.get?, toFields])
  have hdescription :
      r.toFields.optionalText "description" = r.description.filter (!Textual.isEmpty ·) := by
    refine Fields.optionalText_eq_filter ?_
    rw [Keyed.get?, toFields, List.lookup_append, lookup_optionalField]
    simp
  rw [ofFields, hid]
  simp only [bind, Except.bind, pure, Except.pure, hcategory, hstatus, category_read, status_read, hlabel, hdescription]

/-- **A legal reference is read as it was written.** -/
theorem ofFields_toFields {r : LegalReference τ} (h : r.Storable) :
    LegalReference.ofFields r.toFields = .ok r := by
  rw [ofFields_written, Fields.filter_eq_self_iff.mpr h]

theorem storable_of_ofFields {fields : Fields τ} {r : LegalReference τ}
    (h : LegalReference.ofFields fields = .ok r) : r.Storable := by
  rw [ofFields] at h
  obtain ⟨id, _, h⟩ := exists_of_bind_eq_ok h
  simp only [bind, Except.bind, pure, Except.pure, throw, throwThe, MonadExceptOf.throw] at h
  split at h
  · split at h
    · rw [← Except.ok.inj h]
      exact Fields.optionalText_ne _ _
    · exact absurd h (by simp)
  · exact absurd h (by simp)

end Read

theorem within_toFields (r : LegalReference) (depth : Nat) :
    (Json.object r.toFields).Within Json.OnlyWhole (depth + 2) := by
  refine ⟨?_, fun field hfield => ?_⟩
  · have hnames : (r.toFields.map Prod.fst).Sublist
        ["id", "category", "label", "status", "description"] := by
      rw [toFields, List.map_append]
      refine (List.Sublist.refl _).append ?_
      cases r.description with
      | none => exact List.nil_sublist _
      | some s => exact List.Sublist.refl _
    exact List.Pairwise.sublist hnames (by decide)
  · rcases List.mem_append.mp hfield with hfield | hfield
    · simp only [List.mem_cons, List.not_mem_nil, or_false] at hfield
      rcases hfield with rfl | rfl | rfl | rfl <;> trivial
    · obtain ⟨s, rfl⟩ := mem_optionalField hfield
      trivial

end LegalReference

end Transcripts
