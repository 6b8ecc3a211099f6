/-
  Transcripts/Proofs/Project/Entries.lean
  =======================================
  **Which entries of a file stop its load.**

  An entry that cannot be read is skipped with a warning, so a file is loaded
  with all the records that it holds.  Not every entry is treated so.  A session
  or a tag with an infinite number for a whole one, or with a true value or a
  number for a list, stops the whole load, and so does a file at the limits of
  the JSON reader.  Legal references never do.

  The main statement says both: when a load ends otherwise than with a project
  or a fault of the file's form, and what is loaded, with which warnings, from a
  file whose sections are lists.
-/
import Transcripts.Project.Basic
import Transcripts.Proofs.Project.RoundTrip

namespace Transcripts

open Transcripts.Numeral
open Transcripts.Text

/-! ### Values that no record can hold -/

namespace Json

/-- Whether a value is a number too large for a whole one. -/
def isInfinite : Json → Bool
  | .number (.infinite _) => true
  | _ => false

/-- Whether a value is given, but has no items to go through. -/
def hasNoItems : Json → Bool
  | .bool b => b
  | .int n => n ≠ 0
  | .number x => !x.isZero
  | .null | .string _ | .array _ | .object _ => false

/-- Whether a fault is a limit of the reader, and not a defect of the text. -/
def Fault.isLimit : Fault → Bool
  | .malformed _ _ _ _ => false
  | .integer _ | .tooDeep _ => true

end Json

/-- Whether an entry for a session stops the load: it has an id, and then a value
    that no session can hold. -/
def Session.stopsLoad : Json → Bool
  | .object fields => (Keyed.get? fields "sessionId").isSome &&
    ((Fields.value fields "startPage").isInfinite || (Fields.value fields "endPage").isInfinite ||
      (Fields.value fields "legalReferenceIds").hasNoItems)
  | _ => false

def Tag.stopsLoad : Json → Bool
  | .object fields => (Keyed.get? fields "id").isSome &&
    ((Fields.value fields "timestamp").isInfinite || (Fields.value fields "sessionIds").hasNoItems)
  | _ => false

namespace Project

/-! ### Faults that no warning replaces -/

/-- A reading that ends in a fault for which a record is not skipped. -/
def Aborts {α : Type} (x : Except RecordFault α) : Prop :=
  ∃ fault, x = .error fault ∧ isSkippable fault = false

section Aborts

variable {α β : Type}

theorem not_aborts_pure (a : α) : ¬ Aborts (pure a : Except RecordFault α) := by
  simp [Aborts, pure, Except.pure]

theorem not_aborts_error {fault : RecordFault} (h : isSkippable fault = true) :
    ¬ Aborts (.error fault : Except RecordFault α) := by
  simp [Aborts, h]

/-- Two steps abort where one of them does, if the first one's value makes no
    difference to that. -/
theorem aborts_bind_iff {x : Except RecordFault α} {f : α → Except RecordFault β} {Q : Prop}
    (hf : ∀ a, Aborts (f a) ↔ Q) : Aborts (x >>= f) ↔ Aborts x ∨ (∃ a, x = .ok a) ∧ Q := by
  cases x with
  | error fault => simp [Aborts, bind, Except.bind]
  | ok a => simpa [Aborts, bind, Except.bind] using hf a

variable {fields : Fields} {name : String} {Q : Prop}

theorem aborts_required_bind_iff {f : String → Except RecordFault β} (hf : ∀ s, Aborts (f s) ↔ Q) :
    Aborts (fields.required name >>= f) ↔ (Keyed.get? fields name).isSome ∧ Q := by
  rw [aborts_bind_iff hf, Fields.required]
  cases Keyed.get? fields name with
  | none => simp [Aborts, isSkippable]
  | some v => simp [Aborts]

theorem aborts_wholeNumber_bind_iff {f : Int → Except RecordFault β} (hf : ∀ n, Aborts (f n) ↔ Q) :
    Aborts (fields.wholeNumber name >>= f) ↔ (fields.value name).isInfinite ∨ Q := by
  rw [aborts_bind_iff hf, Fields.wholeNumber]
  split <;> simp_all [Aborts, isSkippable, Json.isInfinite]

theorem aborts_textItems_iff :
    Aborts (fields.textItems name) ↔ (fields.value name).hasNoItems := by
  rw [Fields.textItems]
  cases fields.value name with
  | null => simp [Aborts, Json.isGiven, Json.hasNoItems]
  | bool b => cases b <;> simp [Aborts, isSkippable, Json.isGiven, Json.hasNoItems]
  | int n => by_cases hn : n = 0 <;> simp [hn, Aborts, isSkippable, Json.isGiven, Json.hasNoItems]
  | number x => cases hx : x.isZero <;> simp [hx, Aborts, isSkippable, Json.isGiven, Json.hasNoItems]
  | string | array | object =>
    refine iff_of_false ?_ Bool.noConfusion
    simp only
    split <;> exact not_aborts_pure _

end Aborts

/-! ### Entries -/

section Entries

variable {α : Type} (parse : Fields → Except RecordFault α)

def readable? : Json → Option α
  | .object fields => (parse fields).toOption
  | _ => none

/-- The warning with which an entry is skipped, if it cannot be read. -/
def warning? (listName : String) (index : Nat) : Json → Option Warning
  | .object fields => match parse fields with
    | .ok _ => none
    | .error fault => some ⟨listName, index, some fault⟩
  | _ => some ⟨listName, index, none⟩

/-- The warnings for a section, of which the first entry has the given place. -/
def warnings (listName : String) (start : Nat) (items : List Json) : List Warning :=
  (items.zipIdx start).filterMap fun entry => warning? parse listName entry.2 entry.1

def EntryAborts : Json → Prop
  | .object fields => Aborts (parse fields)
  | _ => False

theorem filterMap_readable_cons (item : Json) (items : List Json) :
    (item :: items).filterMap (readable? parse) =
      (readable? parse item).toList ++ items.filterMap (readable? parse) := by
  rw [List.filterMap_cons]
  cases readable? parse item <;> rfl

theorem warnings_cons (listName : String) (start : Nat) (item : Json) (items : List Json) :
    warnings parse listName start (item :: items) =
      (warning? parse listName start item).toList ++ warnings parse listName (start + 1) items := by
  rw [warnings, List.zipIdx_cons, List.filterMap_cons, ← warnings]
  simp only
  cases warning? parse listName start item <;> rfl

/-- An entry is either read or skipped with one warning. -/
theorem length_readable_add_warnings (listName : String) (start : Nat) (items : List Json) :
    (items.filterMap (readable? parse)).length + (warnings parse listName start items).length =
      items.length := by
  induction items generalizing start with
  | nil => rfl
  | cons item items ih =>
    have hone : (readable? parse item).toList.length +
        (warning? parse listName start item).toList.length = 1 := by
      unfold readable? warning?
      split
      · cases parse _ <;> rfl
      · rfl
    have hrest := ih (start + 1)
    rw [filterMap_readable_cons, warnings_cons, List.length_append, List.length_append,
      List.length_cons]
    omega

variable {parse} {item : Json}

theorem readRecords_cons_of_not_aborts (h : ¬ EntryAborts parse item) (listName : String)
    (index : Nat) (items : List Json) :
    readRecords parse listName index (item :: items) =
      ⟨(warning? parse listName index item).toList ++
          (readRecords parse listName (index + 1) items).warnings,
        (readRecords parse listName (index + 1) items).result.map
          ((readable? parse item).toList ++ ·)⟩ := by
  have hskipped (x : Except LoadFault (List α)) : x.map ([] ++ ·) = x := by cases x <;> rfl
  cases item with
  | object fields =>
    rw [readRecords, readable?, warning?]
    cases hparse : parse fields with
    | ok record => rfl
    | error fault =>
      have hskip : isSkippable fault = true := by
        cases hskip : isSkippable fault with
        | false => exact absurd ⟨fault, hparse, hskip⟩ h
        | true => rfl
      simp only [hskip, if_true]
      exact congrArg (Outcome.mk _) (hskipped _).symm
  | null | bool | int | number | string | array =>
    exact congrArg (Outcome.mk _) (hskipped _).symm

theorem readRecords_cons_of_aborts (h : EntryAborts parse item) (listName : String) (index : Nat)
    (items : List Json) :
    ∃ fault, readRecords parse listName index (item :: items) =
      .ofResult (.error (.record fault)) := by
  cases item with
  | object fields =>
    obtain ⟨fault, hparse, hskip⟩ := h
    exact ⟨fault, by simp [readRecords, hparse, hskip]⟩
  | null | bool | int | number | string | array => exact h.elim

theorem readRecords_of_none_aborts {items : List Json} (h : ∀ item ∈ items, ¬ EntryAborts parse item)
    (listName : String) (index : Nat) :
    readRecords parse listName index items =
      ⟨warnings parse listName index items, .ok (items.filterMap (readable? parse))⟩ := by
  induction items generalizing index with
  | nil => rfl
  | cons item items ih =>
    obtain ⟨hitem, hitems⟩ := List.forall_mem_cons.mp h
    rw [readRecords_cons_of_not_aborts hitem, ih hitems, filterMap_readable_cons, warnings_cons]
    rfl

/-- One entry that aborts ends the whole load. -/
theorem readRecords_of_aborts {items : List Json} (hmem : item ∈ items)
    (h : EntryAborts parse item) (listName : String) (index : Nat) :
    ∃ fault, (readRecords parse listName index items).result = .error (.record fault) := by
  induction items generalizing index with
  | nil => exact absurd hmem List.not_mem_nil
  | cons head items ih =>
    by_cases hhead : EntryAborts parse head
    · obtain ⟨fault, hfault⟩ := readRecords_cons_of_aborts hhead listName index items
      exact ⟨fault, by rw [hfault]; rfl⟩
    · rcases List.mem_cons.mp hmem with rfl | hmem
      · exact absurd h hhead
      · obtain ⟨fault, hrest⟩ := ih hmem (index + 1)
        exact ⟨fault, by rw [readRecords_cons_of_not_aborts hhead, hrest]; rfl⟩

end Entries

/-! ### Entries of each kind -/

theorem aborts_session_iff {item : Json} :
    EntryAborts Session.ofFields item ↔ Session.stopsLoad item := by
  cases item with
  | object fields =>
    rw [EntryAborts, Session.ofFields,
      aborts_required_bind_iff fun _ => aborts_wholeNumber_bind_iff fun _ =>
        aborts_wholeNumber_bind_iff fun _ =>
          aborts_bind_iff fun _ => iff_false_intro (not_aborts_pure _),
      aborts_textItems_iff]
    simp [Session.stopsLoad, or_assoc]
  | null | bool | int | number | string | array => exact iff_of_false id Bool.noConfusion

theorem aborts_tag_iff {item : Json} : EntryAborts Tag.ofFields item ↔ Tag.stopsLoad item := by
  cases item with
  | object fields =>
    rw [EntryAborts, Tag.ofFields,
      aborts_required_bind_iff fun _ => aborts_wholeNumber_bind_iff fun _ =>
        aborts_bind_iff fun _ => iff_false_intro (not_aborts_pure _),
      aborts_textItems_iff]
    simp [Tag.stopsLoad]
  | null | bool | int | number | string | array => exact iff_of_false id Bool.noConfusion

/-- A legal reference that cannot be read is always skipped. -/
theorem not_aborts_legalReference (item : Json) : ¬ EntryAborts LegalReference.ofFields item := by
  cases item with
  | object fields =>
    rw [EntryAborts, LegalReference.ofFields, aborts_required_bind_iff (Q := False)]
    · simp
    · refine fun id => iff_false_intro ?_
      simp only [bind, Except.bind, pure, Except.pure, throw, throwThe, MonadExceptOf.throw]
      -- An unknown category or status is left, and both are skipped.
      split
      · split
        · exact not_aborts_pure _
        · exact not_aborts_error rfl
      · exact not_aborts_error rfl
  | null | bool | int | number | string | array => exact id

/-! ### Outcomes -/

/-- The load returns, or refuses the file for its form. -/
def Outcome.IsOrderly {α : Type} (o : Outcome α) : Prop :=
  (∃ a, o.result = .ok a) ∨ ∃ fault, o.result = .error (.format fault)

theorem isOrderly_andThen_iff {α β : Type} {o : Outcome α} {next : α → Outcome β} :
    (o.andThen next).IsOrderly ↔ o.IsOrderly ∧ ∀ a, o.result = .ok a → (next a).IsOrderly := by
  unfold Outcome.andThen Outcome.IsOrderly
  cases o.result <;> simp

theorem isOrderly_readRecords_iff {α : Type} {parse : Fields → Except RecordFault α}
    {listName : String} {index : Nat} {items : List Json} :
    (readRecords parse listName index items).IsOrderly ↔ ∀ item ∈ items, ¬ EntryAborts parse item := by
  constructor
  · intro horderly item hmem haborts
    obtain ⟨fault, hfault⟩ := readRecords_of_aborts hmem haborts listName index
    rcases horderly with ⟨records, hok⟩ | ⟨form, herror⟩
    · exact absurd (hfault.symm.trans hok) (by simp)
    · exact absurd (hfault.symm.trans herror) (by simp)
  · intro h
    rw [readRecords_of_none_aborts h]
    exact .inl ⟨_, rfl⟩

/-! ### Sections -/

/-- The entries of a section: none if it is null or missing. -/
def entries? : Json → Option (List Json)
  | .null => some []
  | .array items => some items
  | _ => none

section Sections

variable {α : Type} {parse : Fields → Except RecordFault α} {listName : String} {v : Json}

theorem readSection_of_entries {items : List Json} (h : entries? v = some items) :
    readSection parse listName v = readRecords parse listName 0 items := by
  unfold entries? at h
  split at h
  · rw [← Option.some.inj h]
    rfl
  · rw [← Option.some.inj h]
    rfl
  · exact absurd h (by simp)

theorem readSection_of_no_entries (h : entries? v = none) :
    readSection parse listName v = .ofResult (.error (.format (.sectionNotList listName))) := by
  cases v with
  | null | array => exact absurd h (by simp [entries?])
  | bool | int | number | string | object => rfl

theorem isOrderly_readSection_iff :
    (readSection parse listName v).IsOrderly ↔
      ∀ items, entries? v = some items → ∀ item ∈ items, ¬ EntryAborts parse item := by
  cases h : entries? v with
  | none =>
    rw [readSection_of_no_entries h]
    exact iff_of_true (.inr ⟨_, rfl⟩) (by simp)
  | some items =>
    rw [readSection_of_entries h, isOrderly_readRecords_iff]
    simp

theorem exists_readSection_iff :
    (∃ records, (readSection parse listName v).result = .ok records) ↔
      ∃ items, entries? v = some items ∧ ∀ item ∈ items, ¬ EntryAborts parse item := by
  cases h : entries? v with
  | none => simp [readSection_of_no_entries h, Outcome.ofResult]
  | some items =>
    rw [readSection_of_entries h]
    constructor
    · rintro ⟨records, hrecords⟩
      refine ⟨items, rfl, fun item hmem haborts => ?_⟩
      obtain ⟨fault, hfault⟩ := readRecords_of_aborts hmem haborts listName 0
      exact absurd (hfault.symm.trans hrecords) (by simp)
    · rintro ⟨_, hitems, hnone⟩
      rw [← Option.some.inj hitems] at hnone
      exact ⟨_, by rw [readRecords_of_none_aborts hnone]⟩

end Sections

/-- A file whose form is right, its entries not yet read. -/
structure Sections where
  version : String
  aliases : Keyed String String
  sessions : List Json
  tags : List Json
  legalReferences : List Json

/-- The sections of a file, if it is a list or its sections are lists. -/
def sections? : Json → Option Sections
  | .array items => some ⟨currentVersion, [], items, [], []⟩
  | .object fields => do
    let version := Fields.value fields "version"
    let aliases ← (readAliases (Fields.value fields "aliasMap")).toOption
    let sessions ← entries? (Fields.value fields "sessions")
    let tags ← entries? (Fields.value fields "savedTags")
    let legalReferences ← entries? (Fields.value fields "legalReferences")
    return ⟨if version.isGiven then version.text else currentVersion, aliases, sessions, tags,
      legalReferences⟩
  | _ => none

namespace Sections

def project (s : Sections) : Project where
  version := s.version
  aliases := s.aliases
  sessions := s.sessions.filterMap (readable? Session.ofFields)
  tags := s.tags.filterMap (readable? Tag.ofFields)
  legalReferences := s.legalReferences.filterMap (readable? LegalReference.ofFields)

/-- One warning for each entry that cannot be read. -/
def warnings (s : Sections) : List Warning :=
  Project.warnings Session.ofFields "sessions" 0 s.sessions ++
    Project.warnings Tag.ofFields "savedTags" 0 s.tags ++
    Project.warnings LegalReference.ofFields "legalReferences" 0 s.legalReferences

def NoneStops (s : Sections) : Prop :=
  (∀ item ∈ s.sessions, ¬ Session.stopsLoad item) ∧ ∀ item ∈ s.tags, ¬ Tag.stopsLoad item

instance (s : Sections) : Decidable s.NoneStops :=
  inferInstanceAs (Decidable ((∀ item ∈ s.sessions, ¬ Session.stopsLoad item) ∧
    ∀ item ∈ s.tags, ¬ Tag.stopsLoad item))

end Sections

/-! ### Files -/

/-- No entry for which the load gets that far stops it. -/
def NoEntryStops : Json → Prop
  | .array items => ∀ item ∈ items, ¬ Session.stopsLoad item
  | .object fields =>
    ∀ aliases, readAliases (Fields.value fields "aliasMap") = .ok aliases →
    ∀ sessions, entries? (Fields.value fields "sessions") = some sessions →
      (∀ item ∈ sessions, ¬ Session.stopsLoad item) ∧
      ∀ tags, entries? (Fields.value fields "savedTags") = some tags →
        ∀ item ∈ tags, ¬ Tag.stopsLoad item
  | _ => True

theorem isOrderly_readAliases (v : Json) : (Outcome.ofResult (readAliases v)).IsOrderly := by
  unfold readAliases
  split
  · exact .inl ⟨_, rfl⟩
  · split
    · exact .inl ⟨_, rfl⟩
    · exact .inr ⟨_, rfl⟩

theorem isOrderly_ofJson_iff {v : Json} : (ofJson v).IsOrderly ↔ NoEntryStops v := by
  have hdone (p : Project) : (Outcome.ofResult (.ok p)).IsOrderly := .inl ⟨p, rfl⟩
  cases v with
  | array items =>
    simp only [ofJson, isOrderly_andThen_iff, isOrderly_readRecords_iff, aborts_session_iff,
      NoEntryStops, hdone, implies_true, and_true]
  | object fields =>
    simp only [ofJson, isOrderly_andThen_iff, isOrderly_readAliases, isOrderly_readSection_iff,
      not_aborts_legalReference, hdone, not_false_iff, implies_true, and_true, true_and,
      aborts_session_iff, aborts_tag_iff, NoEntryStops]
    refine forall₂_congr fun aliases _ => ?_
    have hread : (∃ records, (readSection Session.ofFields "sessions"
        (Fields.value fields "sessions")).result = .ok records) ↔
        ∃ sessions, entries? (Fields.value fields "sessions") = some sessions ∧
          ∀ item ∈ sessions, ¬ Session.stopsLoad item := by
      simp only [exists_readSection_iff, aborts_session_iff]
    constructor
    -- the tags are looked at only behind sessions that were all gone through
    · rintro ⟨hsessions, htags⟩ sessions hlist
      have hnone := hsessions sessions hlist
      obtain ⟨records, hrecords⟩ := hread.mpr ⟨sessions, hlist, hnone⟩
      exact ⟨hnone, htags records hrecords⟩
    · intro h
      refine ⟨fun sessions hlist => (h sessions hlist).1, fun records hrecords => ?_⟩
      obtain ⟨sessions, hlist, _⟩ := hread.mp ⟨records, hrecords⟩
      exact (h sessions hlist).2
  | null | bool | int | number | string => exact iff_of_true (.inr ⟨_, rfl⟩) trivial

theorem isOrderly_ofBytes_iff {bytes : List UInt8} :
    (ofBytes bytes).IsOrderly ↔
      (∀ fault, Reads bytes (.error fault) → fault.isLimit = false) ∧
        ∀ v, Reads bytes (.ok v) → (ofJson v).IsOrderly := by
  unfold ofBytes load Reads
  cases hdecode : Utf8.decode bytes with
  | error fault => exact iff_of_true (.inr ⟨_, rfl⟩) (by simp)
  | ok cs =>
    simp only [ofText]
    cases hread : (Json.read (unifyLineEnds cs) : Except Json.Fault Json) with
    | ok v => simp [hread]
    | error fault => cases fault <;> simp [hread, Outcome.IsOrderly, Outcome.ofResult, Json.Fault.isLimit]

theorem sections?_object {fields : Fields} {s : Sections} (h : sections? (.object fields) = some s) :
    readAliases (Fields.value fields "aliasMap") = .ok s.aliases ∧
      entries? (Fields.value fields "sessions") = some s.sessions ∧
      entries? (Fields.value fields "savedTags") = some s.tags ∧
      entries? (Fields.value fields "legalReferences") = some s.legalReferences ∧
      s.version = if (Fields.value fields "version").isGiven then (Fields.value fields "version").text
        else currentVersion := by
  simp only [sections?, Option.bind_eq_bind, Option.bind_eq_some_iff] at h
  obtain ⟨aliases, haliases, sessions, hsessions, tags, htags, refs, hrefs, hs⟩ := h
  rw [← Option.some.inj hs]
  refine ⟨?_, hsessions, htags, hrefs, rfl⟩
  cases hread : readAliases (Fields.value fields "aliasMap") with
  | error fault => exact absurd haliases (by simp [hread, Except.toOption])
  | ok _ => simpa [hread, Except.toOption] using haliases

theorem noEntryStops_iff {v : Json} {s : Sections} (h : sections? v = some s) :
    NoEntryStops v ↔ s.NoneStops := by
  cases v with
  | array items =>
    obtain rfl := Option.some.inj h
    simp [NoEntryStops, Sections.NoneStops]
  | object fields =>
    obtain ⟨haliases, hsessions, htags, _, _⟩ := sections?_object h
    simp [NoEntryStops, Sections.NoneStops, haliases, hsessions, htags]
  | null | bool | int | number | string => exact absurd h (by simp [sections?])

theorem ofJson_of_sections {v : Json} {s : Sections} (h : sections? v = some s)
    (hnone : s.NoneStops) : ofJson v = ⟨s.warnings, .ok s.project⟩ := by
  have hsessions := fun item hitem => mt aborts_session_iff.mp (hnone.1 item hitem)
  have htags := fun item hitem => mt aborts_tag_iff.mp (hnone.2 item hitem)
  have hrefs := fun item (_ : item ∈ s.legalReferences) => not_aborts_legalReference item
  cases v with
  | array items =>
    obtain rfl := Option.some.inj h
    rw [ofJson, readRecords_of_none_aborts hsessions]
    simp [Outcome.andThen, Outcome.ofResult, Sections.warnings, Sections.project, warnings]
  | object fields =>
    obtain ⟨haliases, hsessionList, htagList, hrefList, hversion⟩ := sections?_object h
    rw [ofJson, haliases, readSection_of_entries hsessionList, readSection_of_entries htagList,
      readSection_of_entries hrefList, readRecords_of_none_aborts hsessions,
      readRecords_of_none_aborts htags, readRecords_of_none_aborts hrefs, ← hversion]
    simp [Outcome.andThen, Outcome.ofResult, Sections.warnings, Sections.project]
  | null | bool | int | number | string => exact absurd h (by simp [sections?])

/-- **Loading despite bad entries.**  A load returns or refuses the file for its form,
    except at a limit of the JSON reader and for an entry that stops the load.  From
    a file whose form is right it returns, exactly if no entry stops it, the entries
    that can be read, in order, with one warning for each of the others. -/
theorem ofBytes_skips_bad_entries (bytes : List UInt8) :
    ((ofBytes bytes).IsOrderly ↔
      (∀ fault, Reads bytes (.error fault) → fault.isLimit = false) ∧
        ∀ v, Reads bytes (.ok v) → NoEntryStops v) ∧
    ∀ v s, Reads bytes (.ok v) → sections? v = some s →
      (ofBytes bytes = ⟨s.warnings, .ok s.project⟩ ↔ s.NoneStops) ∧
      s.project.sessions.length + (warnings Session.ofFields "sessions" 0 s.sessions).length =
        s.sessions.length ∧
      s.project.tags.length + (warnings Tag.ofFields "savedTags" 0 s.tags).length = s.tags.length ∧
      s.project.legalReferences.length +
        (warnings LegalReference.ofFields "legalReferences" 0 s.legalReferences).length =
          s.legalReferences.length := by
  refine ⟨?_, fun v s hreads hsections => ⟨⟨fun h => ?_, fun hnone => ?_⟩, ?_, ?_, ?_⟩⟩
  · simp only [isOrderly_ofBytes_iff, isOrderly_ofJson_iff]
  · rw [← noEntryStops_iff hsections, ← isOrderly_ofJson_iff, ← ofBytes_of_reads hreads, h]
    exact .inl ⟨_, rfl⟩
  · rw [ofBytes_of_reads hreads, ofJson_of_sections hsections hnone]
  · exact length_readable_add_warnings _ _ _ _
  · exact length_readable_add_warnings _ _ _ _
  · exact length_readable_add_warnings _ _ _ _

/-- Each section with an entry that can be read and one that cannot. -/
def mixedSections : Sections where
  version := currentVersion
  aliases := []
  sessions := [.null, .object [("sessionId", .int 1), ("startPage", .string "x")],
    .object [("target", .null)]]
  tags := [.object [("id", .string "t1"), ("sessionIds", .string "ab")], .int 7]
  legalReferences := [.object [("id", .string "r1"), ("category", .string "law")],
    .object [("id", .string "r2")]]

def mixedEntries : Json :=
  .object
    [("sessions", .array mixedSections.sessions), ("savedTags", .array mixedSections.tags),
     ("legalReferences", .array mixedSections.legalReferences)]

theorem ofBytes_mixedEntries :
    Reads mixedEntries.write.toUTF8.toList (.ok mixedEntries) ∧
      sections? mixedEntries = some mixedSections ∧ mixedSections.NoneStops ∧
      ofBytes mixedEntries.write.toUTF8.toList =
        ⟨mixedSections.warnings, .ok mixedSections.project⟩ ∧
      mixedSections.warnings =
        [⟨"sessions", 0, none⟩, ⟨"sessions", 2, some (.missingField "sessionId")⟩,
         ⟨"savedTags", 1, none⟩, ⟨"legalReferences", 0, some (.unknownCategory "law")⟩] ∧
      mixedSections.project =
        { version := currentVersion
          sessions := [{ id := "1", target := "", date := "", kind := .audio, content := "" }]
          tags := [{ id := "t1", name := "", timestamp := 0, sessionIds := ["a", "b"] }]
          legalReferences := [{ id := "r2", category := .tag, label := "" }] } := by
  have hdigits : Json.FitsDigits 1 ∧ Json.FitsDigits 7 := by decide
  have hreads : Reads mixedEntries.write.toUTF8.toList (.ok mixedEntries) :=
    reads_write (by simpa [mixedEntries, mixedSections, Json.Within, Json.maxNesting] using hdigits)
  have hnone : mixedSections.NoneStops := by decide
  refine ⟨hreads, rfl, hnone, ?_, by decide +kernel, by decide +kernel⟩
  exact ((ofBytes_skips_bad_entries _).2 _ _ hreads rfl).1.mpr hnone

def numberForList : Json :=
  .object [("sessions", .array
    [.object [("sessionId", .string "s1"), ("legalReferenceIds", .int 5)]])]

theorem number_for_list_stops_load :
    Reads numberForList.write.toUTF8.toList (.ok numberForList) ∧
      (sections? numberForList).isSome ∧
      ¬ (ofBytes numberForList.write.toUTF8.toList).IsOrderly := by
  have hdigits : Json.FitsDigits 5 := by decide
  have hreads : Reads numberForList.write.toUTF8.toList (.ok numberForList) :=
    reads_write (by simpa [numberForList, Json.Within, Json.maxNesting] using hdigits)
  have hsections : sections? numberForList = some
      ⟨currentVersion, [], [.object [("sessionId", .string "s1"), ("legalReferenceIds", .int 5)]],
        [], []⟩ := rfl
  refine ⟨hreads, by rw [hsections]; rfl, ?_⟩
  rw [ofBytes_of_reads hreads, isOrderly_ofJson_iff, noEntryStops_iff hsections]
  decide

end Project

end Transcripts
