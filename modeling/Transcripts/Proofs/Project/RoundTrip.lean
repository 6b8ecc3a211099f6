/-
  Transcripts/Proofs/Project/RoundTrip.lean
  =========================================
  **A project that is saved is loaded as it was.**

  Saving and loading go through records, JSON, characters and bytes, and each of
  these steps has its own law.  Here they are put together: the bytes of a saved
  project are loaded as the project, without a warning, if the project is one
  that its stored form can hold.  Every project that comes out of a file is, so
  saving it and loading it again changes nothing.

  Only a surrogate stands in the way of saving, and every surrogate does.  A file
  can bring one along, by its escape, and what is loaded from such a file cannot
  be written back.
-/
import Transcripts.Proofs.Project.Plain
import Transcripts.Proofs.Text.Utf8

namespace Transcripts

open Transcripts.Numeral
open Transcripts.Text

/-! ### Values that are given -/

theorem positional_ne_nil (ds : List Char) (p : Int) : positional ds p ≠ [] := by
  rw [positional]
  split <;> simp

theorem scientific_ne_nil (style : NumberStyle) (ds : List Char) (p : Int) :
    scientific style ds p ≠ [] := by
  simp [scientific]

theorem Numeral.Binary64.text_ne (style : NumberStyle) (x : Binary64) : x.text style ≠ "" := by
  cases x with
  | nan => simp [Binary64.text]
  | infinite negative => cases negative <;> simp [Binary64.text]
  | finite negative m e =>
    rw [Binary64.text]
    simp only [ne_eq, String.ofList_eq_empty_iff]
    split
    · exact List.cons_ne_nil _ _
    · split
      · exact List.cons_ne_nil _ _
      · split
        · exact positional_ne_nil _ _
        · exact scientific_ne_nil _ _ _

theorem Json.shown_ne {τ : Type} [Textual τ] {v : Json τ} (h : ∀ s, v ≠ .string s) : v.shown ≠ "" := by
  cases v with
  | null => simp [shown]
  | bool b => cases b <;> simp [shown]
  | int n =>
    intro hshown
    have htext : (toString n).toList = [] := by simpa [shown] using congrArg String.toList hshown
    rw [toList_toString] at htext
    exact Nat.toDigits_ne_nil (List.append_eq_nil_iff.mp htext).2
  | number x => exact x.text_ne standardStyle
  | string s => exact absurd rfl (h s)
  | array items => simp [shown]
  | object fields => simp [shown]

theorem Json.text_ne_of_isGiven {τ : Type} [LT τ] [Textual τ] [LawfulTextual τ] {v : Json τ}
    (h : v.isGiven = true) : v.text ≠ Textual.literal "" := by
  cases v with
  | string s =>
    intro hempty
    simp [isGiven, (LawfulTextual.isEmpty_iff s).mpr hempty] at h
  | null | bool | int | number | array | object =>
    exact Textual.literal_injective.ne (shown_ne (by simp))

namespace Project

/-! ### Loading what was saved -/

section Load

variable {τ : Type}

theorem readRecords_written {α : Type} {parse : Fields τ → Except RecordFault α}
    {toFields : α → Fields τ} {records : List α} (h : ∀ r ∈ records, parse (toFields r) = .ok r)
    (listName : String) (index : Nat) :
    readRecords parse listName index (records.map fun r => .object (toFields r)) =
      ⟨[], .ok records⟩ := by
  induction records generalizing index with
  | nil => rfl
  | cons r records ih =>
    obtain ⟨hr, hrecords⟩ := List.forall_mem_cons.mp h
    rw [List.map_cons, readRecords, ih hrecords, hr]
    rfl

variable [Textual τ]

theorem readAliases_written (aliases : Keyed τ τ) :
    readAliases (.object (aliases.map fun entry => (entry.1, .string entry.2))) = .ok aliases := by
  cases aliases with
  | nil => rfl
  | cons a aliases =>
    have hmap (l : Keyed τ τ) :
        (l.map fun entry => (entry.1, Json.string entry.2)).map
          (fun entry => (entry.1, entry.2.text)) = l := by
      rw [List.map_map]
      exact List.map_id _
    exact congrArg Except.ok (hmap _)

variable [DecidableEq τ] [LT τ] [DecidableLT τ] [LawfulTextual τ]

theorem ofJson_object {fields : Fields τ} {p : Project τ} (hne : p.version ≠ Textual.literal "")
    (hversion : fields.value "version" = .string p.version)
    (haliases : readAliases (fields.value "aliasMap") = .ok p.aliases)
    (hsessions : readSection Session.ofFields "sessions" (fields.value "sessions") =
      ⟨[], .ok p.sessions⟩)
    (htags : readSection Tag.ofFields "savedTags" (fields.value "savedTags") = ⟨[], .ok p.tags⟩)
    (hrefs : readSection LegalReference.ofFields "legalReferences"
      (fields.value "legalReferences") = ⟨[], .ok p.legalReferences⟩) :
    ofJson (.object fields) = ⟨[], .ok p⟩ := by
  have hgiven : (Json.string p.version).isGiven = true := by
    simpa [Json.isGiven] using mt (LawfulTextual.isEmpty_iff p.version).mp hne
  rw [ofJson, haliases, hsessions, htags, hrefs]
  simp only [hversion, hgiven, if_true]
  rfl

/-- The JSON value of a project is read as the project. -/
theorem ofJson_toJson [Std.Asymm ((· < ·) : τ → τ → Prop)] {p : Project τ} (h : p.Storable) :
    ofJson p.toJson = ⟨[], .ok p⟩ := by
  refine ofJson_object h.version ?_ ?_ ?_ ?_ ?_
  all_goals simp only [Fields.value, Keyed.get?, Fields.lookup_field]
  · rfl
  · exact readAliases_written p.aliases
  · exact readRecords_written (fun s hs => Session.ofFields_toFields (h.sessions s hs)) _ _
  · exact readRecords_written (fun t _ => t.ofFields_toFields) _ _
  · exact readRecords_written (fun r hr => LegalReference.ofFields_toFields (h.legalReferences r hr)) _ _

end Load

/-- The JSON value of a project can be written and read. -/
theorem within_toJson {p : Project} (h : p.Storable) :
    p.toJson.Within Json.OnlyWhole Json.maxNesting := by
  have harray {α : Type} {toFields : α → Fields} {records : List α} {depth : Nat}
      (hrecords : ∀ r ∈ records, (Json.object (toFields r)).Within Json.OnlyWhole depth) :
      (Json.array (records.map fun r => .object (toFields r))).Within Json.OnlyWhole (depth + 1) := by
    intro v hv
    obtain ⟨r, hr, rfl⟩ := List.mem_map.mp hv
    exact hrecords r hr
  refine ⟨?_, fun field hfield => ?_⟩
  · show (["version", "sessions", "savedTags", "aliasMap", "legalReferences"] : List String).Nodup
    decide
  · simp only [List.mem_cons, List.not_mem_nil, or_false] at hfield
    rcases hfield with rfl | rfl | rfl | rfl | rfl
    · trivial
    · exact harray fun s hs => Session.within_toFields (h.sessions s hs) _
    · exact harray fun t ht => Tag.within_toFields (h.tags t ht) _
    · refine ⟨?_, fun entry hentry => ?_⟩
      · rw [List.map_map]
        exact h.aliases
      · obtain ⟨_, _, rfl⟩ := List.mem_map.mp hentry
        trivial
    · exact harray fun r _ => r.within_toFields _

section Reads

variable {τ : Type} [DecidableEq τ] [LT τ] [Textual τ]

theorem load_of_read [DecidableLT τ] {bytes : List UInt8} {cs : List Char} {v : Json τ}
    (hdecode : Utf8.decode bytes = .ok cs) (hread : Json.read (unifyLineEnds cs) = .ok v) :
    load bytes = ofJson v := by
  rw [load, hdecode]
  simp only [ofText, hread]

/-- What is written is read with texts of each kind. -/
theorem read_unifyLineEnds_write [LawfulTextual τ] {v : Json}
    (h : v.Within Json.OnlyWhole Json.maxNesting) :
    Json.read (unifyLineEnds v.write.toList) = .ok (v.lift : Json τ) := by
  have hreturn : '\r' ∉ v.write.toList := by
    rw [Json.write, String.toList_ofList]
    exact Json.return_not_mem_writeAt h 0
  rw [unifyLineEnds_of_no_return hreturn, Json.read_write h]

/-- What a file is read as before its records are. -/
def Reads (bytes : List UInt8) (content : Except Json.Fault Json) : Prop :=
  ∃ cs, Utf8.decode bytes = .ok cs ∧ Json.read (unifyLineEnds cs) = content

theorem ofBytes_of_reads {bytes : List UInt8} {v : Json} (h : Reads bytes (.ok v)) :
    ofBytes bytes = ofJson v := by
  obtain ⟨cs, hdecode, hread⟩ := h
  exact load_of_read hdecode hread

theorem reads_write {v : Json} (h : v.Within Json.OnlyWhole Json.maxNesting) :
    Reads v.write.toUTF8.toList (.ok v) :=
  ⟨v.write.toList, Utf8.decode_toUTF8 _, by simpa using read_unifyLineEnds_write (τ := String) h⟩

/-- A project that can be stored is loaded as it was written. -/
theorem load_toText [DecidableLT τ] [LawfulTextual τ] [Std.Asymm ((· < ·) : τ → τ → Prop)]
    {p : Project} (h : p.Storable) :
    load p.toText.toUTF8.toList = ⟨[], .ok (p.lift : Project τ)⟩ := by
  rw [toText, load_of_read (Utf8.decode_toUTF8 _) (read_unifyLineEnds_write (within_toJson h)),
    ← toJson_lift]
  exact ofJson_toJson (storable_lift_iff.mpr h)

theorem ofBytes_of_storable {p : Project} (h : p.Storable) :
    ofBytes p.toText.toUTF8.toList = ⟨[], .ok p⟩ := by
  rw [ofBytes, load_toText h, lift_plain]

end Reads

/-! ### What is loaded -/

theorem Outcome.result_andThen {α β : Type} {o : Outcome α} {next : α → Outcome β} {b : β}
    (h : (o.andThen next).result = .ok b) : ∃ a, o.result = .ok a ∧ (next a).result = .ok b := by
  rw [Outcome.andThen] at h
  split at h
  · exact absurd h (by simp)
  · next a ha => exact ⟨a, ha, h⟩

section Loaded

variable {τ α : Type} {parse : Fields τ → Except RecordFault α} {P : α → Prop}

theorem readRecords_all
    (hparse : ∀ {fields depth r}, (∀ field ∈ fields, field.2.Regular depth) →
      parse fields = .ok r → P r) {listName : String} {index depth : Nat} {items : List (Json τ)}
    (hitems : ∀ v ∈ items, v.Regular depth) {records : List α}
    (h : (readRecords parse listName index items).result = .ok records) : ∀ r ∈ records, P r := by
  induction items generalizing index records with
  | nil =>
    rw [← Except.ok.inj h]
    exact fun _ hmem => absurd hmem List.not_mem_nil
  | cons v items ih =>
    obtain ⟨hv, hrest⟩ := List.forall_mem_cons.mp hitems
    cases v with
    | object fields =>
      obtain ⟨depth', hfields⟩ := Json.regular_fields hv
      rw [readRecords] at h
      split at h
      · next r hr =>
        cases hread : (readRecords parse listName (index + 1) items).result with
        | error fault => exact absurd h (by simp [hread, Except.map])
        | ok rest =>
          rw [hread] at h
          rw [← Except.ok.inj h]
          exact List.forall_mem_cons.mpr ⟨hparse hfields.2 hr, ih hrest hread⟩
      · split at h
        · exact ih hrest h
        · exact absurd h (by simp [Outcome.ofResult])
    | null | bool | int | number | string | array => exact ih hrest h

theorem readSection_all
    (hparse : ∀ {fields depth r}, (∀ field ∈ fields, field.2.Regular depth) →
      parse fields = .ok r → P r) {listName : String} {depth : Nat} {v : Json τ}
    (hv : v.Regular depth) {records : List α}
    (h : (readSection parse listName v).result = .ok records) : ∀ r ∈ records, P r := by
  unfold readSection at h
  split at h
  · rw [← Except.ok.inj h]
    exact fun _ hmem => absurd hmem List.not_mem_nil
  · obtain ⟨depth', hitems⟩ := Json.regular_items hv
    exact readRecords_all hparse hitems h
  · exact absurd h (by simp [Outcome.ofResult])

theorem nodup_readAliases [Textual τ] {v : Json τ} {depth : Nat} (hv : v.Regular depth)
    {aliases : Keyed τ τ} (h : readAliases v = .ok aliases) :
    (aliases.map Prod.fst).Nodup := by
  unfold readAliases at h
  split at h
  · rw [← Except.ok.inj h]
    exact List.nodup_nil
  · split at h
    · rw [← Except.ok.inj h, List.map_map]
      exact (Json.regular_fields hv).choose_spec.1
    · exact absurd h (by simp)

variable [DecidableEq τ] [LT τ] [DecidableLT τ] [Textual τ] [LawfulTextual τ]
  [Std.Trichotomous ((· < ·) : τ → τ → Prop)] [Trans ((· < ·) : τ → τ → Prop) (· < ·) (· < ·)]

theorem storable_of_ofJson {v : Json τ} {depth : Nat} (hv : v.Regular depth) {p : Project τ}
    (h : (ofJson v).result = .ok p) : p.Storable := by
  unfold ofJson at h
  split at h
  · next items =>
    obtain ⟨sessions, hsessions, h⟩ := Outcome.result_andThen h
    obtain ⟨depth', hitems⟩ := Json.regular_items hv
    rw [← Except.ok.inj h]
    exact {
      version := by simp [currentVersion]
      sessions := readRecords_all (fun hf hr => Session.storable_of_ofFields hf hr) hitems hsessions
      tags := fun _ hmem => absurd hmem List.not_mem_nil
      aliases := List.nodup_nil
      legalReferences := fun _ hmem => absurd hmem List.not_mem_nil }
  · next fields =>
    obtain ⟨depth', _, hfields⟩ := Json.regular_fields hv
    have hvalue (name : String) : (Fields.value fields name).Regular depth' :=
      Fields.value_regular hfields name
    obtain ⟨aliases, haliases, h⟩ := Outcome.result_andThen h
    obtain ⟨sessions, hsessions, h⟩ := Outcome.result_andThen h
    obtain ⟨tags, htags, h⟩ := Outcome.result_andThen h
    obtain ⟨refs, hrefs, h⟩ := Outcome.result_andThen h
    rw [← Except.ok.inj h]
    exact {
      version := by
        simp only
        split
        · next hgiven => exact Json.text_ne_of_isGiven hgiven
        · simp [currentVersion]
      sessions := readSection_all (fun hf hr => Session.storable_of_ofFields hf hr) (hvalue _) hsessions
      tags := readSection_all (fun hf hr => Tag.storable_of_ofFields hf hr) (hvalue _) htags
      aliases := nodup_readAliases (hvalue _) haliases
      legalReferences := readSection_all (fun _ hr => LegalReference.storable_of_ofFields hr) (hvalue _) hrefs }
  · exact absurd h (by simp [Outcome.ofResult])

/-- Every project that is loaded can be stored. -/
theorem storable_of_load {bytes : List UInt8} {p : Project τ} (h : (load bytes).result = .ok p) :
    p.Storable := by
  rw [load] at h
  split at h
  · rw [ofText] at h
    split at h
    · next v hread => exact storable_of_ofJson (Json.read_regular hread) h
    · exact absurd h (by simp [Outcome.ofResult])
  · exact absurd h (by simp [Outcome.ofResult])

end Loaded

/-! ### Saving and loading -/

theorem save_lift (q : Project) : save q.lift = .ok q.toText := by
  rw [save, toJson_lift, Json.encode_lift]
  rfl

/-- A project is saved if, and only if, no surrogate stands in its texts. -/
theorem exists_save_iff {p : Project RawText} : (∃ text, p.save = .ok text) ↔ p.IsPlain := by
  constructor
  · rintro ⟨text, hsave⟩
    obtain ⟨w, hencode, _⟩ := exists_of_bind_eq_ok hsave
    obtain ⟨q, hq⟩ := mem_range_lift ⟨w, (Json.encode_eq_ok_iff.mp hencode).symm⟩
    exact ⟨q, hq.symm⟩
  · rintro ⟨q, rfl⟩
    exact ⟨q.toText, save_lift q⟩

theorem load_save_of_storable {p : Project RawText} (h : p.Storable) (hplain : p.IsPlain) :
    ∃ text, p.save = .ok text ∧ load text.toUTF8.toList = ⟨[], .ok p⟩ := by
  obtain ⟨q, rfl⟩ := hplain
  exact ⟨q.toText, save_lift q, load_toText (storable_lift_iff.mp h)⟩

/-- **Saving and loading.**  A project that its stored form can hold, and in whose
    texts no surrogate stands, is saved as a text that is loaded as the project,
    unchanged and without a warning.  So is every project without a surrogate that
    was loaded from a file, whatever was in the file.  A project with a surrogate is
    not saved. -/
theorem load_save :
    (∀ p : Project RawText, p.Storable → p.IsPlain →
      ∃ text, p.save = .ok text ∧ load text.toUTF8.toList = ⟨[], .ok p⟩) ∧
      (∀ (bytes : List UInt8) (p : Project RawText), (load bytes).result = .ok p → p.IsPlain →
        ∃ text, p.save = .ok text ∧ load text.toUTF8.toList = ⟨[], .ok p⟩) ∧
      ∀ p : Project RawText, (∃ text, p.save = .ok text) ↔ p.IsPlain :=
  ⟨fun _ h hplain => load_save_of_storable h hplain,
    fun _ _ h hplain => load_save_of_storable (storable_of_load h) hplain,
    fun _ => exists_save_iff⟩

/-- A project with a record of each kind, and texts that have to be escaped. -/
def sampleProject : Project where
  version := "1.1"
  sessions := [{
    id := "S1", target := "910000000", date := "03.02.2024", kind := .sms
    content := "Zé: \"olá\"\r\n\x01", sourceName := some "Zé", startPage := -7
    legalReferenceIds := ["r1", "r2"] }]
  tags := [{ id := "t1", name := "a", timestamp := 1700000001000, sessionIds := ["S1"] }]
  aliases := [("912345678", "Rui"), ("Zé", "José")]
  legalReferences := [{ id := "r1", category := .fact, label := "x", status := .archived }]

/-- A file that no one saved: a number for an id, and an item that is no session. -/
def foreignFile : List UInt8 := "\x7b\"sessions\": [\x7b\"sessionId\": 7\x7d, null]\x7d".toUTF8.toList

/-- What the file holds: a session whose id is the text that shows the number. -/
def foreignProject : Project where
  version := "1.1"
  sessions := [{ id := "7", target := "", date := "", kind := .audio, content := "" }]

theorem load_save_sample :
    (sampleProject.lift : Project RawText).Storable ∧
      (∃ text, save sampleProject.lift = .ok text ∧
        load text.toUTF8.toList = ⟨[], .ok (sampleProject.lift : Project RawText)⟩) ∧
      (load foreignFile).result = .ok (foreignProject.lift : Project RawText) ∧
      ∃ text, save foreignProject.lift = .ok text ∧
        load text.toUTF8.toList = ⟨[], .ok (foreignProject.lift : Project RawText)⟩ := by
  have hsample : (sampleProject.lift : Project RawText).Storable := by decide +kernel
  have hforeign : (load foreignFile).result = .ok (foreignProject.lift : Project RawText) := by
    decide +kernel
  exact ⟨hsample, load_save.1 _ hsample ⟨_, rfl⟩, hforeign, load_save.2.1 _ _ hforeign ⟨_, rfl⟩⟩

/-- A file with a session whose content is a surrogate, named by its escape. -/
def surrogateFile : List UInt8 :=
  "\x7b\"sessions\": [\x7b\"sessionId\": \"s1\", \"content\": \"\\ud800\"\x7d]\x7d".toUTF8.toList

/-- A project with one session, whose content is one surrogate. -/
def surrogateProject (place : Fin 0x800) : Project RawText where
  version := Textual.literal "1.1"
  sessions := [{
    id := Textual.literal "s1", target := Textual.literal "", date := Textual.literal ""
    kind := .audio, content := ⟨[.surrogate place]⟩, sourceFile := Textual.literal "" }]

/-- What is loaded cannot always be saved: a surrogate is loaded from its escape, and
    saving stops at it, at the character behind the opening quote. -/
theorem surrogateFile_is_not_saved :
    (load surrogateFile).result = .ok (surrogateProject 0) ∧
      (surrogateProject 0).save = .error ⟨0, 1, 0⟩ ∧
      ¬ ∃ text, (surrogateProject 0).save = .ok text ∧
        load text.toUTF8.toList = ⟨[], .ok (surrogateProject 0)⟩ := by
  have hsave : (surrogateProject 0).save = .error ⟨0, 1, 0⟩ := by decide +kernel
  refine ⟨by decide +kernel, hsave, ?_⟩
  rintro ⟨text, htext, _⟩
  exact absurd (hsave.symm.trans htext) (by simp)

end Project

end Transcripts
