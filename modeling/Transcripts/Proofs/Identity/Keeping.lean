/-
  Transcripts/Proofs/Identity/Keeping.lean
  ========================================
  **Who is left without an identity.**

  An empty text is no identity.  Pairs with an empty side are passed over when they
  are laid over a map or put in its place, and a merge shows nobody as an empty text.
  But the mapping that a map begins with, given as such or read from a file, is taken
  as it is.  A name that it leads to an empty text is shown as nothing, and to look up
  what it is shown as gives no answer at all.

  Such a name stays lost until a merge takes it up or another mapping is put in place
  of the whole.  An update can lose more names, those that it leads to a lost one, or
  lead a lost one away.  If the first mapping loses nobody, nothing does: that no
  entry shows an empty text is kept by every change.
-/
import Transcripts.Identity.Alias
import Transcripts.Proofs.Identity.Chains
import Transcripts.Proofs.Identity.Merging
import Transcripts.Proofs.Json.Reading
import Transcripts.Proofs.Project.RoundTrip

namespace Transcripts.Identity.AliasMap

open Transcripts.Text

variable {m : AliasMap} {pairs : Keyed String String} {name : String}

/-- Pairs lead from a name to the empty text. -/
def EndsEmpty (pairs : Keyed String String) (name : String) : Prop :=
  ∃ n, Leads pairs (n + 1) name ""

/-- A name is shown as an identity, and that one as itself. -/
def Keeps (m : AliasMap) (name : String) : Prop :=
  ∃ shown, shown ≠ "" ∧ m.resolve (some name) = some shown ∧ m.resolve (some shown) = some shown

theorem keeps_iff (hm : m.IsFlat) (hname : name ≠ "") : m.Keeps name ↔ m.get? name ≠ some "" := by
  constructor
  · rintro ⟨shown, hshown, hresolve, _⟩ hempty
    rw [resolve_of_ne hname, hempty] at hresolve
    cases hresolve
    exact hshown rfl
  · intro hget
    cases hentry : m.get? name with
    | none =>
      have hself : m.resolve (some name) = some name := by
        rw [resolve_of_ne hname, hentry]
        rfl
      exact ⟨name, hname, hself, hself⟩
    | some shown =>
      have hshown : shown ≠ "" := by
        rintro rfl
        exact hget hentry
      have hlast : m.get? shown = none :=
        Keyed.get?_eq_none_iff.mpr (hm _ (Keyed.mem_of_get? hentry))
      refine ⟨shown, hshown, ?_, ?_⟩
      · rw [resolve_of_ne hname, hentry]
        rfl
      · rw [resolve_of_ne hshown, hlast]
        rfl

theorem get?_flatten_eq_empty_iff (hdistinct : (pairs.map Prod.fst).Nodup) :
    (flatten pairs).get? name = some "" ↔ EndsEmpty pairs name := by
  rw [get?_flatten hdistinct, endOf?_eq_some_iff, EndsEmpty]

/-! ### What a change does to the lost -/

/-- A merge is not refused: it has a spelling, and the new identity is not blank. -/
def Accepted (raws : List String) (display : String) : Prop :=
  (∃ raw ∈ raws, raw ≠ "") ∧ trimmed display ≠ ""

theorem accepted_of_merge {m' : AliasMap} {raws : List String} {display : String}
    (h : m.merge raws display = .ok m') : Accepted raws display := by
  refine ⟨?_, (merge_cases h).1⟩
  rw [merge] at h
  split at h
  · cases h
  · split at h
    · cases h
    · next hsome =>
      obtain ⟨raw, hraw⟩ := List.exists_mem_of_ne_nil _ fun hnil => hsome (List.isEmpty_iff.mpr hnil)
      exact ⟨raw, mem_merged.mp hraw⟩

theorem get?_unify_eq_empty_iff {raws : List String} {display : String} (hdisplay : display ≠ "")
    (hraws : "" ∉ raws) :
    (m.unify raws display).get? name = some "" ↔
      m.get? name = some "" ∧ name ≠ display ∧ name ∉ raws := by
  rw [get?_unify]
  by_cases hshown : name = display
  · simp [hshown]
  · by_cases hraw : name ∈ raws
    · simp [hshown, hraw, hdisplay]
    · rw [if_neg hshown, if_neg hraw, and_iff_left ⟨hshown, hraw⟩, Option.map_eq_some_iff]
      constructor
      · rintro ⟨value, hvalue, hsent⟩
        by_cases hmerged : value ∈ raws
        · rw [if_pos (List.contains_iff_mem.mpr hmerged)] at hsent
          exact absurd hsent hdisplay
        · rw [if_neg (by simpa using hmerged)] at hsent
          rw [hvalue, hsent]
      · intro hget
        exact ⟨"", hget, if_neg (by simpa using hraws)⟩

/-- A merge takes up the new identity and the spellings, and nobody else. -/
theorem get?_merge_eq_empty_iff {raws : List String} {display : String} (hname : name ≠ "") :
    (m.apply (.merge raws display)).get? name = some "" ↔
      m.get? name = some "" ∧ (Accepted raws display → name ≠ trimmed display ∧ name ∉ raws) := by
  by_cases haccepted : Accepted raws display
  · have happly : m.apply (.merge raws display) = m.unify (merged raws) (trimmed display) := by
      rw [apply, merge_of_selected haccepted.1 haccepted.2]
      rfl
    have hempty : "" ∉ merged raws := fun h => (mem_merged.mp h).2 rfl
    rw [happly, get?_unify_eq_empty_iff haccepted.2 hempty, imp_iff_right haccepted, mem_merged,
      and_iff_left hname]
  · have happly : m.apply (.merge raws display) = m := by
      rw [apply]
      cases hmerge : m.merge raws display with
      | error fault => rfl
      | ok m' => exact absurd (accepted_of_merge hmerge) haccepted
    rw [happly]
    exact (and_iff_left fun h => absurd h haccepted).symm

theorem shown_ne_replace (given : Keyed String String) : ∀ entry ∈ replace given, entry.2 ≠ "" := by
  apply shown_ne_flatten
  intro entry hentry
  exact (mem_significant.mp hentry).2.2

/-- No entry shows an empty text, and no change makes one that does. -/
theorem shown_ne_apply (hm : ∀ entry ∈ m, entry.2 ≠ "") (change : Change) :
    ∀ entry ∈ m.apply change, entry.2 ≠ "" := by
  cases change with
  | merge raws display =>
    rw [apply]
    cases hmerge : m.merge raws display with
    | error fault => exact hm
    | ok m' =>
      intro entry hentry
      have hdisplay := (accepted_of_merge hmerge).2
      rcases (mem_merge hmerge hentry).2 with ⟨value, hold, hshown | ⟨hshown, _⟩⟩ | ⟨_, hshown⟩
      · rwa [hshown]
      · rw [hshown]
        exact hm _ hold
      · rwa [hshown]
  | update given =>
    apply shown_ne_flatten
    intro entry hentry
    rcases Keyed.mem_putAll hentry with hold | hnew
    · exact hm entry hold
    · exact (mem_significant.mp hnew).2.2
  | replace given => exact shown_ne_replace given

/-! ### Who is lost after a run -/

/-- What is laid over a map, or put in its place, has one value for each key. -/
def Change.IsMapping : Change → Prop
  | .merge _ _ => True
  | .update given => (given.map Prod.fst).Nodup
  | .replace given => (given.map Prod.fst).Nodup

theorem nodup_keys_apply (hm : (m.map Prod.fst).Nodup) {change : Change} (h : change.IsMapping) :
    ((m.apply change).map Prod.fst).Nodup := by
  cases change with
  | merge raws display =>
    rw [apply]
    cases hmerge : m.merge raws display with
    | error fault => exact hm
    | ok m' => exact nodup_keys_merge hm hmerge
  | update given => exact (Keyed.nodup_keys_putAll hm _).sublist (keys_flatten_sublist _)
  | replace given =>
    have hgiven : ((significant given).map Prod.fst).Nodup :=
      h.sublist (List.filter_sublist.map Prod.fst)
    exact hgiven.sublist (keys_flatten_sublist _)

section Run

variable {start : Keyed String String}

theorem run_concat (start : Keyed String String) (changes : List Change) (change : Change) :
    run start (changes ++ [change]) = (run start changes).apply change := by
  rw [run, List.foldl_append]
  rfl

/-- Who has no identity after changes of what a mapping gives, the newest change first. -/
def LostAfter (start : Keyed String String) : List Change → String → Prop
  | [], name => EndsEmpty start name
  | .merge raws display :: past, name =>
    LostAfter start past name ∧ (Accepted raws display → name ≠ trimmed display ∧ name ∉ raws)
  | .update given :: past, name =>
    EndsEmpty (Keyed.putAll (run start past.reverse) (significant given)) name
  | .replace _ :: _, _ => False

theorem nodup_keys_run (hstart : (start.map Prod.fst).Nodup) {changes : List Change}
    (h : ∀ change ∈ changes, change.IsMapping) : ((run start changes).map Prod.fst).Nodup := by
  induction changes using List.reverseRecOn with
  | nil => exact hstart.sublist (keys_flatten_sublist start)
  | append_singleton changes change ih =>
    rw [run_concat]
    obtain ⟨hbefore, hlast⟩ := List.forall_mem_append.mp h
    exact nodup_keys_apply (ih hbefore) (hlast change (List.mem_singleton_self change))

theorem get?_run_eq_empty_iff (hstart : (start.map Prod.fst).Nodup) {past : List Change}
    (h : ∀ change ∈ past, change.IsMapping) (hname : name ≠ "") :
    (run start past.reverse).get? name = some "" ↔ LostAfter start past name := by
  induction past with
  | nil => exact get?_flatten_eq_empty_iff hstart
  | cons change past ih =>
    obtain ⟨hchange, hpast⟩ := List.forall_mem_cons.mp h
    rw [List.reverse_cons, run_concat]
    cases change with
    | merge raws display =>
      rw [get?_merge_eq_empty_iff hname, ih hpast]
      exact Iff.rfl
    | update given =>
      have hbefore : ((run start past.reverse).map Prod.fst).Nodup :=
        nodup_keys_run hstart fun change hmem => hpast change (List.mem_reverse.mp hmem)
      exact get?_flatten_eq_empty_iff (Keyed.nodup_keys_putAll hbefore _)
    | replace given =>
      refine iff_of_false ?_ id
      intro hget
      exact shown_ne_replace given _ (Keyed.mem_of_get? hget) rfl

theorem shown_ne_run (hstart : (start.map Prod.fst).Nodup)
    (h : ∀ name, name ≠ "" → ¬ EndsEmpty start name) (changes : List Change) :
    ∀ entry ∈ run start changes, entry.2 ≠ "" := by
  induction changes using List.reverseRecOn with
  | nil =>
    rintro ⟨name, shown⟩ hentry rfl
    have hget := Keyed.get?_of_mem (hstart.sublist (keys_flatten_sublist start)) hentry
    obtain ⟨n, hleads⟩ := (get?_flatten_eq_empty_iff hstart).mp hget
    exact h name hleads.ne_stop ⟨n, hleads⟩
  | append_singleton changes change ih =>
    rw [run_concat]
    exact shown_ne_apply ih change

end Run

/-! ### Maps from files -/

theorem ofBytes_of_reads {bytes : List UInt8} {v : Json} (h : Project.Reads bytes (.ok v)) :
    ofBytes bytes = ofJson v := by
  obtain ⟨cs, hdecode, hread⟩ := h
  rw [ofBytes, hdecode]
  simp only [Except.mapError, bind, Except.bind, hread]

/-- Fields with distinct names are a mapping, with their values as texts. -/
theorem exists_mapping_of_fields {fields : List (String × Json)}
    (h : (fields.map Prod.fst).Nodup) : ∃ mapping : List (String × String),
      flatten (fields.map fun (raw, shown) => (raw, shown.text)) = flatten (.ofPairs mapping) := by
  refine ⟨fields.map fun (raw, shown) => (raw, shown.text), ?_⟩
  rw [Keyed.ofPairs_of_nodup]
  rwa [List.map_map]

/-- A map that is read from a file is what some mapping gives. -/
theorem exists_mapping_of_ofBytes {bytes : List UInt8} (h : ofBytes bytes = .ok m) :
    ∃ mapping : List (String × String), m = flatten (.ofPairs mapping) := by
  obtain ⟨cs, _, h⟩ := exists_of_bind_eq_ok h
  obtain ⟨v, hread, h⟩ := exists_of_bind_eq_ok h
  have hregular := Json.read_regular (mapError_eq_ok_iff.mp hread)
  cases v with
  | object fields =>
    obtain ⟨depth, hnames, hvalues⟩ := Json.regular_fields hregular
    rw [← Except.ok.inj h]
    split
    · next inner hinner =>
      have hobject := hvalues _ (Keyed.mem_of_get? hinner)
      obtain ⟨_, hnames, _⟩ := Json.regular_fields hobject
      exact exists_mapping_of_fields hnames
    · exact exists_mapping_of_fields hnames
  | _ => cases h

/-- **Who keeps an identity.**  After any run from a mapping, a name is shown as an
    identity that is shown as itself, unless it is lost.  No run loses anybody exactly if
    the mapping leads nobody to an empty text.  A map that is read from a file is one that
    some mapping gives, so the same holds of it. -/
theorem keeps_run_iff (mapping : List (String × String)) :
    (∀ changes, (∀ change ∈ changes, change.IsMapping) → ∀ name, name ≠ "" →
      ((run (.ofPairs mapping) changes).Keeps name ↔
        ¬ LostAfter (.ofPairs mapping) changes.reverse name)) ∧
    ((∀ changes name, name ≠ "" → (run (.ofPairs mapping) changes).Keeps name) ↔
      ∀ name, name ≠ "" → ¬ EndsEmpty (.ofPairs mapping) name) ∧
    ∀ bytes m, ofBytes bytes = .ok m →
      ∃ mapping : List (String × String), m = flatten (.ofPairs mapping) := by
  have hstart : ((Keyed.ofPairs mapping).map Prod.fst).Nodup := Keyed.nodup_keys_ofPairs mapping
  have hflat (changes : List Change) : (run (.ofPairs mapping) changes).IsFlat :=
    isFlat_foldl_apply (isFlat_flatten _) changes
  refine ⟨?_, ⟨?_, ?_⟩, fun bytes m h => exists_mapping_of_ofBytes h⟩
  · intro changes hchanges name hname
    have hpast : ∀ change ∈ changes.reverse, change.IsMapping := by
      intro change hchange
      exact hchanges change (List.mem_reverse.mp hchange)
    rw [keeps_iff (hflat changes) hname, ← get?_run_eq_empty_iff hstart hpast hname,
      List.reverse_reverse]
  · intro hkeeps name hname hends
    apply (keeps_iff (hflat []) hname).mp (hkeeps [] name hname)
    exact (get?_flatten_eq_empty_iff hstart).mpr hends
  · intro hends changes name hname
    apply (keeps_iff (hflat changes) hname).mpr
    intro hget
    exact shown_ne_run hstart hends changes _ (Keyed.mem_of_get? hget) rfl

/-- A line whose owner was left empty, as a file has it. -/
def unnamedLineFile : Json := .object [("912 345 678", .string "")]

/-- One more is led to that line, and then merged with somebody else. -/
def namingRun : List Change :=
  [.update [("Zé", "912 345 678"), ("", "Ana")], .merge ["Zé", ""] " Rui "]

theorem keeps_run_iff_unnamedLine :
    ofBytes unnamedLineFile.write.toUTF8.toList = .ok unnamedLine ∧
      (∃ mapping, unnamedLine = flatten (.ofPairs mapping)) ∧
      (∀ change ∈ namingRun, change.IsMapping) ∧
      (run (.ofPairs [("912 345 678", "")]) namingRun).Keeps "Zé" ∧
      ¬ (run (.ofPairs [("912 345 678", "")]) namingRun).Keeps "912 345 678" ∧
      (∀ name, name ≠ "" → ¬ EndsEmpty (.ofPairs [("Zé", "José")]) name) ∧
      (run (.ofPairs [("Zé", "José")]) namingRun).Keeps "912 345 678" := by
  have hfile : ofBytes unnamedLineFile.write.toUTF8.toList = .ok unnamedLine := by
    rw [ofBytes_of_reads (Project.reads_write (by simp [unnamedLineFile, Json.Within, Json.maxNesting]))]
    decide +kernel
  have hchanges : ∀ change ∈ namingRun, change.IsMapping := by
    simp [namingRun, Change.IsMapping]
  obtain ⟨hlost, _, hread⟩ := keeps_run_iff [("912 345 678", "")]
  have hlost := hlost namingRun hchanges
  have hshown : ∀ entry ∈ flatten (.ofPairs [("Zé", "José")]), entry.2 ≠ "" :=
    shown_ne_flatten (by decide)
  have hnobody : ∀ name, name ≠ "" → ¬ EndsEmpty (.ofPairs [("Zé", "José")]) name := by
    intro name _ hends
    have hget := (get?_flatten_eq_empty_iff (by decide)).mpr hends
    exact hshown _ (Keyed.mem_of_get? hget) rfl
  refine ⟨hfile, hread _ _ hfile, hchanges, ?_, ?_, hnobody, ?_⟩
  · apply (hlost "Zé" (by decide)).mpr
    rintro ⟨_, hmerge⟩
    have haccepted : Accepted ["Zé", ""] " Rui " := ⟨by decide, by decide +kernel⟩
    exact (hmerge haccepted).2 (by decide)
  · rw [hlost "912 345 678" (by decide), not_not]
    have hends : EndsEmpty (Keyed.putAll (run (.ofPairs [("912 345 678", "")]) [])
        (significant [("Zé", "912 345 678"), ("", "Ana")])) "912 345 678" :=
      ⟨0, .step (by decide +kernel) (.stop (by decide +kernel))⟩
    exact ⟨hends, fun _ => ⟨by decide +kernel, by decide⟩⟩
  · exact (keeps_run_iff [("Zé", "José")]).2.1.mpr hnobody namingRun "912 345 678" (by decide)

/-- What the line is shown as is empty, and that is shown as nothing. -/
theorem empty_identity_is_shown :
    unnamedLine.resolve (some "912 345 678") = some "" ∧ unnamedLine.resolve (some "") = none := by
  decide +kernel

end Transcripts.Identity.AliasMap
