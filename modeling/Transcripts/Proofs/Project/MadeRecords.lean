/-
  Transcripts/Proofs/Project/MadeRecords.lean
  ===========================================
  **Which records are read as they were made.**

  A record that is made is brought into a normal form, and so is a record that is read.
  The two need not be the same.  A tag is made with a description of its own where none
  is given, or an empty one, and what is read of a tag can be anything, so no tag is
  changed by writing and reading it.

  A legal reference is made with the description that is given, and read with none where
  it is empty.  All that is done to it afterwards changes its status, so what a registry
  holds are the references as they were made, in order, up to their status
  (`asMade_run`).  Whether they are read as they are can therefore be told from what was
  given: it is the empty description that is lost.
-/
import Transcripts.Proofs.Collection.Overlay
import Transcripts.Proofs.Project.Record
import Transcripts.Proofs.Tag.Changes

namespace Transcripts

open Transcripts.Steps
open Transcripts.Text

theorem Keyed.values_put_of_get? {κ ν α : Type} [DecidableEq κ] {m : Keyed κ ν}
    (hdistinct : (m.map Prod.fst).Nodup) {k : κ} {v v' : ν} (hget : m.get? k = some v)
    {seen : ν → α} (hseen : seen v' = seen v) : (m.put k v').values.map seen = m.values.map seen := by
  have hknown : k ∈ m.map Prod.fst := Keyed.mem_keys_iff.mpr ⟨v, hget⟩
  rw [put, if_pos (has_iff_mem_keys.mpr hknown), values, values, List.map_map, List.map_map, List.map_map]
  refine List.map_congr_left fun entry hentry => ?_
  by_cases hk : entry.1 = k
  · have hown : m.get? entry.1 = some entry.2 := get?_of_mem hdistinct hentry
    obtain rfl : v = entry.2 := Option.some.inj (hget.symm.trans (hk ▸ hown))
    simp [hk, hseen]
  · simp [hk]

namespace LegalRegistry

/-- What is done to a registry of references. -/
inductive Operation where
  | add (freshId : String) (category : LegalCategory) (label : String) (description : Option String)
  | archive (id : String)
  | restore (id : String)

/-- A new reference is given an id that no reference has. -/
def Operation.Fresh (registry : LegalRegistry) : Operation → Prop
  | .add freshId .. => freshId ∉ registry.map Prod.fst
  | .archive _ | .restore _ => True

/-- The registry that an operation leaves, refused or not. -/
def perform (registry : LegalRegistry) : Operation → LegalRegistry
  | .add freshId category label description =>
    stateOf (Call.add freshId category label description registry)
  | .archive id => stateOf (Call.setStatus id .archived registry)
  | .restore id => stateOf (Call.setStatus id .active registry)

/-- Each new id of a run is fresh when it is given. -/
def FreshThroughout : LegalRegistry → List Operation → Prop
  | _, [] => True
  | registry, operation :: run =>
    operation.Fresh registry ∧ FreshThroughout (registry.perform operation) run

instance (registry : LegalRegistry) : (operation : Operation) → Decidable (operation.Fresh registry)
  | .add freshId .. => inferInstanceAs (Decidable (freshId ∉ registry.map Prod.fst))
  | .archive _ | .restore _ => inferInstanceAs (Decidable True)

instance decidableFreshThroughout :
    (registry : LegalRegistry) → (run : List Operation) → Decidable (FreshThroughout registry run)
  | _, [] => inferInstanceAs (Decidable True)
  | registry, operation :: run =>
    have := decidableFreshThroughout (registry.perform operation) run
    inferInstanceAs (Decidable (operation.Fresh registry ∧ FreshThroughout (registry.perform operation) run))

/-- The reference that an operation makes, if any. -/
def Operation.made? : Operation → Option LegalReference
  | .add freshId category label description =>
    if isBlankText label then none
    else some { id := freshId, category := category, label := trimmed label, description := description }
  | .archive _ | .restore _ => none

theorem Operation.made?_cases {operation : Operation} {r : LegalReference} (h : operation.made? = some r) :
    ∃ freshId category label description, operation = .add freshId category label description ∧
      isBlankText label = false ∧ r = ⟨freshId, category, trimmed label, description, .active⟩ := by
  cases operation with
  | add freshId category label description =>
    rw [made?] at h
    split at h
    · cases h
    · next hlabel =>
      exact ⟨freshId, category, label, description, rfl, (Bool.not_eq_true _).mp hlabel, (Option.some.inj h).symm⟩
  | archive id => cases h
  | restore id => cases h

/-- The references as they were made, when all of them are active. -/
def asMade (registry : LegalRegistry) : List LegalReference :=
  registry.all.map fun r => { r with status := .active }

section Runs

variable {registry : LegalRegistry}

theorem perform_add (freshId : String) (category : LegalCategory) (label : String)
    (description : Option String) :
    registry.perform (.add freshId category label description) =
      match (Operation.add freshId category label description).made? with
      | none => registry
      | some r => Keyed.put registry freshId r := by
  rw [perform, Call.add_settled, add, Operation.made?]
  split
  · rfl
  · rfl

theorem stateOf_setStatus (id : String) (status : LegalStatus) :
    stateOf (Call.setStatus id status registry) =
      match Keyed.get? registry id with
      | none => registry
      | some r => Keyed.put registry id { r with status := status } := by
  rw [Call.setStatus_settled, setStatus]
  cases Keyed.get? registry id with
  | none => rfl
  | some r => rfl

theorem nodup_stateOf_setStatus (h : (registry.map Prod.fst).Nodup) (id : String) (status : LegalStatus) :
    ((stateOf (Call.setStatus id status registry)).map Prod.fst).Nodup := by
  rw [stateOf_setStatus]
  split
  · exact h
  · exact Keyed.nodup_keys_put h _ _

theorem nodup_keys_perform (h : (registry.map Prod.fst).Nodup) (operation : Operation) :
    ((registry.perform operation).map Prod.fst).Nodup := by
  cases operation with
  | add freshId category label description =>
    rw [perform_add]
    split
    · exact h
    · exact Keyed.nodup_keys_put h _ _
  | archive id => exact nodup_stateOf_setStatus h id .archived
  | restore id => exact nodup_stateOf_setStatus h id .active

theorem asMade_stateOf_setStatus (h : (registry.map Prod.fst).Nodup) (id : String) (status : LegalStatus) :
    asMade (stateOf (Call.setStatus id status registry)) = asMade registry := by
  rw [stateOf_setStatus]
  split
  · rfl
  · next r hr => exact Keyed.values_put_of_get? h hr rfl

theorem asMade_perform (h : (registry.map Prod.fst).Nodup) {operation : Operation}
    (hfresh : operation.Fresh registry) :
    asMade (registry.perform operation) = asMade registry ++ operation.made?.toList := by
  cases operation with
  | add freshId category label description =>
    rw [perform_add]
    cases hmade : (Operation.add freshId category label description).made? with
    | none => simp
    | some r =>
      have hactive : { r with status := .active } = r := by
        obtain ⟨_, _, _, _, _, _, rfl⟩ := Operation.made?_cases hmade
        rfl
      simp only [Keyed.put_of_not_mem hfresh]
      rw [asMade, all, Keyed.values, List.map_append, List.map_append, List.map_singleton,
        List.map_singleton, hactive]
      rfl
  | archive id => exact (asMade_stateOf_setStatus h id .archived).trans (List.append_nil _).symm
  | restore id => exact (asMade_stateOf_setStatus h id .active).trans (List.append_nil _).symm

theorem asMade_run (h : (registry.map Prod.fst).Nodup) {run : List Operation}
    (hfresh : FreshThroughout registry run) :
    asMade (run.foldl perform registry) = asMade registry ++ run.filterMap Operation.made? := by
  induction run generalizing registry with
  | nil => exact (List.append_nil _).symm
  | cons operation run ih =>
    rw [List.foldl_cons, ih (nodup_keys_perform h operation) hfresh.2, asMade_perform h hfresh.1,
      List.append_assoc]
    cases hmade : operation.made? with
    | none => rw [List.filterMap_cons_none hmade, Option.toList_none, List.nil_append]
    | some r => rw [List.filterMap_cons_some hmade, Option.toList_some, List.singleton_append]

/-- What a run from nothing holds has the descriptions that it was given. -/
theorem storable_run_iff {run : List Operation} (hfresh : FreshThroughout [] run) :
    (∀ r ∈ LegalRegistry.all (run.foldl perform []), r.Storable) ↔
      ∀ freshId category label, .add freshId category label (some "") ∈ run → isBlankText label = true := by
  have hnone : (([] : LegalRegistry).map Prod.fst).Nodup := List.nodup_nil
  have hmade : asMade (run.foldl perform []) = run.filterMap Operation.made? := asMade_run hnone hfresh
  calc
    (∀ r ∈ LegalRegistry.all (run.foldl perform []), r.Storable) ↔
        ∀ r ∈ asMade (run.foldl perform []), r.Storable := by
      rw [asMade, List.forall_mem_map]
      rfl
    _ ↔ ∀ operation ∈ run, ∀ r, operation.made? = some r → r.Storable := by
      rw [hmade]
      simp only [List.mem_filterMap]
      exact ⟨fun h operation hop r hr => h r ⟨operation, hop, hr⟩,
        fun h r ⟨operation, hop, hr⟩ => h operation hop r hr⟩
    _ ↔ _ := by
      constructor
      · intro h freshId category label hop
        by_contra hlabel
        exact h _ hop _ (if_neg hlabel) rfl
      · intro h operation hop r hr hempty
        obtain ⟨freshId, category, label, description, rfl, hlabel, rfl⟩ := Operation.made?_cases hr
        obtain rfl : description = some "" := hempty
        exact Bool.false_ne_true (hlabel.symm.trans (h _ _ _ hop))

end Runs

end LegalRegistry

namespace LegalReference

theorem read_eq_self_iff (r : LegalReference) :
    LegalReference.ofFields r.toFields = .ok r ↔ r.Storable := by
  refine ⟨fun h => storable_of_ofFields h, ofFields_toFields⟩

end LegalReference

/-- **Which records are read as they were made.**  Whatever was made and renamed in a
    store of tags, each tag is read as it was written.  Of the legal references that
    were added, archived and restored, with ids that were fresh, each is read as it was
    written but for an empty description, which is read as none.  So all are read as
    they were written exactly if none was added with an empty description. -/
theorem made_records_are_read (tagRun : List TagStore.Operation) {run : List LegalRegistry.Operation}
    (hfresh : LegalRegistry.FreshThroughout [] run) :
    let references := LegalRegistry.all (run.foldl LegalRegistry.perform [])
    (∀ t ∈ tagRun.foldl TagStore.perform [], Tag.ofFields t.toFields = .ok t) ∧
      (∀ r ∈ references, LegalReference.ofFields r.toFields =
        .ok { r with description := r.description.filter (!·.isEmpty) }) ∧
      ((∀ r ∈ references, LegalReference.ofFields r.toFields = .ok r) ↔
        ∀ freshId category label, .add freshId category label (some "") ∈ run →
          isBlankText label = true) := by
  intro references
  refine ⟨fun t _ => t.ofFields_toFields, fun r _ => r.ofFields_written, ?_⟩
  simp only [LegalReference.read_eq_self_iff]
  exact LegalRegistry.storable_run_iff hfresh

/-- References are added with a description, without one and, under a label that is
    refused, with an empty one; two are archived, one of which is not there. -/
def filingRun : List LegalRegistry.Operation :=
  [.add "r1" .article " Art. 21.º " none, .add "r2" .fact "Entrega" (some "às 22h"), .archive "r1",
    .add "r3" .tag " " (some ""), .archive "r9", .restore "r1", .archive "r2"]

theorem made_records_are_read_filing :
    LegalRegistry.FreshThroughout [] filingRun ∧
      LegalRegistry.all (filingRun.foldl LegalRegistry.perform []) =
        [⟨"r1", .article, "Art. 21.º", none, .active⟩, ⟨"r2", .fact, "Entrega", some "às 22h", .archived⟩] ∧
      ∀ r ∈ LegalRegistry.all (filingRun.foldl LegalRegistry.perform []),
        LegalReference.ofFields r.toFields = .ok r := by
  have hfresh : LegalRegistry.FreshThroughout [] filingRun := by decide +kernel
  refine ⟨hfresh, by decide +kernel, (made_records_are_read [] hfresh).2.2.mpr ?_⟩
  intro freshId category label hadded
  have hlabel : label = " " := by simp_all [filingRun]
  rw [hlabel]
  decide +kernel

/-- A reference that is added with an empty description is read as one without. -/
theorem empty_description_is_lost :
    let references := LegalRegistry.all
      ([.add "r1" .tag "Burla" (some "")].foldl LegalRegistry.perform [])
    references = [⟨"r1", .tag, "Burla", some "", .active⟩] ∧
      references.map (fun r => LegalReference.ofFields r.toFields) =
        [.ok ⟨"r1", .tag, "Burla", none, .active⟩] := by
  decide +kernel

end Transcripts
