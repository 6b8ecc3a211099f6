/-
  Transcripts/Proofs/Search/Relinking.lean
  ========================================
  **What a search reads of legal references.**

  Of all that is registered under an id a search reads the category and the label,
  and of the links of a session only which labels they lead to.  So sessions may be
  linked to other references, and references may be changed, without a search being
  able to tell, as long as each session is led to the same labels.  An id that is not
  registered leads to none.
-/
import Transcripts.Proofs.Collection.Overlay
import Transcripts.Proofs.Search.Ordering

namespace Transcripts

open Transcripts.Calendar
open Transcripts.Identity
open Transcripts.Search

/-! ### Labels -/

namespace LegalRegistry

variable {registry registry' : LegalRegistry} {ids : List String} {id ref label : String}
  {category : LegalCategory}

/-- The category and the label of the reference under an id. -/
def labelled? (registry : LegalRegistry) (id : String) : Option (LegalCategory × String) :=
  (Keyed.get? registry id).map fun r => (r.category, r.label)

theorem mem_labelsFor : label ∈ registry.labelsFor ids category ↔
    ∃ id ∈ ids, registry.labelled? id = some (category, label) := by
  rw [labelsFor, TextSet.mem_ofList, List.mem_filterMap]
  apply exists_congr
  intro id
  apply and_congr_right
  intro _
  rw [labelled?]
  cases Keyed.get? registry id with
  | none => simp
  | some r => by_cases hcategory : r.category = category <;> simp [hcategory]

theorem labelled?_of_unregistered (h : ref ∉ registry.map Prod.fst) : registry.labelled? ref = none := by
  rw [labelled?, Keyed.get?_eq_none_iff.mpr h]
  rfl

/-- A link to what is not registered may come or go. -/
theorem mem_labelsFor_without (h : registry.labelled? ref = none) :
    label ∈ registry.labelsFor (TextSet.without ids [ref]) category ↔
      label ∈ registry.labelsFor ids category := by
  rw [mem_labelsFor, mem_labelsFor]
  apply exists_congr
  intro id
  rw [TextSet.mem_without, List.mem_singleton, and_assoc]
  apply and_congr_right
  intro _
  apply and_iff_right_of_imp
  rintro hlabel rfl
  rw [h] at hlabel
  simp at hlabel

theorem mem_labelsFor_congr (h : ∀ id ∈ ids, registry'.labelled? id = registry.labelled? id) :
    label ∈ registry'.labelsFor ids category ↔ label ∈ registry.labelsFor ids category := by
  rw [mem_labelsFor, mem_labelsFor]
  apply exists_congr
  intro id
  apply and_congr_right
  intro hid
  rw [h id hid]

theorem labelled?_put (r : LegalReference) :
    labelled? (Keyed.put registry ref r) id =
      if id = ref then some (r.category, r.label) else registry.labelled? id := by
  rw [labelled?, Keyed.get?_put]
  by_cases hid : id = ref
  · simp [hid]
  · simp [hid, labelled?]

theorem labelled?_add {description : Option String} {r : LegalRegistry × LegalReference}
    (hadd : registry.add ref category label description = .ok r) (hne : id ≠ ref) :
    r.1.labelled? id = registry.labelled? id := by
  rw [add] at hadd
  split at hadd
  · simp at hadd
  · rw [← Except.ok.inj hadd, labelled?_put, if_neg hne]

/-- Archiving and reviving change neither category nor label. -/
theorem labelled?_setStatus {status : LegalStatus} {r : LegalRegistry × LegalReference}
    (hset : registry.setStatus ref status = .ok r) (id : String) :
    r.1.labelled? id = registry.labelled? id := by
  rw [setStatus] at hset
  split at hset
  · simp at hset
  · next found hfound =>
    rw [← Except.ok.inj hset, labelled?_put]
    split
    · next hid => rw [hid, labelled?, hfound]; rfl
    · rfl

end LegalRegistry

/-- A session with other links. -/
def Session.relinked (s : Session) (refs : TextSet) : Session := { s with legalReferenceIds := refs }

namespace Search

/-! ### Searching sessions with other links -/

variable {links : Session → TextSet}

/-- Sessions are led to the same labels, by their own links in one registry and by other
    links in another. -/
def SameLabels (registry registry' : LegalRegistry) (s : Session) (refs : TextSet) : Prop :=
  ∀ (category : LegalCategory) (label : String),
    label ∈ registry'.labelsFor refs category ↔ label ∈ registry.labelsFor s.legalReferenceIds category

theorem meetsLegal_relinked {registry registry' : LegalRegistry} {s : Session} {refs : TextSet}
    (h : SameLabels registry registry' s refs) (category : LegalCategory) (wanted : List String) :
    meetsLegal (some registry') category wanted (s.relinked refs) =
      meetsLegal (some registry) category wanted s := by
  have hany : (registry'.labelsFor refs category).any wanted.contains =
      (registry.labelsFor s.legalReferenceIds category).any wanted.contains := by
    rw [Bool.eq_iff_iff, List.any_eq_true, List.any_eq_true]
    simp only [h category]
  exact congrArg (wanted.isEmpty || ·) hany

theorem accepts_relinked {registry registry' : LegalRegistry} {s : Session} {refs : TextSet}
    (h : SameLabels registry registry' s refs) (p : Prepared) (aliases : AliasMap)
    (speaker : SpeakerFinder) :
    p.accepts { aliases, legal := some registry', speaker } (s.relinked refs) =
      p.accepts { aliases, legal := some registry, speaker } s := by
  have hundated : p.meetsUndated { aliases, legal := some registry', speaker } (s.relinked refs) =
      p.meetsUndated { aliases, legal := some registry, speaker } s := by
    simp only [Prepared.meetsUndated, meetsLegal_relinked h]
    rfl
  rw [Prepared.accepts, hundated]
  rfl

theorem filterSessions_relinked {sessions : List Session} {scope scope' : Scope}
    {registry registry' : LegalRegistry} (f : Filters) (aliases : AliasMap) (speaker : SpeakerFinder)
    (hscope : ∀ s ∈ sessions, scope'.admits s = scope.admits s)
    (hlabels : ∀ s ∈ sessions, SameLabels registry registry' s (links s)) :
    filterSessions (sessions.map fun s => s.relinked (links s)) f scope'
        { aliases, legal := some registry', speaker } =
      (filterSessions sessions f scope { aliases, legal := some registry, speaker }).map
        (List.map fun s => s.relinked (links s)) := by
  have hadmitted : (sessions.map fun s => s.relinked (links s)).filter scope'.admits =
      (sessions.filter scope.admits).map fun s => s.relinked (links s) := by
    rw [List.filter_map]
    exact congrArg _ (List.filter_congr hscope)
  rw [filterSessions, filterSessions, hadmitted]
  cases prepare f with
  | error fault => rfl
  | ok p =>
    apply filterM_map
    intro s hs
    exact accepts_relinked (hlabels s (List.mem_filter.mp hs).1) p aliases speaker

/-- Changing the sessions, not their keys, and then sorting is sorting and then changing them. -/
theorem sortByKey_map {κ : Type} (cmp : κ → κ → Ordering) (descending : Bool)
    (keyed : List (κ × Session)) (change : Session → Session) :
    sortByKey cmp descending (keyed.map fun entry => (entry.1, change entry.2)) =
      (sortByKey cmp descending keyed).map change := by
  let le : κ × Session → κ × Session → Bool := inOrder (fun a b => cmp a.1 b.1) descending
  let beside (entry : κ × Session) : κ × Session := (entry.1, change entry.2)
  have hsorted : (keyed.mergeSort le).map beside = (keyed.map beside).mergeSort le :=
    List.map_mergeSort fun a _ b _ => rfl
  show ((keyed.map beside).mergeSort le).map (·.2) = ((keyed.mergeSort le).map (·.2)).map change
  rw [← hsorted, List.map_map, List.map_map]
  rfl

/-- No order looks at the links. -/
theorem sortSessions_relinked (option : SortOption) (aliases : AliasMap) (sessions : List Session) :
    sortSessions option aliases (sessions.map fun s => s.relinked (links s)) =
      (sortSessions option aliases sessions).map (List.map fun s => s.relinked (links s)) := by
  let change (s : Session) : Session := s.relinked (links s)
  have hdate (descending : Bool) :
      sortedByDate descending (sessions.map change) = (sortedByDate descending sessions).map (List.map change) := by
    have hkeyed : (sessions.map change).mapM (fun s => do return (← dateKey s, s)) =
        (sessions.mapM fun s => do return (← dateKey s, s)).map
          (List.map fun entry : DateKey × Session => (entry.1, change entry.2)) := by
      apply mapM_map
      intro s _
      have hkey : dateKey (change s) = dateKey s := rfl
      rw [hkey]
      cases dateKey s with
      | error fault => rfl
      | ok key => rfl
    rw [sortedByDate, sortedByDate, hkeyed]
    cases sessions.mapM (fun s => do return (← dateKey s, s) : Session → Except Oversize _) with
    | error fault => rfl
    | ok keyed => exact congrArg Except.ok (sortByKey_map _ _ keyed change)
  have hkey {κ : Type} (cmp : κ → κ → Ordering) (descending : Bool) (key : Session → κ)
      (hsame : ∀ s, key (change s) = key s) :
      sortByKey cmp descending ((sessions.map change).map fun s => (key s, s)) =
        (sortByKey cmp descending (sessions.map fun s => (key s, s))).map change := by
    rw [← sortByKey_map, List.map_map, List.map_map]
    refine congrArg _ (List.map_congr_left fun s _ => ?_)
    rw [Function.comp_apply, hsame]
    rfl
  cases option with
  | dateDescending => exact hdate true
  | dateAscending => exact hdate false
  | durationDescending | sourceNumber | destinationNumber | sourceName | destinationName =>
    exact congrArg Except.ok (hkey _ _ _ fun _ => rfl)

end Search

end Transcripts
