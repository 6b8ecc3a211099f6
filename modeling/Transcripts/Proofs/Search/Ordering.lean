/-
  Transcripts/Proofs/Search/Ordering.lean
  =======================================
  **In which order sessions are found.**

  Sessions are sorted with their keys beside them, and the keys are dropped in the
  end.  That is the same as sorting the sessions themselves by how their keys
  compare.  The sort is stable in both directions: a descending order turns the
  comparison round, not the list, so sessions with equal keys stay as they came.
-/
import Mathlib.Data.List.Nodup
import Mathlib.Data.List.Perm.Basic
import Transcripts.Proofs.Search.Totality

namespace Transcripts

open Transcripts.Calendar
open Transcripts.Identity

/-! ### Comparing by a key -/

theorem transCmp_on {α κ : Type} (key : α → κ) (cmp : κ → κ → Ordering) [Std.TransCmp cmp] :
    Std.TransCmp fun a b => cmp (key a) (key b) where
  eq_swap := Std.OrientedCmp.eq_swap
  isLE_trans := Std.TransCmp.isLE_trans

instance : Std.TransCmp Date.compare :=
  inferInstanceAs (Std.TransCmp (compareLex (compareOn Date.year)
    (compareLex (compareOn Date.month) (compareOn Date.day))))

/-! ### Stable sorting -/

section Stable

variable {α : Type} {cmp : α → α → Ordering} {l : List α} {a b : α}

theorem pair_sublist_or (ha : a ∈ l) (hb : b ∈ l) (hne : a ≠ b) :
    [a, b].Sublist l ∨ [b, a].Sublist l := by
  induction l with
  | nil => exact absurd ha List.not_mem_nil
  | cons c l ih =>
    rcases List.mem_cons.mp ha with rfl | hal
    · have hbl : b ∈ l := List.mem_of_ne_of_mem hne.symm hb
      exact .inl ((List.singleton_sublist.mpr hbl).cons_cons a)
    · rcases List.mem_cons.mp hb with rfl | hbl
      · exact .inr ((List.singleton_sublist.mpr hal).cons_cons b)
      · rcases ih hal hbl with h | h
        · exact .inl (h.cons c)
        · exact .inr (h.cons c)

theorem not_pair_sublist_swap (hl : l.Nodup) (h : [a, b].Sublist l) : ¬ [b, a].Sublist l := by
  intro hswap
  have heq := (List.Nodup.perm_iff_eq_of_sublist hl h hswap).mp (List.Perm.swap b a [])
  obtain rfl : a = b := (List.cons.inj heq).1
  exact List.nodup_iff_sublist.mp hl a h

/-- What sorting by a comparison, in either direction, asks of two neighbours. -/
def inOrder (cmp : α → α → Ordering) (descending : Bool) (a b : α) : Bool :=
  if descending then (cmp a b).isGE else (cmp a b).isLE

section Laws

variable (cmp : α → α → Ordering) (descending : Bool)

theorem lt_of_inOrder {a b : α} (h : inOrder cmp descending a b = true) (hne : cmp a b ≠ .eq) :
    cmp a b = if descending then .gt else .lt := by
  cases descending <;> cases hcmp : cmp a b <;> simp_all [inOrder]

variable [Std.TransCmp cmp]

theorem inOrder_trans (a b c : α) (hab : inOrder cmp descending a b = true)
    (hbc : inOrder cmp descending b c = true) : inOrder cmp descending a c = true := by
  cases descending with
  | true => exact Std.TransCmp.isGE_trans hab hbc
  | false => exact Std.TransCmp.isLE_trans hab hbc

theorem inOrder_total (a b : α) :
    (inOrder cmp descending a b || inOrder cmp descending b a) = true := by
  have hswap : cmp b a = (cmp a b).swap := Std.OrientedCmp.eq_swap
  simp only [inOrder, hswap]
  cases descending <;> cases cmp a b <;> rfl

theorem inOrder_of_eq {a b : α} (h : cmp a b = .eq) : inOrder cmp descending b a = true := by
  have hswap : cmp b a = (cmp a b).swap := Std.OrientedCmp.eq_swap
  cases descending <;> simp [inOrder, hswap, h]

end Laws

/-- **A stable sort.**  Of two elements the first one has the smaller key, or the
    greater one if the order descends; or their keys are equal, and it came first
    in the list that was sorted. -/
theorem pairwise_mergeSort_stable [Std.TransCmp cmp] (descending : Bool) (hl : l.Nodup) :
    (l.mergeSort (inOrder cmp descending)).Pairwise fun a b =>
      cmp a b = (if descending then .gt else .lt) ∨ cmp a b = .eq ∧ [a, b].Sublist l := by
  have htrans := inOrder_trans cmp descending
  have htotal := inOrder_total cmp descending
  have hperm := List.mergeSort_perm l (inOrder cmp descending)
  have hdistinct := hperm.nodup_iff.mpr hl
  have hsorted := List.pairwise_mergeSort htrans htotal l
  rw [List.pairwise_iff_forall_sublist] at hsorted ⊢
  intro a b hab
  by_cases heq : cmp a b = .eq
  · right
    have hne : a ≠ b := by
      rintro rfl
      exact List.nodup_iff_sublist.mp hdistinct a hab
    have ha : a ∈ l := hperm.mem_iff.mp (hab.subset (by simp))
    have hb : b ∈ l := hperm.mem_iff.mp (hab.subset (by simp))
    rcases pair_sublist_or ha hb hne with hfirst | hlast
    · exact ⟨heq, hfirst⟩
    · -- with equal keys the sort would have kept them the other way round
      have hkept := List.pair_sublist_mergeSort htrans htotal (inOrder_of_eq cmp descending heq) hlast
      exact absurd hkept (not_pair_sublist_swap hdistinct hab)
  · left
    exact lt_of_inOrder cmp descending (hsorted hab) heq

end Stable

namespace Search

/-! ### The keys of the options -/

instance : Std.TransCmp DateKey.compare :=
  have : Std.TransCmp fun a b : DateKey => Date.compare a.date b.date := transCmp_on _ _
  inferInstanceAs (Std.TransCmp (compareLex (fun a b : DateKey => Date.compare a.date b.date)
    (compareOn DateKey.startTime)))

/-- Date and start time of a session, where its date is not refused. -/
def knownDateKey (s : Session) : DateKey := ⟨(knownDate s).getD .first, s.startTime.getD ""⟩

/-- How two sessions compare by the key of an option. -/
def SortOption.compare (option : SortOption) (aliases : AliasMap) (s t : Session) : Ordering :=
  let shown (identities : Session → List (Option String)) (s : Session) : String :=
    identityKey ((identities s).map aliases.resolve)
  let byIdentity (identities : Session → List (Option String)) : Ordering :=
    Ord.compare (shown identities s) (shown identities t)
  match option with
  | .dateDescending | .dateAscending => DateKey.compare (knownDateKey s) (knownDateKey t)
  | .durationDescending =>
    Ord.compare (durationSeconds (s.duration.getD "")) (durationSeconds (t.duration.getD ""))
  | .sourceNumber => byIdentity fun s => [s.sourceNumber]
  | .destinationNumber => byIdentity fun s => [s.destinationNumber]
  | .sourceName => byIdentity fun s => [s.sourceName, s.sourceNumber]
  | .destinationName => byIdentity fun s => [s.destinationName, s.destinationNumber]

def SortOption.descends : SortOption → Bool
  | .dateDescending | .durationDescending => true
  | _ => false

instance (option : SortOption) (aliases : AliasMap) : Std.TransCmp (option.compare aliases) := by
  cases option with
  | dateDescending | dateAscending => exact transCmp_on knownDateKey DateKey.compare
  | durationDescending =>
    exact transCmp_on (fun s : Session => durationSeconds (s.duration.getD "")) Ord.compare
  | sourceNumber | destinationNumber | sourceName | destinationName =>
    exact transCmp_on (fun s : Session => identityKey _) Ord.compare

/-- Sorting with the keys beside is sorting by the keys. -/
theorem sortByKey_eq {κ : Type} (cmp : κ → κ → Ordering) (descending : Bool) (key : Session → κ)
    (sessions : List Session) :
    sortByKey cmp descending (sessions.map fun s => (key s, s)) =
      sessions.mergeSort (inOrder (fun s t => cmp (key s) (key t)) descending) := by
  have hsessions : (sessions.map fun s => (key s, s)).map (·.2) = sessions := by
    rw [List.map_map]
    exact List.map_id _
  rw [sortByKey, List.map_mergeSort, hsessions]
  intro a ha b hb
  obtain ⟨s, _, rfl⟩ := List.mem_map.mp ha
  obtain ⟨t, _, rfl⟩ := List.mem_map.mp hb
  rfl

theorem sortedByDate_eq {descending : Bool} {sessions sorted : List Session}
    (h : sortedByDate descending sessions = .ok sorted) :
    sorted = sessions.mergeSort (inOrder (fun s t => DateKey.compare (knownDateKey s) (knownDateKey t))
      descending) := by
  have hread := sortedByDate_returns_iff.mp ⟨sorted, h⟩
  have hkeyed : ∀ s ∈ sessions, (do return (← dateKey s, s) : Except Oversize (DateKey × Session)) =
      .ok (knownDateKey s, s) := by
    intro s hs
    rw [dateKey, sessionDate_eq (readDotted_returns_iff.mpr (hread s hs))]
    rfl
  rw [sortedByDate, mapM_eq_ok hkeyed] at h
  rw [← Except.ok.inj h]
  exact sortByKey_eq DateKey.compare descending knownDateKey sessions

theorem sortSessions_eq {option : SortOption} {aliases : AliasMap} {sessions sorted : List Session}
    (h : sortSessions option aliases sessions = .ok sorted) :
    sorted = sessions.mergeSort (inOrder (option.compare aliases) option.descends) := by
  cases option with
  | dateDescending | dateAscending => exact sortedByDate_eq h
  | durationDescending | sourceNumber | destinationNumber | sourceName | destinationName =>
    rw [← Except.ok.inj h]
    exact sortByKey_eq _ _ _ _

/-- Whether a session comes before another by its key, in the direction of the
    option, or has the same key and came before it in a list. -/
def SortOption.Precedes (option : SortOption) (aliases : AliasMap) (given : List Session)
    (s t : Session) : Prop :=
  option.compare aliases s t = (if option.descends then .gt else .lt) ∨
    option.compare aliases s t = .eq ∧ [s, t].Sublist given

theorem pairwise_sortSessions {option : SortOption} {aliases : AliasMap}
    {sessions sorted : List Session} (hdistinct : sessions.Nodup)
    (h : sortSessions option aliases sessions = .ok sorted) :
    sorted.Pairwise (option.Precedes aliases sessions) := by
  rw [sortSessions_eq h]
  exact pairwise_mergeSort_stable option.descends hdistinct

end Search

end Transcripts
