/-
  Transcripts/Proofs/Workspace/Deleting.lean
  ==========================================
  **A search after deletions finds what it found before, less what is gone.**

  Whether a session is accepted depends on nothing but itself, and a stable sort
  puts any part of a list in the order in which it puts the whole.  So sessions
  can be taken out before a search or from its result.  The selection loses the
  ids that are gone, and no others: a session that stays is selected if it was.
-/
import Mathlib.Data.Finset.Card
import Transcripts.Proofs.Search.Stability
import Transcripts.Proofs.Session.OrderedMap
import Transcripts.Proofs.Workspace.Searching

namespace Transcripts

open Transcripts.Identity
open Transcripts.Search

namespace Search

/-! ### Searching in a part of the sessions -/

theorem filterSessions_filter {sessions found : List Session} {f : Filters} {scope scope' : Scope}
    {context : Context} (h : filterSessions sessions f scope context = .ok found) {kept : Session → Bool}
    (hscope : ∀ s ∈ sessions, kept s = true → scope'.admits s = scope.admits s) :
    filterSessions (sessions.filter kept) f scope' context = .ok (found.filter kept) := by
  obtain ⟨p, hp, h⟩ := exists_of_bind_eq_ok h
  obtain ⟨hall, rfl⟩ := filterM_eq_ok_iff.mp h
  have hadmitted : (sessions.filter kept).filter scope'.admits =
      (sessions.filter scope.admits).filter kept := by
    rw [List.filter_filter, List.filter_filter]
    apply List.filter_congr
    intro s hs
    cases hkept : kept s with
    | false => simp
    | true => simp [hscope s hs hkept]
  rw [filterSessions, hp]
  refine filterM_eq_ok_iff.mpr ⟨?_, ?_⟩
  · intro s hs
    rw [hadmitted] at hs
    exact hall s (List.mem_filter.mp hs).1
  · rw [hadmitted]
    exact List.filter_comm _ _ _

end Search

namespace SessionStore

/-! ### Counting what is gone -/

/-- As many sessions have one of some ids as there are distinct ids of sessions
    among these. -/
theorem card_inter_ids {store : SessionStore} (h : (store.map (·.id)).Nodup) (gone : List String) :
    (gone.toFinset ∩ (store.map (·.id)).toFinset).card =
      (store.filter fun s => gone.contains s.id).length := by
  have hdistinct := nodup_ids_filter h fun s => gone.contains s.id
  rw [← List.length_map (·.id), ← List.toFinset_card_of_nodup hdistinct]
  congr 1
  ext id
  simp only [Finset.mem_inter, List.mem_toFinset, List.mem_map, List.mem_filter, List.contains_iff_mem]
  constructor
  · rintro ⟨hgone, s, hs, rfl⟩
    exact ⟨s, ⟨hs, hgone⟩, rfl⟩
  · rintro ⟨s, ⟨hs, hgone⟩, rfl⟩
    exact ⟨hgone, s, hs, rfl⟩

end SessionStore

namespace Workspace

/-! ### Deleting and searching -/

variable {w : Workspace} {ids : List String}

/-- Sessions are taken out, and their ids from the selection. -/
theorem search_dropWhere (h : w.Distinct) (hsearch : w.search = .ok ids) {doomed : Session → Bool}
    {gone : List String} (hgone : ∀ s ∈ w.sessions, gone.contains s.id = doomed s) :
    ({ w with sessions := (w.sessions.dropWhere doomed).1 }.deselect gone).search =
      .ok (ids.filter fun id => !gone.contains id) := by
  obtain ⟨accepted, found, haccepted, hsub, hsorted, rfl⟩ := search_cases h hsearch
  let w' : Workspace := { w with sessions := (w.sessions.dropWhere doomed).1 }.deselect gone
  have hscope : ∀ s ∈ w.sessions, (!doomed s) = true → w'.scope.admits s = w.scope.admits s := by
    intro s hs hkept
    have hselected : w'.selection.contains s.id = w.selection.contains s.id := by
      rw [Bool.eq_iff_iff, List.contains_iff_mem, List.contains_iff_mem]
      refine TextSet.mem_without.trans (and_iff_left ?_)
      rw [← List.contains_iff_mem, hgone s hs]
      simpa using hkept
    simp only [Scope.admits, scope, hselected]
    rfl
  have haccepted' : filterSessions w'.sessions w'.filters w'.scope w'.context =
      .ok (accepted.filter (!doomed ·)) := filterSessions_filter haccepted hscope
  have hsorted' : sortSessions w'.sort w'.aliases (accepted.filter (!doomed ·)) =
      .ok (found.filter (!doomed ·)) := sortSessions_filter hsorted _
  have hids : (found.filter (!doomed ·)).map (·.id) =
      (found.map (·.id)).filter fun id => !gone.contains id := by
    rw [List.filter_map]
    refine congrArg _ (List.filter_congr fun s hs => ?_)
    have hstored : s ∈ w.sessions := hsub.subset ((perm_of_sortSessions hsorted).subset hs)
    rw [Function.comp_apply, hgone s hstored]
  rw [← hids]
  exact search_of_accepted (w := w') (SessionStore.nodup_ids_filter h.sessions _) haccepted' hsorted'

/-- The ids of the sessions that come from some source files. -/
def idsFrom (w : Workspace) (names : List String) : List String :=
  (w.sessions.filter fun s => names.contains s.sourceLabel).map (·.id)

theorem contains_idsFrom (h : w.Distinct) (names : List String) :
    ∀ s ∈ w.sessions, (w.idsFrom names).contains s.id = names.contains s.sourceLabel := by
  intro s hs
  rw [Bool.eq_iff_iff, List.contains_iff_mem, idsFrom, List.mem_map]
  constructor
  · rintro ⟨t, ht, hid⟩
    obtain ⟨ht, hnamed⟩ := List.mem_filter.mp ht
    obtain rfl : t = s := List.inj_on_of_nodup_map h.sessions ht hs hid
    exact hnamed
  · intro hnamed
    exact ⟨s, List.mem_filter.mpr ⟨hs, hnamed⟩, rfl⟩

/-- **Deletions and searches commute.**  After sessions were deleted, by their ids
    or with their source files, a search finds what it found before without them,
    in the same order.  Told is how many of the ids were those of sessions, each
    counted once, or how many sessions came from the files. -/
theorem search_after_deletion (h : Reachable w) (hsearch : w.search = .ok ids)
    (gone names : List String) :
    ((w.deleteSessions gone).1.search = .ok (ids.filter fun id => !gone.contains id) ∧
      (w.deleteSessions gone).2 = (gone.toFinset ∩ (w.sessions.map (·.id)).toFinset).card) ∧
    ((w.deleteSourceFiles names).1.search =
        .ok (ids.filter fun id => !(w.idsFrom names).contains id) ∧
      (w.deleteSourceFiles names).2 = (w.idsFrom names).length) := by
  have hdistinct := distinct_of_reachable h
  refine ⟨⟨?_, ?_⟩, ?_, ?_⟩
  · exact search_dropWhere hdistinct hsearch fun _ _ => rfl
  · rw [SessionStore.card_inter_ids hdistinct.sessions]
    exact SessionStore.length_dropWhere w.sessions _
  · exact search_dropWhere hdistinct hsearch (contains_idsFrom hdistinct names)
  · rw [idsFrom, List.length_map]
    exact SessionStore.length_dropWhere w.sessions _

/-- One of the ids is given twice and one is no session's; sessions without a
    source file are listed under a name of their own. -/
theorem search_after_deletion_whoGreets :
    (((mergedCalls.commit whoGreets).deleteSessions ["s1", "s9", "s1", "s4"]).1.search =
        .ok ["s2", "s3"] ∧
      ((mergedCalls.commit whoGreets).deleteSessions ["s1", "s9", "s1", "s4"]).2 = 2) ∧
    (((mergedCalls.commit whoGreets).deleteSourceFiles ["Unknown"]).1.search = .ok [] ∧
      ((mergedCalls.commit whoGreets).deleteSourceFiles ["Unknown"]).2 = 4) := by
  have hreachable : Reachable (mergedCalls.commit whoGreets) :=
    .perform reachable_mergedCalls (.search whoGreets)
  exact search_after_deletion hreachable search_whoGreets ["s1", "s9", "s1", "s4"] ["Unknown"]

end Workspace

end Transcripts
