/-
  Transcripts/Proofs/Workspace/Capturing.lean
  ===========================================
  **A result that is kept is found again.**

  What a search finds depends on criteria, on tags, on the selection and on the
  aliases.  A tag or a selection made of the result carries nothing of this but
  the ids.  That is enough: a search for everything among these ids goes through
  the same sessions in the same order, so it finds them all, and it sorts them
  as before, those with equal keys too.
-/
import Transcripts.Proofs.Search.Alternatives
import Transcripts.Proofs.Workspace.Searching

namespace Transcripts

open Transcripts.Search
open Transcripts.Text

/-! ### What a tag and a selection admit -/

namespace TagStore

/-- A tag with an id that no other has is the whole scope of its id. -/
theorem mem_scope_cons_of_fresh {store : TagStore} {tag : Tag} (hfresh : tag.id ∉ store.map (·.id))
    {x : String} : x ∈ scope (tag :: store) [tag.id] ↔ x ∈ tag.sessionIds := by
  rw [mem_scope]
  constructor
  · rintro ⟨t, ht, hid, hx⟩
    rcases List.mem_cons.mp ht with rfl | ht
    · exact hx
    · have hmem : t.id ∈ store.map (·.id) := List.mem_map_of_mem ht
      rw [List.mem_singleton.mp hid] at hmem
      exact absurd hmem hfresh
  · intro hx
    exact ⟨tag, List.mem_cons_self, List.mem_singleton_self _, hx⟩

theorem create_of_name (store : TagStore) (stamp : Stamp) {name : String}
    (hname : isBlankText name = false) (ids : List String) (description : Option String)
    (fromSelection : Bool) :
    ∃ tag : Tag, store.create stamp name ids description fromSelection = .ok (tag :: store, tag) ∧
      tag.id = stamp.id ∧ tag.sessionIds = firstOccurrences ids := by
  rw [create, hname]
  exact ⟨_, rfl, rfl, rfl⟩

end TagStore

namespace Workspace

variable {w : Workspace} {ids : List String}

/-- A tag made without sessions and without a selection holds what is found. -/
theorem createTag_of_search (hselection : w.selection = []) (hsearch : w.search = .ok ids)
    (stamp : TagStore.Stamp) {name : String} (hname : isBlankText name = false) :
    ∃ tag : Tag, w.createTag stamp name none = .ok ({ w with tags := tag :: w.tags }, tag) ∧
      tag.id = stamp.id ∧ tag.sessionIds = firstOccurrences ids := by
  obtain ⟨tag, hcreate, hid, hsessions⟩ :=
    w.tags.create_of_name stamp hname ids none false
  refine ⟨tag, ?_, hid, hsessions⟩
  rw [createTag, hselection, hsearch]
  simp [bind, Except.bind, pure, Except.pure, Except.mapError, hcreate]

theorem selectAll_of_search (hsearch : w.search = .ok ids) :
    w.selectAll none = .ok { w with selection := .ofList ids } := by
  rw [selectAll, hsearch]
  rfl

/-! ### Searching for everything in a scope -/

/-- A search without criteria, in a scope that admits exactly the sessions of a
    result, has that result. -/
theorem search_of_scope {w' : Workspace} (h : w.Distinct) (hsearch : w.search = .ok ids)
    (hsessions : w'.sessions = w.sessions) (haliases : w'.aliases = w.aliases)
    (hsort : w'.sort = w.sort) (hfilters : w'.filters = {})
    (hscope : ∀ s ∈ w.sessions, w'.scope.admits s = ids.contains s.id) : w'.search = .ok ids := by
  obtain ⟨accepted, found, _, hsub, hsorted, rfl⟩ := search_cases h hsearch
  have hperm : (found.map (·.id)).Perm (accepted.map (·.id)) := (perm_of_sortSessions hsorted).map _
  have hadmitted : w.sessions.filter w'.scope.admits = accepted := by
    rw [← SessionStore.filter_ids h.sessions hsub]
    apply List.filter_congr
    intro s hs
    rw [hscope s hs, hperm.contains_eq]
  have haccepted : filterSessions w'.sessions w'.filters w'.scope w'.context = .ok accepted := by
    rw [hsessions, hfilters, filterSessions_unset, hadmitted]
  apply search_of_accepted (hsessions ▸ h.sessions) haccepted
  rw [hsort, haliases, hsorted]

/-- **A result that is kept is found again.**  If nothing is selected, a new tag
    holds what the search finds, and a search for everything in this tag alone has
    the same result in the same order; so has a search for everything that is
    selected, once the result is. -/
theorem search_captured (h : Reachable w) (hselection : w.selection = []) (hsearch : w.search = .ok ids)
    (stamp : TagStore.Stamp) (hfresh : stamp.id ∉ w.tags.map (·.id)) {name : String}
    (hname : isBlankText name = false) :
    (∃ w' tag, w.createTag stamp name none = .ok (w', tag) ∧ tag.id = stamp.id ∧
      (w'.commit { filters := some {}, activeTags := some [tag.id], viewOnly := some false }).search =
        .ok ids) ∧
    ∃ w', w.selectAll none = .ok w' ∧
      (w'.commit { filters := some {}, activeTags := some [], viewOnly := some true }).search =
        .ok ids := by
  have hdistinct := distinct_of_reachable h
  constructor
  · obtain ⟨tag, hcreate, hid, hheld⟩ := createTag_of_search hselection hsearch stamp hname
    refine ⟨_, tag, hcreate, hid, ?_⟩
    refine search_of_scope hdistinct hsearch rfl rfl rfl rfl ?_
    intro s _
    have hscope : s.id ∈ TagStore.scope (tag :: w.tags) [tag.id] ↔ s.id ∈ ids := by
      rw [TagStore.mem_scope_cons_of_fresh (hid ▸ hfresh), hheld, mem_firstOccurrences]
    rw [Bool.eq_iff_iff, List.contains_iff_mem, ← hscope]
    simp [Scope.admits, scope, commit, firstOccurrences]
  · refine ⟨_, selectAll_of_search hsearch, ?_⟩
    refine search_of_scope hdistinct hsearch rfl rfl rfl rfl ?_
    intro s _
    rw [Bool.eq_iff_iff, List.contains_iff_mem, ← TextSet.mem_ofList]
    simp [Scope.admits, scope, commit, firstOccurrences]

/-- The result is in the order that was committed before, and two of its sessions
    have the same key. -/
theorem search_captured_whoGreets :
    (∃ w' tag, (mergedCalls.commit whoGreets).createTag ⟨"t1", 1700000001000⟩ " cumprimentos " none =
        .ok (w', tag) ∧ tag.id = "t1" ∧
      (w'.commit { filters := some {}, activeTags := some [tag.id], viewOnly := some false }).search =
        .ok ["s2", "s1", "s3"]) ∧
    ∃ w', (mergedCalls.commit whoGreets).selectAll none = .ok w' ∧
      (w'.commit { filters := some {}, activeTags := some [], viewOnly := some true }).search =
        .ok ["s2", "s1", "s3"] := by
  have hreachable : Reachable (mergedCalls.commit whoGreets) :=
    .perform reachable_mergedCalls (.search whoGreets)
  exact search_captured hreachable rfl search_whoGreets ⟨"t1", 1700000001000⟩ (by decide +kernel)
    (by decide +kernel)

end Workspace

end Transcripts
