/-
  Transcripts/Proofs/Workspace/Unaffected.lean
  ============================================
  **What may be done without changing what a search finds.**

  A search reads the tags that are active, the selection if it is limited to it, and
  the labels that links lead to.  It finds the same after every operation that leaves
  these alone.  Removing a legal reference takes away the links to it as well, and the
  search cannot tell that from a reference that is removed alone: a link that leads
  nowhere is as good as none.

  A renamed tag is written over each tag with its id.  As long as no other tag has the
  id, it keeps its sessions and the search its result.  A workspace that was given two
  tags with one id keeps both, and then the sessions that only the second one holds are
  lost to the search.
-/
import Transcripts.Proofs.Search.Relinking
import Transcripts.Proofs.Workspace.Capturing
import Transcripts.Proofs.Workspace.Deleting

namespace Transcripts

open Transcripts.Identity
open Transcripts.Search
open Transcripts.Text

/-! ### Tags and scopes -/

namespace TagStore

variable {store store' : TagStore} {id name x : String} {ids : List String} {tag : Tag}

theorem scope_cons_of_not_mem (h : tag.id ∉ ids) : scope (tag :: store) ids = store.scope ids := by
  rw [scope, scope, List.filter_cons_of_neg]
  simpa using h

theorem scope_delete (h : id ∉ ids) : (store.delete id).1.scope ids = store.scope ids := by
  rw [scope, scope, delete, List.filter_filter]
  congr 2
  apply List.filter_congr
  intro t _
  cases hmem : ids.contains t.id with
  | false => rfl
  | true =>
    have hne : t.id ≠ id := by
      rintro rfl
      exact h (List.contains_iff_mem.mp hmem)
    simpa using hne

theorem get?_of_rename_error {fault : TagFault} (hname : ¬ isBlankText name = true)
    (hrename : store.rename id name = .error fault) : store.get? id = none := by
  rw [rename, if_neg hname] at hrename
  cases hfound : store.get? id with
  | none => rfl
  | some found => simp [hfound] at hrename

/-- Behind the id of a renamed tag are the sessions of the first tag that has it. -/
theorem mem_scope_rename (hrename : store.rename id name = .ok (store', tag)) :
    x ∈ store'.scope ids ↔
      ∃ t ∈ store, t.id ∈ ids ∧ x ∈ t.sessionIds ∧ (t.id = id → store.get? id = some t) := by
  rw [rename] at hrename
  split at hrename
  · simp at hrename
  · split at hrename
    · simp at hrename
    · next first hfirst =>
      obtain ⟨rfl, _⟩ := Prod.mk.inj (Except.ok.inj hrename)
      obtain ⟨hmem, hid⟩ := mem_of_get? hfirst
      rw [mem_scope]
      constructor
      · rintro ⟨t, ht, hactive, hx⟩
        obtain ⟨old, hold, rfl⟩ := List.mem_map.mp ht
        by_cases hsame : old.id = id
        · rw [if_pos (beq_iff_eq.mpr hsame)] at hactive hx
          exact ⟨first, hmem, hactive, hx, fun _ => hfirst⟩
        · rw [if_neg (mt beq_iff_eq.mp hsame)] at hactive hx
          exact ⟨old, hold, hactive, hx, fun heq => absurd heq hsame⟩
      · rintro ⟨t, ht, hactive, hx, honly⟩
        refine ⟨_, List.mem_map_of_mem ht, ?_⟩
        by_cases hsame : t.id = id
        · obtain rfl : first = t := Option.some.inj (hfirst.symm.trans (honly hsame))
          rw [if_pos (beq_iff_eq.mpr hsame)]
          exact ⟨hactive, hx⟩
        · rw [if_neg (mt beq_iff_eq.mp hsame)]
          exact ⟨hactive, hx⟩

end TagStore

namespace Search

theorem admits_of_filterSessions {sessions found : List Session} {f : Filters} {scope : Scope}
    {context : Context} (h : filterSessions sessions f scope context = .ok found) {s : Session}
    (hs : s ∈ found) : scope.admits s = true := by
  obtain ⟨p, _, h⟩ := exists_of_bind_eq_ok h
  obtain ⟨_, rfl⟩ := filterM_eq_ok_iff.mp h
  exact (List.mem_filter.mp (List.mem_filter.mp hs).1).2

/-- A narrower scope keeps what it admits. -/
theorem filterSessions_narrowed {sessions found : List Session} {f : Filters} {scope scope' : Scope}
    {context : Context} (h : filterSessions sessions f scope context = .ok found) {kept : Session → Bool}
    (hscope : ∀ s ∈ sessions, scope'.admits s = (scope.admits s && kept s)) :
    filterSessions sessions f scope' context = .ok (found.filter kept) := by
  have hsame : filterSessions sessions f scope' context =
      filterSessions (sessions.filter kept) f scope context := by
    rw [filterSessions, filterSessions, List.filter_filter, List.filter_congr hscope]
  rw [hsame]
  exact filterSessions_filter h fun _ _ _ => rfl

end Search

namespace Workspace

variable {w w' : Workspace} {ids : List String}

/-! ### Workspaces that a search cannot tell apart -/

/-- One workspace has the sessions of another with other links, is searched for the same,
    admits the same sessions, and its links lead to the same labels. -/
structure LooksLike (w' w : Workspace) (links : Session → TextSet) : Prop where
  sessions : w'.sessions = w.sessions.map fun s => s.relinked (links s)
  admits : ∀ s ∈ w.sessions, w'.scope.admits s = w.scope.admits s := by exact fun _ _ => rfl
  labels : ∀ s ∈ w.sessions, SameLabels w.legal w'.legal s (links s)
  filters : w'.filters = w.filters := by rfl
  aliases : w'.aliases = w.aliases := by rfl
  speaker : w'.speaker = w.speaker := by rfl
  sort : w'.sort = w.sort := by rfl

theorem LooksLike.search_eq {links : Session → TextSet} (h : LooksLike w' w links) :
    w'.search = w.search := by
  let change (s : Session) : Session := s.relinked (links s)
  have haccepted : filterSessions w'.sessions w'.filters w'.scope w'.context =
      (filterSessions w.sessions w.filters w.scope w.context).map (List.map change) := by
    rw [h.sessions, context, h.filters, h.aliases, h.speaker]
    exact filterSessions_relinked w.filters w.aliases w.speaker h.admits h.labels
  rw [search, search, found, found, haccepted]
  cases filterSessions w.sessions w.filters w.scope w.context with
  | error fault => rfl
  | ok accepted =>
    have hids : (accepted.map change).map (·.id) = accepted.map (·.id) := by
      rw [List.map_map]
      rfl
    have hback : (w'.sessions.filter fun s => ((accepted.map change).map (·.id)).contains s.id) =
        (w.sessions.filter fun s => (accepted.map (·.id)).contains s.id).map change := by
      rw [h.sessions, hids, List.filter_map]
      rfl
    show (sortSessions w'.sort w'.aliases _ >>= fun found => pure (found.map (·.id))) =
      (sortSessions w.sort w.aliases _ >>= fun found => pure (found.map (·.id)))
    rw [hback, h.sort, h.aliases, sortSessions_relinked]
    cases sortSessions w.sort w.aliases (w.sessions.filter _) with
    | error fault => rfl
    | ok found =>
      refine congrArg Except.ok ?_
      rw [List.map_map]
      rfl

theorem search_with_scope {activeTags : List String} {tags : TagStore} {selection : TextSet}
    (hadmits : ∀ s : Session,
      ({ w with activeTags, tags, selection } : Workspace).scope.admits s = w.scope.admits s) :
    ({ w with activeTags, tags, selection } : Workspace).search = w.search := by
  have hlike : LooksLike { w with activeTags, tags, selection } w (·.legalReferenceIds) := {
    sessions := (List.map_id _).symm
    admits := fun s _ => hadmits s
    labels := fun _ _ _ _ => Iff.rfl }
  exact hlike.search_eq

theorem search_with_tags {tags : TagStore}
    (hscope : ∀ x, x ∈ tags.scope w.activeTags ↔ x ∈ w.tags.scope w.activeTags) :
    ({ w with tags } : Workspace).search = w.search := by
  apply search_with_scope
  intro s
  have hcontains : (tags.scope w.activeTags).contains s.id = (w.tags.scope w.activeTags).contains s.id := by
    rw [Bool.eq_iff_iff, List.contains_iff_mem, List.contains_iff_mem]
    exact hscope s.id
  simp only [Scope.admits, scope, hcontains]

theorem search_with_selection (hview : w.viewOnly = false) (selection : TextSet) :
    ({ w with selection } : Workspace).search = w.search := by
  apply search_with_scope
  intro s
  simp [Scope.admits, scope, hview]

theorem search_withLegal {result : Except LegalFault (LegalRegistry × LegalReference)}
    (hlabels : ∀ r, result = .ok r → ∀ s ∈ w.sessions, ∀ id ∈ s.legalReferenceIds,
      r.1.labelled? id = w.legal.labelled? id) :
    (w.withLegal result).search = w.search := by
  apply orUnchanged_of (P := fun w' => w'.search = w.search) rfl
  intro w' hw'
  obtain ⟨r, hr, rfl⟩ := exists_of_map_eq_ok hw'
  have hlike : LooksLike { w with legal := r.1 } w (·.legalReferenceIds) := {
    sessions := (List.map_id _).symm
    labels := fun s hs _ _ => LegalRegistry.mem_labelsFor_congr (hlabels r hr s hs) }
  exact hlike.search_eq

/-! ### Renaming -/

theorem search_narrowed (h : w.Distinct) (hsearch : w.search = .ok ids) {tags : TagStore}
    {kept : String → Bool}
    (hscope : ∀ s : Session,
      ({ w with tags } : Workspace).scope.admits s = (w.scope.admits s && kept s.id)) :
    ({ w with tags } : Workspace).search = .ok (ids.filter kept) := by
  obtain ⟨accepted, found, haccepted, _, hsorted, rfl⟩ := search_cases h hsearch
  have haccepted' : filterSessions w.sessions w.filters ({ w with tags } : Workspace).scope w.context =
      .ok (accepted.filter fun s => kept s.id) := filterSessions_narrowed haccepted fun s _ => hscope s
  have hsorted' := sortSessions_filter hsorted fun s => kept s.id
  rw [search_of_accepted (w := { w with tags }) h.sessions haccepted' hsorted', List.filter_map]
  rfl

theorem mem_scope_of_search (h : w.Distinct) (hsearch : w.search = .ok ids) {id x : String}
    (hactive : id ∈ w.activeTags) (hx : x ∈ ids) : x ∈ w.tags.scope w.activeTags := by
  obtain ⟨accepted, found, haccepted, _, hsorted, rfl⟩ := search_cases h hsearch
  obtain ⟨s, hs, rfl⟩ := List.mem_map.mp hx
  have hadmits := admits_of_filterSessions haccepted ((perm_of_sortSessions hsorted).subset hs)
  have hnonempty : w.activeTags.isEmpty = false := List.isEmpty_eq_false_iff_exists_mem.mpr ⟨id, hactive⟩
  simp only [Scope.admits, scope, hnonempty, Bool.false_or, Bool.and_eq_true,
    List.contains_iff_mem] at hadmits
  exact hadmits.1

theorem edit_renameTag (w : Workspace) (id name : String) : w.edit (.renameTag id name) =
    match w.tags.rename id name with
    | .ok r => { w with tags := r.1 }
    | .error _ => w := by
  rw [edit, renameTag]
  cases w.tags.rename id name with
  | error fault => rfl
  | ok r => rfl

section Renamed

variable {id name : String} {r : TagStore × Tag}

theorem search_renamed (hrename : w.tags.rename id name = .ok r)
    (honly : ∀ t ∈ w.tags, t.id ∈ w.activeTags → t.id = id → w.tags.get? id = some t) :
    ({ w with tags := r.1 } : Workspace).search = w.search := by
  apply search_with_tags
  intro x
  rw [TagStore.mem_scope_rename hrename, TagStore.mem_scope]
  constructor
  · rintro ⟨t, ht, hactive, hx, _⟩
    exact ⟨t, ht, hactive, hx⟩
  · rintro ⟨t, ht, hactive, hx⟩
    exact ⟨t, ht, hactive, hx, honly t ht hactive⟩

/-- After an active tag was renamed, the search keeps what the tags hold now. -/
theorem search_renamed_active (h : w.Distinct) (hsearch : w.search = .ok ids) (hactive : id ∈ w.activeTags)
    (hrename : w.tags.rename id name = .ok r) :
    ({ w with tags := r.1 } : Workspace).search =
      .ok (ids.filter (r.1.scope w.activeTags).contains) := by
  apply search_narrowed h hsearch
  intro s
  have hnonempty : w.activeTags.isEmpty = false :=
    List.isEmpty_eq_false_iff_exists_mem.mpr ⟨id, hactive⟩
  simp only [Scope.admits, scope, hnonempty, Bool.false_or]
  cases hnew : (r.1.scope w.activeTags).contains s.id with
  | false => simp
  | true =>
    -- a renamed tag holds nothing that no tag with its id held
    obtain ⟨t, ht, hid, hheld, _⟩ :=
      (TagStore.mem_scope_rename hrename).mp (List.contains_iff_mem.mp hnew)
    have hold : (w.tags.scope w.activeTags).contains s.id = true :=
      List.contains_iff_mem.mpr (TagStore.mem_scope.mpr ⟨t, ht, hid, hheld⟩)
    rw [hold, Bool.and_true]

end Renamed

/-- After a tag was renamed, the search finds what it found before exactly if the name was
    refused, or the tag is not active, or each session that was found is held by an
    active tag that is not a later one with the same id. -/
theorem search_renameTag_iff (h : w.Distinct) (hsearch : w.search = .ok ids) (id name : String) :
    (w.edit (.renameTag id name)).search = .ok ids ↔
      isBlankText name = true ∨ id ∉ w.activeTags ∨
        ∀ x ∈ ids, ∃ t ∈ w.tags, t.id ∈ w.activeTags ∧ x ∈ t.sessionIds ∧
          (t.id = id → w.tags.get? id = some t) := by
  rw [edit_renameTag]
  cases hrename : w.tags.rename id name with
  | error fault =>
    refine iff_of_true hsearch ?_
    by_cases hname : isBlankText name = true
    · exact .inl hname
    by_cases hactive : id ∈ w.activeTags
    · -- no tag has the id, so what was found is held by others
      have hnone : w.tags.get? id = none := TagStore.get?_of_rename_error hname hrename
      right
      right
      intro x hx
      obtain ⟨t, ht, hid, hheld⟩ := TagStore.mem_scope.mp (mem_scope_of_search h hsearch hactive hx)
      refine ⟨t, ht, hid, hheld, ?_⟩
      rintro rfl
      exact absurd (List.mem_map_of_mem ht) (TagStore.get?_eq_none_iff.mp hnone)
    · exact .inr (.inl hactive)
  | ok r =>
    by_cases hactive : id ∈ w.activeTags
    · have hname : ¬ isBlankText name = true := by
        intro hname
        rw [TagStore.rename, if_pos hname] at hrename
        simp at hrename
      show ({ w with tags := r.1 } : Workspace).search = .ok ids ↔ _
      rw [search_renamed_active h hsearch hactive hrename, Except.ok.injEq, List.filter_eq_self]
      simp only [List.contains_iff_mem, TagStore.mem_scope_rename hrename]
      constructor
      · intro hheld
        exact .inr (.inr hheld)
      · rintro (hblank | hinactive | hheld)
        · exact absurd hblank hname
        · exact absurd hactive hinactive
        · exact hheld
    · refine iff_of_true ?_ (.inr (.inl hactive))
      rw [← hsearch]
      apply search_renamed hrename
      rintro t _ hid rfl
      exact absurd hid hactive

/-! ### Links and legal references -/

theorem search_relink {sessions : SessionStore} (links : Session → TextSet)
    (hsessions : sessions = w.sessions.map fun s => s.relinked (links s))
    (hlinks : ∀ s ∈ w.sessions, links s = s.legalReferenceIds ∨
      ∃ ref, w.legal.labelled? ref = none ∧ links s = TextSet.without s.legalReferenceIds [ref]) :
    ({ w with sessions } : Workspace).search = w.search := by
  have hlike : LooksLike { w with sessions } w links := {
    sessions := hsessions
    labels := by
      intro s hs category label
      rcases hlinks s hs with hown | ⟨ref, hnone, hwithout⟩
      · rw [hown]
      · rw [hwithout]
        exact LegalRegistry.mem_labelsFor_without hnone }
  exact hlike.search_eq

/-- A link that leads nowhere makes no difference. -/
theorem search_unlink (h : w.Distinct) {id ref : String} (href : ref ∉ w.legal.map Prod.fst) :
    (w.edit (.unlink id ref)).search = w.search := by
  rw [edit, unlink, modifySession]
  cases hmodify : w.sessions.modify? id (·.unlink ref) with
  | none => rfl
  | some r =>
    obtain ⟨found, hfound, hr⟩ := Option.map_eq_some_iff.mp hmodify
    obtain ⟨hmem, hid⟩ := SessionStore.mem_of_get? hfound
    show ({ w with sessions := r.1 } : Workspace).search = w.search
    let links (s : Session) : TextSet :=
      if s.id = id then TextSet.without s.legalReferenceIds [ref] else s.legalReferenceIds
    refine search_relink links ?_ ?_
    · rw [← (Prod.mk.inj hr).1]
      apply List.map_congr_left
      intro s hs
      by_cases hsame : s.id = id
      · obtain rfl : s = found := List.inj_on_of_nodup_map h.sessions hs hmem (hsame.trans hid.symm)
        simp [links, hsame, Session.unlink, Session.relinked]
      · simp [links, hsame, Session.relinked]
    · intro s _
      by_cases hsame : s.id = id
      · exact .inr ⟨ref, LegalRegistry.labelled?_of_unregistered href, if_pos hsame⟩
      · exact .inl (if_neg hsame)

theorem removed?_unregistered {registry legal : LegalRegistry} {ref : String}
    (h : registry.remove? ref = some legal) : ref ∉ legal.map Prod.fst := by
  rw [LegalRegistry.remove?] at h
  split at h
  · rw [← Option.some.inj h, Keyed.mem_keys_erase]
    simp
  · simp at h

/-- A search cannot tell whether the links to a removed reference have gone with it. -/
theorem search_removeReference (w : Workspace) (ref : String) :
    (w.edit (.removeReference ref)).search =
      ({ w with legal := (w.legal.remove? ref).getD w.legal } : Workspace).search := by
  rw [edit, removeReference]
  cases hremove : w.legal.remove? ref with
  | none => rfl
  | some legal =>
    show ({ w with legal, sessions := (w.sessions.unlinkEverywhere ref).1 } : Workspace).search =
      ({ w with legal } : Workspace).search
    let links (s : Session) : TextSet :=
      if s.legalReferenceIds.contains ref then TextSet.without s.legalReferenceIds [ref]
      else s.legalReferenceIds
    refine search_relink (w := { w with legal }) links ?_ ?_
    · apply List.map_congr_left
      intro s _
      by_cases hlinked : s.legalReferenceIds.contains ref
      · simp only [links, if_pos hlinked]
        rfl
      · simp only [links, if_neg hlinked]
        rfl
    · intro s _
      by_cases hlinked : s.legalReferenceIds.contains ref
      · exact .inr ⟨ref, LegalRegistry.labelled?_of_unregistered (removed?_unregistered hremove),
          if_pos hlinked⟩
      · exact .inl (if_neg hlinked)

/-! ### Operations that a search does not notice -/

/-- An operation changes only what a search does not read.  A new tag has an id that is
    not searched for, and a new reference one that nothing is linked to. -/
def Operation.IsNeutral (w : Workspace) : Operation → Prop
  | .edit (.createTag stamp _ _) => stamp.id ∉ w.activeTags
  | .edit (.renameTag id _) => ∀ t ∈ w.tags, t.id = id → w.tags.get? id = some t
  | .edit (.deleteTag id) => id ∉ w.activeTags
  | .edit (.unlink _ ref) => ref ∉ w.legal.map Prod.fst
  | .addReference id _ _ _ => ∀ s ∈ w.sessions, id ∉ s.legalReferenceIds
  | .archiveReference _ | .reviveReference _ => True
  | .select _ | .deselect _ | .toggleSelection _ | .selectAll _ | .clearSelection => w.viewOnly = false
  | _ => False

theorem search_of_neutral (h : w.Distinct) {operation : Operation} (hneutral : operation.IsNeutral w) :
    (w.perform operation).search = w.search := by
  cases operation with
  | edit e =>
    cases e with
    | createTag stamp name sessionIds =>
      refine orUnchanged_fst_of (P := fun w' => w'.search = w.search) rfl fun r hr => ?_
      obtain ⟨tag, hid, _, hr⟩ := createTag_cases hr
      rw [hr]
      apply search_with_tags
      intro x
      have hinactive : tag.id ∉ w.activeTags := hid ▸ hneutral
      rw [TagStore.scope_cons_of_not_mem hinactive]
    | renameTag id name =>
      show (w.edit (.renameTag id name)).search = w.search
      rw [edit_renameTag]
      cases hrename : w.tags.rename id name with
      | error fault => rfl
      | ok r => exact search_renamed hrename fun t ht _ => hneutral t ht
    | deleteTag id =>
      have hactive : w.activeTags.filter (· != id) = w.activeTags := by
        rw [List.filter_eq_self]
        intro active hmem
        have hne : active ≠ id := by
          rintro rfl
          exact hneutral hmem
        simpa using hne
      show ({ w with tags := _, activeTags := _ } : Workspace).search = w.search
      rw [hactive]
      apply search_with_tags
      intro x
      show x ∈ (w.tags.delete id).1.scope w.activeTags ↔ _
      rw [TagStore.scope_delete hneutral]
    | unlink id ref => exact search_unlink h hneutral
    | mergeAlias _ _ | deleteSessions _ | deleteSourceFiles _ | link _ _ | removeReference _ =>
      exact hneutral.elim
  | addReference id category label description =>
    apply search_withLegal
    intro r hr s hs linked hlinked
    apply LegalRegistry.labelled?_add hr
    rintro rfl
    exact hneutral s hs hlinked
  | archiveReference id =>
    exact search_withLegal fun r hr _ _ linked _ => LegalRegistry.labelled?_setStatus hr linked
  | reviveReference id =>
    exact search_withLegal fun r hr _ _ linked _ => LegalRegistry.labelled?_setStatus hr linked
  | select ids => exact search_with_selection hneutral _
  | deselect ids => exact search_with_selection hneutral _
  | toggleSelection id =>
    rw [perform, toggleSelection]
    split
    · exact search_with_selection hneutral _
    · exact search_with_selection hneutral _
  | selectAll ids =>
    refine orUnchanged_of (P := fun w' => w'.search = w.search) rfl fun w' hw' => ?_
    obtain ⟨chosen, rfl, _⟩ := selectAll_cases hw'
    exact search_with_selection hneutral _
  | clearSelection => exact search_with_selection hneutral _
  | restore _ | search _ | clearFilters | setActiveTags _ | toggleTag _ => exact hneutral.elim

/-- Each operation of a run is one that a search does not notice when its turn comes. -/
def NeutralRun (w : Workspace) : List Operation → Prop
  | [] => True
  | operation :: run => operation.IsNeutral w ∧ NeutralRun (w.perform operation) run

theorem search_of_neutralRun (h : w.Distinct) {run : List Operation} (hrun : NeutralRun w run) :
    (run.foldl perform w).search = w.search := by
  induction run generalizing w with
  | nil => rfl
  | cons operation run ih =>
    rw [List.foldl_cons, ih (distinct_perform h operation) hrun.2]
    exact search_of_neutral h hrun.1

/-- **What a search does not notice.**  Whatever was done to a workspace before, a search
    finds what it found before: after a tag was made; after one was renamed, if its id
    names one tag, and otherwise exactly if each session that was found is held by an
    active tag that is not a later one with that id; after a tag was deleted that is not
    active; after a legal reference was added, archived or revived, and a link to one that
    is not registered was taken away; and, where the search is not limited to the
    selection, after any selection.  When a legal reference was removed, it finds what it
    would if the links to it had been left. -/
theorem search_unaffected (h : Reachable w) (hsearch : w.search = .ok ids) :
    (∀ operation : Operation, operation.IsNeutral w → (w.perform operation).search = .ok ids) ∧
    (∀ id name : String, (w.edit (.renameTag id name)).search = .ok ids ↔
      isBlankText name = true ∨ id ∉ w.activeTags ∨
        ∀ x ∈ ids, ∃ t ∈ w.tags, t.id ∈ w.activeTags ∧ x ∈ t.sessionIds ∧
          (t.id = id → w.tags.get? id = some t)) ∧
    ∀ ref : String, (w.edit (.removeReference ref)).search =
      ({ w with legal := (w.legal.remove? ref).getD w.legal } : Workspace).search := by
  have hdistinct := distinct_of_reachable h
  refine ⟨?_, ?_, ?_⟩
  · intro operation hneutral
    rw [search_of_neutral hdistinct hneutral, hsearch]
  · intro id name
    exact search_renameTag_iff hdistinct hsearch id name
  · intro ref
    exact search_removeReference w ref

theorem search_of_sources (h : (w.sessions.map (·.id)).Nodup) (hsort : w.sort = .sourceNumber)
    {accepted : List Session}
    (haccepted : filterSessions w.sessions w.filters w.scope w.context = .ok accepted)
    (hordered : accepted.Pairwise fun s t =>
      inOrder (SortOption.sourceNumber.compare w.aliases) false s t = true) :
    w.search = .ok (accepted.map (·.id)) := by
  apply search_of_accepted h haccepted
  rw [hsort]
  exact congrArg Except.ok ((sortByKey_eq _ _ _ _).trans (List.mergeSort_of_pairwise hordered))

/-- A workspace where two calls that are tagged and linked to a fact are searched for.  One
    of them is linked to something that is not registered, too. -/
def factCalls : Workspace :=
  ({ sessions := .ofList [
       { call "s1" "912345678" "olá" with legalReferenceIds := ["r1", "r9"] },
       { call "s2" "967654321" "adeus" with legalReferenceIds := ["r1"] },
       call "s3" "967654321" "boa noite"]
     aliases := AliasMap.flatten (.ofPairs [])
     tags := [
       { id := "t1", name := "a", timestamp := 0, sessionIds := ["s2", "s3", "s1"] },
       { id := "t2", name := "b", timestamp := 0, sessionIds := ["s1"] }]
     legal := .ofList [{ id := "r1", category := .fact, label := "encontro" }] } : Workspace).perform
    (.search {
      filters := some { facts := ["encontro"] }, activeTags := some ["t1"], sort := some .sourceNumber })

theorem reachable_factCalls : Reachable factCalls :=
  .perform (.start _ [] _ _ .dateDescending firstLineSpeaker) _

theorem search_factCalls : factCalls.search = .ok ["s1", "s2"] := by
  have haccepted : filterSessions factCalls.sessions factCalls.filters factCalls.scope factCalls.context =
      .ok (factCalls.sessions.take 2) := toOption_eq_some_iff.mp (by decide +kernel)
  exact search_of_sources (by decide +kernel) rfl haccepted (by decide +kernel)

/-- What may be done there: also with the active tag, with the reference that is searched
    for, and with another that has the same label. -/
def unnoticedOperations : List Operation :=
  [.edit (.createTag ⟨"t3", 0⟩ "Rui" none), .edit (.renameTag "t1" "c"), .edit (.deleteTag "t2"),
    .addReference "r2" .fact "encontro" none, .archiveReference "r1", .edit (.unlink "s1" "r9"),
    .selectAll none, .toggleSelection "s3", .clearSelection]

theorem search_unaffected_factCalls :
    (∀ operation ∈ unnoticedOperations, (factCalls.perform operation).search = .ok ["s1", "s2"]) ∧
    (factCalls.edit (.renameTag "t1" "c")).search = .ok ["s1", "s2"] ∧
    (factCalls.edit (.removeReference "r1")).search =
      ({ factCalls with legal := [] } : Workspace).search := by
  obtain ⟨hneutral, hrename, hremove⟩ := search_unaffected reachable_factCalls search_factCalls
  refine ⟨?_, ?_, hremove "r1"⟩
  · intro operation hoperation
    apply hneutral
    revert operation
    simp only [unnoticedOperations, List.forall_mem_cons, List.not_mem_nil, false_implies, implies_true,
      Operation.IsNeutral]
    decide +kernel
  · refine (hrename "t1" "c").mpr (.inr (.inr ?_))
    decide +kernel

/-- A workspace that was given two tags with one id, of which only the second holds the
    call. -/
def doublyTagged : Workspace :=
  ({ sessions := .ofList [call "s1" "912345678" "olá"]
     aliases := AliasMap.flatten (.ofPairs [])
     tags := [
       { id := "t1", name := "a", timestamp := 0, sessionIds := [] },
       { id := "t1", name := "b", timestamp := 0, sessionIds := ["s1"] }]
     legal := .ofList [], sort := .sourceNumber } : Workspace).perform
    (.search { activeTags := some ["t1"] })

/-- Renaming writes the first tag over the second one, and the call is no longer found. -/
theorem renaming_loses_tagged_session : Reachable doublyTagged ∧ doublyTagged.search = .ok ["s1"] ∧
    (doublyTagged.edit (.renameTag "t1" "c")).search = .ok [] := by
  have hreachable : Reachable doublyTagged :=
    .perform (.start _ [] _ [] .sourceNumber firstLineSpeaker) _
  have hbefore : filterSessions doublyTagged.sessions doublyTagged.filters doublyTagged.scope
      doublyTagged.context = .ok doublyTagged.sessions := toOption_eq_some_iff.mp (by decide +kernel)
  let renamed := doublyTagged.edit (.renameTag "t1" "c")
  have hafter : filterSessions renamed.sessions renamed.filters renamed.scope renamed.context = .ok [] :=
    toOption_eq_some_iff.mp (by decide +kernel)
  refine ⟨hreachable, ?_, ?_⟩
  · exact search_of_sources (by decide +kernel) rfl hbefore (List.pairwise_singleton _ _)
  · exact search_of_sources (w := renamed) (by decide +kernel) (by decide +kernel) hafter List.Pairwise.nil

end Workspace

end Transcripts
