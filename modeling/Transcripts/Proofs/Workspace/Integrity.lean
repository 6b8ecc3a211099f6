/-
  Transcripts/Proofs/Workspace/Integrity.lean
  ===========================================
  **No operation leaves a reference to what is not there.**

  A workspace refers to sessions by the selection, to tags by those that are
  active, and to legal references by the links of its sessions.  What is referred
  to can be deleted, replaced or merged over, and links come in with projects.  A
  deletion takes what refers to the deleted along with it, and nothing else makes
  a tag, a session or a legal reference go away.  So the references stay whole
  through every run of operations, as long as each operation names what is there
  when its turn comes.
-/
import Transcripts.Proofs.Search.Totality
import Transcripts.Proofs.Workspace.Operations

namespace Transcripts

open Transcripts.Search

/-! ### References that are whole -/

/-- Whether a project links its sessions only to legal references that it brings along
    or that are registered. -/
def Project.LinksWithin (p : Project) (registry : LegalRegistry) : Prop :=
  ∀ s ∈ p.sessions, ∀ ref ∈ s.legalReferenceIds,
    ref ∈ registry.map Prod.fst ∨ ref ∈ p.legalReferences.map (·.id)

namespace Workspace

/-- Whatever a workspace refers to is there, and no tag is active twice. -/
structure Intact (w : Workspace) : Prop where
  selected : ∀ id ∈ w.selection, id ∈ w.sessions.map (·.id)
  active : ∀ id ∈ w.activeTags, id ∈ w.tags.map (·.id)
  activeOnce : w.activeTags.Nodup
  linked : ∀ s ∈ w.sessions, ∀ ref ∈ s.legalReferenceIds, ref ∈ w.legal.map Prod.fst

/-- Whether the sessions to select and the tags to make active are there, and the links of
    a project to merge in lead somewhere. -/
def Operation.Grounded (w : Workspace) : Operation → Prop
  | .restore p => p.LinksWithin w.legal
  | .search inputs => ∀ ids, inputs.activeTags = some ids → ∀ id ∈ ids, id ∈ w.tags.map (·.id)
  | .setActiveTags ids => ∀ id ∈ ids, id ∈ w.tags.map (·.id)
  | .toggleTag id => id ∈ w.tags.map (·.id)
  | .select ids | .selectAll (some ids) => ∀ id ∈ ids, id ∈ w.sessions.map (·.id)
  | .toggleSelection id => id ∈ w.sessions.map (·.id)
  | _ => True

/-- Whether each operation of a run is grounded when its turn comes. -/
def GroundedRun : Workspace → List Operation → Prop
  | _, [] => True
  | w, operation :: run => operation.Grounded w ∧ GroundedRun (w.perform operation) run

/-! ### What one operation keeps -/

section Step

variable {w : Workspace}

theorem stored_of_search {ids : List String} (hsearch : w.search = .ok ids) :
    ∀ id ∈ ids, id ∈ w.sessions.map (·.id) := by
  obtain ⟨found, hfound, hids⟩ := exists_of_bind_eq_ok hsearch
  obtain rfl := Except.ok.inj hids
  obtain ⟨accepted, _, hsorted⟩ := exists_of_bind_eq_ok hfound
  intro id hid
  obtain ⟨s, hs, rfl⟩ := List.mem_map.mp hid
  exact List.mem_map_of_mem (List.mem_filter.mp ((perm_of_sortSessions hsorted).subset hs)).1

theorem intact_of_selection (h : w.Intact) {selection : TextSet}
    (hselected : ∀ id ∈ selection, id ∈ w.sessions.map (·.id)) : Intact { w with selection } :=
  { h with selected := hselected }

theorem intact_select (h : w.Intact) {ids : List String}
    (hids : ∀ id ∈ ids, id ∈ w.sessions.map (·.id)) : (w.select ids).Intact := by
  apply intact_of_selection h
  intro id hid
  rcases TextSet.mem_union.mp hid with hold | hnew
  · exact h.selected id hold
  · exact hids id hnew

theorem intact_deselect (h : w.Intact) (ids : List String) : (w.deselect ids).Intact := by
  apply intact_of_selection h
  intro id hid
  exact h.selected id (TextSet.mem_without.mp hid).1

theorem intact_selectAll (h : w.Intact) {ids : Option (List String)} {w' : Workspace}
    (hids : ∀ chosen, ids = some chosen → ∀ id ∈ chosen, id ∈ w.sessions.map (·.id))
    (hselect : w.selectAll ids = .ok w') : w'.Intact := by
  obtain ⟨chosen, rfl, hchosen⟩ := selectAll_cases hselect
  apply intact_of_selection h
  intro id hid
  have hid : id ∈ chosen := TextSet.mem_ofList.mp hid
  rcases hchosen with hgiven | ⟨_, hsearch⟩
  · exact hids chosen hgiven id hid
  · exact stored_of_search hsearch id hid

theorem intact_of_activeTags (h : w.Intact) {ids : List String}
    (hids : ∀ id ∈ ids, id ∈ w.tags.map (·.id)) : (w.setActiveTags ids).Intact :=
  { h with
    active := fun id hid => hids id (mem_firstOccurrences.mp hid)
    activeOnce := nodup_firstOccurrences ids }

theorem intact_commit (h : w.Intact) {inputs : SearchInputs}
    (hinputs : ∀ ids, inputs.activeTags = some ids → ∀ id ∈ ids, id ∈ w.tags.map (·.id)) :
    (w.commit inputs).Intact := by
  rw [commit]
  cases hactive : inputs.activeTags with
  | none => exact { h with }
  | some ids => exact { intact_of_activeTags h (hinputs ids hactive) with }

theorem intact_toggleTag (h : w.Intact) {id : String} (hid : id ∈ w.tags.map (·.id)) :
    (w.toggleTag id).1.Intact := by
  rw [toggleTag]
  split
  · exact { h with
      active := fun t ht => h.active t (List.mem_filter.mp ht).1
      activeOnce := h.activeOnce.filter _ }
  · next hnew =>
    refine { h with active := ?_, activeOnce := ?_ }
    · intro t ht
      rcases List.mem_append.mp ht with hold | hlast
      · exact h.active t hold
      · rw [List.mem_singleton.mp hlast]
        exact hid
    · have hnew : id ∉ w.activeTags := by simpa using hnew
      exact (List.perm_append_singleton id w.activeTags).nodup_iff.mpr
        (List.nodup_cons.mpr ⟨hnew, h.activeOnce⟩)

/-- Tags may be made, renamed and put behind the others. -/
theorem intact_of_tags (h : w.Intact) {tags : TagStore}
    (htags : ∀ id ∈ w.tags.map (·.id), id ∈ tags.map (·.id)) : Intact { w with tags } :=
  { h with active := fun id hid => htags id (h.active id hid) }

/-- A tag that is deleted is not active any more. -/
theorem intact_deleteTag (h : w.Intact) (id : String) : (w.deleteTag id).1.Intact := by
  refine { h with active := ?_, activeOnce := h.activeOnce.filter _ }
  intro t ht
  obtain ⟨ht, hne⟩ := List.mem_filter.mp ht
  obtain ⟨tag, htag, rfl⟩ := List.mem_map.mp (h.active t ht)
  exact List.mem_map_of_mem (List.mem_filter.mpr ⟨htag, hne⟩)

/-- Sessions that are deleted are not selected any more. -/
theorem intact_dropWhere (h : w.Intact) {doomed : Session → Bool} {gone : List String}
    (hgone : ∀ s ∈ w.sessions, doomed s = true → s.id ∈ gone) :
    ({ w with sessions := (w.sessions.dropWhere doomed).1 }.deselect gone).Intact := by
  refine { h with selected := ?_, linked := ?_ }
  · intro id hid
    obtain ⟨hid, hkept⟩ := TextSet.mem_without.mp hid
    obtain ⟨s, hs, rfl⟩ := List.mem_map.mp (h.selected id hid)
    have hstays : doomed s = false := by
      by_contra hdoomed
      exact hkept (hgone s hs (by simpa using hdoomed))
    exact List.mem_map_of_mem (List.mem_filter.mpr ⟨hs, by simp [hstays]⟩)
  · intro s hs
    exact h.linked s (List.mem_filter.mp hs).1

theorem intact_modifySession (h : w.Intact) {id : String} {change : Session → Session}
    (hid : ∀ s : Session, (change s).id = s.id)
    (hlinked : ∀ s ∈ w.sessions, ∀ ref ∈ (change s).legalReferenceIds, ref ∈ w.legal.map Prod.fst)
    {r : Workspace × Session} (hmodify : w.modifySession id change = .ok r) : r.1.Intact := by
  obtain ⟨sessions, hsessions, hr⟩ := modifySession_cases hmodify
  rw [hr]
  refine { h with selected := ?_, linked := ?_ }
  · rw [SessionStore.ids_modify hid hsessions]
    exact h.selected
  · intro t ht
    rcases SessionStore.mem_of_mem_modify hsessions ht with hold | ⟨found, hfound, rfl⟩
    · exact h.linked t hold
    · exact hlinked found hfound

theorem intact_link (h : w.Intact) {id ref : String} {r : Workspace × Session}
    (hlink : w.link id ref = .ok r) : r.1.Intact := by
  rw [link] at hlink
  split at hlink
  · next hregistered =>
    refine intact_modifySession h (fun s => s.id_link ref) ?_ hlink
    intro s hs t ht
    rcases TextSet.mem_insert.mp ht with rfl | hold
    · exact Keyed.has_iff_mem_keys.mp hregistered
    · exact h.linked s hs t hold
  · simp at hlink

theorem intact_unlink (h : w.Intact) {id ref : String} {r : Workspace × Session}
    (hunlink : w.unlink id ref = .ok r) : r.1.Intact := by
  refine intact_modifySession h (fun s => s.id_unlink ref) ?_ hunlink
  intro s hs t ht
  exact h.linked s hs t (TextSet.mem_without.mp ht).1

/-- A legal reference that is removed is linked to no session any more. -/
theorem intact_removeReference (h : w.Intact) {ref : String} {r : Workspace × Nat}
    (hremove : w.removeReference ref = .ok r) : r.1.Intact := by
  rw [removeReference, LegalRegistry.remove?] at hremove
  split at hremove
  · simp at hremove
  · next legal hlegal =>
    obtain ⟨_, hlegal⟩ := Option.ite_none_right_eq_some.mp hlegal
    obtain rfl := Option.some.inj hlegal
    rw [← Except.ok.inj hremove]
    refine { h with selected := ?_, linked := ?_ }
    · intro id hid
      have hids := SessionStore.ids_unlinkEverywhere w.sessions ref
      exact hids ▸ h.selected id hid
    · intro t ht other hother
      obtain ⟨s, hs, rfl⟩ := SessionStore.mem_of_mem_unlinkEverywhere ht
      apply Keyed.mem_keys_erase.mpr
      -- a session with the link has lost it, any other keeps links that were never to it
      split at hother
      · obtain ⟨hother, hne⟩ := TextSet.mem_without.mp hother
        exact ⟨h.linked s hs other hother, by simpa using hne⟩
      · next hunlinked =>
        refine ⟨h.linked s hs other hother, ?_⟩
        rintro rfl
        exact hunlinked (List.contains_iff_mem.mpr hother)

/-- Legal references may be added and changed. -/
theorem intact_of_legal (h : w.Intact) {legal : LegalRegistry}
    (hlegal : ∀ ref ∈ w.legal.map Prod.fst, ref ∈ legal.map Prod.fst) : Intact { w with legal } :=
  { h with linked := fun s hs ref href => hlegal ref (h.linked s hs ref href) }

theorem intact_withLegal (h : w.Intact)
    {result : Except LegalFault (LegalRegistry × LegalReference)}
    (hresult : ∀ r, result = .ok r → ∀ ref ∈ w.legal.map Prod.fst, ref ∈ r.1.map Prod.fst) :
    (w.withLegal result).Intact := by
  apply orUnchanged_of (P := Intact) h
  intro w' hw'
  obtain ⟨r, hr, rfl⟩ := exists_of_map_eq_ok hw'
  exact intact_of_legal h (hresult r hr)

/-- A project replaces records only by others with the same ids. -/
theorem intact_restore (h : w.Intact) {p : Project} (hp : p.LinksWithin w.legal) :
    (w.restore p).Intact where
  selected := fun id hid => SessionStore.mem_ids_addAll.mpr (.inl (h.selected id hid))
  active := fun id hid => TagStore.mem_ids_extend.mpr (.inl (h.active id hid))
  activeOnce := h.activeOnce
  linked := by
    intro s hs ref href
    apply LegalRegistry.mem_keys_extend.mpr
    rcases SessionStore.mem_of_mem_addAll hs with hold | hnew
    · exact .inl (h.linked s hold ref href)
    · exact hp s hnew ref href

theorem intact_edit (h : w.Intact) {e : Edit} (hgrounded : (Operation.edit e).Grounded w) :
    (w.edit e).Intact := by
  cases e with
  | mergeAlias raws display =>
    apply orUnchanged_of (P := Intact) h
    intro w' hw'
    obtain ⟨aliases, _, hw'⟩ := exists_of_bind_eq_ok hw'
    rw [← Except.ok.inj hw']
    exact { h with }
  | createTag stamp name ids =>
    apply orUnchanged_fst_of (P := Intact) h
    intro r hr
    obtain ⟨tag, _, _, hr⟩ := createTag_cases hr
    rw [hr]
    exact intact_of_tags h fun id hid => List.mem_cons_of_mem tag.id hid
  | renameTag id name =>
    apply orUnchanged_fst_of (P := Intact) h
    intro r hr
    obtain ⟨tags, hr, hids⟩ := renameTag_cases hr
    rw [hr]
    exact intact_of_tags h fun id hid => hids ▸ hid
  | deleteTag id => exact intact_deleteTag h id
  | deleteSessions ids =>
    exact intact_dropWhere h fun s _ hdoomed => List.contains_iff_mem.mp hdoomed
  | deleteSourceFiles names =>
    exact intact_dropWhere h fun s hs hdoomed =>
      List.mem_map_of_mem (List.mem_filter.mpr ⟨hs, hdoomed⟩)
  | link id ref => exact orUnchanged_fst_of (P := Intact) h fun _ hr => intact_link h hr
  | unlink id ref => exact orUnchanged_fst_of (P := Intact) h fun _ hr => intact_unlink h hr
  | removeReference ref =>
    exact orUnchanged_fst_of (P := Intact) h fun _ hr => intact_removeReference h hr

/-- An operation that names what is there leaves every reference whole. -/
theorem intact_perform (h : w.Intact) {operation : Operation} (hgrounded : operation.Grounded w) :
    (w.perform operation).Intact := by
  cases operation with
  | edit e => exact intact_edit h hgrounded
  | restore p => exact intact_restore h hgrounded
  | addReference id category label description =>
    apply intact_withLegal h
    intro r hr ref href
    rw [LegalRegistry.add_cases hr]
    exact Keyed.mem_keys_put.mpr (.inr href)
  | archiveReference id =>
    exact intact_withLegal h fun r hr ref href => LegalRegistry.mem_keys_setStatus hr href
  | reviveReference id =>
    exact intact_withLegal h fun r hr ref href => LegalRegistry.mem_keys_setStatus hr href
  | search inputs => exact intact_commit h hgrounded
  | clearFilters =>
    exact { h with
      selected := fun _ hid => absurd hid List.not_mem_nil
      active := fun _ hid => absurd hid List.not_mem_nil
      activeOnce := List.nodup_nil }
  | setActiveTags ids => exact intact_of_activeTags h hgrounded
  | toggleTag id => exact intact_toggleTag h hgrounded
  | select ids => exact intact_select h hgrounded
  | deselect ids => exact intact_deselect h ids
  | toggleSelection id =>
    rw [perform, toggleSelection]
    split
    · exact intact_deselect h [id]
    · exact intact_select h fun _ hid => List.mem_singleton.mp hid ▸ hgrounded
  | selectAll ids =>
    refine orUnchanged_of (P := Intact) h fun w' hw' => intact_selectAll h ?_ hw'
    rintro chosen rfl
    exact hgrounded
  | clearSelection => exact intact_of_selection h (by simp)

end Step

/-! ### What a run of operations keeps -/

/-- **No dangling references.**  In a workspace where the selected sessions, the active
    tags and the legal references linked to sessions are all there, and no tag is active
    twice, the same is true after any run of operations, as long as each operation that
    selects sessions, makes tags active or merges in a project finds what it names. -/
theorem intact_run {w : Workspace} (h : w.Intact) {run : List Operation} (hrun : GroundedRun w run) :
    (run.foldl perform w).Intact := by
  induction run generalizing w with
  | nil => exact h
  | cons operation run ih => exact ih (intact_perform h hrun.1) hrun.2

/-- A workspace with a reference of each kind. -/
def referringWorkspace : Workspace where
  sessions := [
    { id := "S1", target := "", date := "1.2.2024", kind := .audio, content := "olá", sourceFile := "a.pdf"
      legalReferenceIds := ["r1", "r2"] },
    { id := "S2", target := "", date := "", kind := .sms, content := "", legalReferenceIds := ["r1"] }]
  tags := [{ id := "t1", name := "a", timestamp := 0, sessionIds := ["S1", "S9"] }]
  legal := [("r1", { id := "r1", category := .fact, label := "a" }),
    ("r2", { id := "r2", category := .tag, label := "b" })]
  selection := ["S1", "S2"]
  activeTags := ["t1"]

/-- A run that merges in a project with a link to a reference of its own, which replaces a
    session, and then deletes a reference of each kind. -/
def deletingRun : List Operation :=
  [.restore repetitiveProject, .edit (.createTag ⟨"t2", 0⟩ "b" (some ["S2"])), .toggleTag "t2",
    .edit (.link "S2" "r1"), .edit (.removeReference "r1"), .edit (.deleteTag "t1"),
    .edit (.deleteSessions ["S1"]), .selectAll (some ["S2"])]

theorem intact_run_deletingRun :
    referringWorkspace.Intact ∧ GroundedRun referringWorkspace deletingRun ∧
      (deletingRun.foldl perform referringWorkspace).Intact := by
  have hintact : referringWorkspace.Intact :=
    ⟨by decide +kernel, by decide +kernel, by decide +kernel, by decide +kernel⟩
  have hlinks : repetitiveProject.LinksWithin referringWorkspace.legal := by
    unfold Project.LinksWithin
    decide +kernel
  have hrun : GroundedRun referringWorkspace deletingRun := by
    refine ⟨hlinks, trivial, ?_, trivial, trivial, trivial, trivial, ?_, trivial⟩
    · show "t2" ∈ _
      decide +kernel
    · show ∀ id ∈ ["S2"], id ∈ _
      decide +kernel
  exact ⟨hintact, hrun, intact_run hintact hrun⟩

end Workspace

end Transcripts
