/-
  Transcripts/Proofs/Workspace/Operations.lean
  ============================================
  **Every workspace there can be.**

  A workspace begins with whatever it is given and then goes through operations of
  every kind: edits, projects of any content merged in, searches, selections.  An
  operation that is refused leaves it as it was.  Nothing is asked of what is given
  or done, so little is kept: in all these workspaces each key stands for one record.
-/
import Transcripts.Proofs.Workspace.Reopening

namespace Transcripts.Workspace

open Transcripts.Identity
open Transcripts.Search
open Transcripts.Text

/-! ### Operations -/

/-- What can be done with a workspace and its legal references. -/
inductive Operation where
  | edit (e : Edit)
  /-- Merge in a project, whether or not some file holds it. -/
  | restore (p : Project)
  | addReference (freshId : String) (category : LegalCategory) (label : String)
      (description : Option String)
  | archiveReference (id : String)
  | reviveReference (id : String)
  | search (inputs : SearchInputs)
  | clearFilters
  | setActiveTags (ids : List String)
  | toggleTag (id : String)
  | select (ids : List String)
  | deselect (ids : List String)
  | toggleSelection (id : String)
  | selectAll (ids : Option (List String))
  | clearSelection

def withLegal (w : Workspace) (result : Except LegalFault (LegalRegistry × LegalReference)) :
    Workspace :=
  w.orUnchanged (result.map fun (legal, _) => { w with legal })

/-- The workspace after an operation.  A search takes over its inputs even if it
    does not come to an end. -/
def perform (w : Workspace) : Operation → Workspace
  | .edit e => w.edit e
  | .restore p => w.restore p
  | .addReference id category label description =>
    w.withLegal (w.legal.add id category label description)
  | .archiveReference id => w.withLegal (w.legal.archive id)
  | .reviveReference id => w.withLegal (w.legal.restore id)
  | .search inputs => w.commit inputs
  | .clearFilters => w.clearFilters
  | .setActiveTags ids => w.setActiveTags ids
  | .toggleTag id => (w.toggleTag id).1
  | .select ids => w.select ids
  | .deselect ids => w.deselect ids
  | .toggleSelection id => (w.toggleSelection id).1
  | .selectAll ids => w.orUnchanged (w.selectAll ids)
  | .clearSelection => w.clearSelection

/-- The workspaces that operations lead to from one that is made of any sessions,
    aliases, tags and legal references. -/
inductive Reachable : Workspace → Prop where
  | start (sessions : List Session) (aliases : List (String × String)) (tags : List Tag)
      (references : List LegalReference) (sort : SortOption) (speaker : SpeakerFinder) :
      Reachable {
        sessions := .ofList sessions, aliases := AliasMap.flatten (.ofPairs aliases), tags
        legal := .ofList references, sort, speaker }
  | perform {w : Workspace} (h : Reachable w) (operation : Operation) :
      Reachable (w.perform operation)

/-! ### Each key stands for one record -/

/-- No id of a session, no spelling and no id of a legal reference comes twice. -/
structure Distinct (w : Workspace) : Prop where
  sessions : (w.sessions.map (·.id)).Nodup
  aliases : (w.aliases.map Prod.fst).Nodup
  legal : (w.legal.map Prod.fst).Nodup

section Step

variable {w : Workspace}

theorem distinct_restore (h : w.Distinct) (p : Project) : (w.restore p).Distinct where
  sessions := SessionStore.nodup_ids_addAll h.sessions p.sessions
  aliases := (Keyed.nodup_keys_putAll h.aliases _).sublist (AliasMap.keys_flatten_sublist _)
  legal := Keyed.nodup_keys_putAll h.legal _

theorem distinct_modifySession (h : w.Distinct) {id : String} {change : Session → Session}
    (hid : ∀ s : Session, (change s).id = s.id) {r : Workspace × Session}
    (hmodify : w.modifySession id change = .ok r) : r.1.Distinct := by
  obtain ⟨sessions, hsessions, hr⟩ := modifySession_cases hmodify
  rw [hr]
  refine { h with sessions := ?_ }
  rw [SessionStore.ids_modify hid hsessions]
  exact h.sessions

/-- A new tag, which has the id that was made for it and the name without blanks around it,
    changes nothing but the tags. -/
theorem createTag_cases {stamp : TagStore.Stamp} {name : String} {sessionIds : Option (List String)}
    {r : Workspace × Tag} (h : w.createTag stamp name sessionIds = .ok r) :
    ∃ tag : Tag, tag.id = stamp.id ∧ tag.name = trimmed name ∧ r.1 = { w with tags := tag :: w.tags } := by
  obtain ⟨ids, fromSelection, tags, hcreate, hr⟩ := createTag_creates h
  obtain ⟨htag, rfl⟩ := TagStore.create_cases hcreate
  exact ⟨r.2, by rw [htag]; rfl, by rw [htag]; rfl, hr⟩

theorem renameTag_cases {id name : String} {r : Workspace × Tag} (h : w.renameTag id name = .ok r) :
    ∃ tags : TagStore, r.1 = { w with tags } ∧ tags.map (·.id) = w.tags.map (·.id) := by
  obtain ⟨⟨tags, tag⟩, hrename, h⟩ := exists_of_bind_eq_ok h
  rw [← Except.ok.inj h]
  exact ⟨tags, rfl, TagStore.ids_rename (mapError_eq_ok_iff.mp hrename)⟩

theorem selectAll_cases {ids : Option (List String)} {w' : Workspace} (h : w.selectAll ids = .ok w') :
    ∃ chosen, w' = { w with selection := .ofList chosen } ∧
      (ids = some chosen ∨ ids = none ∧ w.search = .ok chosen) := by
  unfold selectAll at h
  cases ids with
  | some ids =>
    rw [← Except.ok.inj h]
    exact ⟨ids, rfl, .inl rfl⟩
  | none =>
    obtain ⟨chosen, hsearch, h⟩ := exists_of_bind_eq_ok h
    rw [← Except.ok.inj h]
    exact ⟨chosen, rfl, .inr ⟨rfl, mapError_eq_ok_iff.mp hsearch⟩⟩

theorem distinct_edit (h : w.Distinct) (e : Edit) : (w.edit e).Distinct := by
  cases e with
  | mergeAlias raws display =>
    refine orUnchanged_of (P := Distinct) h fun w' hw' => ?_
    obtain ⟨aliases, haliases, hw'⟩ := exists_of_bind_eq_ok hw'
    rw [← Except.ok.inj hw']
    exact { h with aliases := AliasMap.nodup_keys_merge h.aliases (mapError_eq_ok_iff.mp haliases) }
  | createTag stamp name ids =>
    refine orUnchanged_fst_of (P := Distinct) h fun r hr => ?_
    obtain ⟨tag, _, _, hr⟩ := createTag_cases hr
    rw [hr]
    exact { h with }
  | renameTag id name =>
    refine orUnchanged_fst_of (P := Distinct) h fun r hr => ?_
    obtain ⟨tags, hr, _⟩ := renameTag_cases hr
    rw [hr]
    exact { h with }
  | deleteTag id => exact { h with }
  | deleteSessions ids => exact { h with sessions := SessionStore.nodup_ids_filter h.sessions _ }
  | deleteSourceFiles names => exact { h with sessions := SessionStore.nodup_ids_filter h.sessions _ }
  | link id ref =>
    refine orUnchanged_fst_of (P := Distinct) h fun r hr => ?_
    rw [link] at hr
    split at hr
    · exact distinct_modifySession h (fun s => s.id_link ref) hr
    · simp at hr
  | unlink id ref =>
    exact orUnchanged_fst_of (P := Distinct) h fun r hr =>
      distinct_modifySession h (fun s => s.id_unlink ref) hr
  | removeReference ref =>
    refine orUnchanged_fst_of (P := Distinct) h fun r hr => ?_
    rw [removeReference] at hr
    split at hr
    · simp at hr
    · next legal hlegal =>
      rw [← Except.ok.inj hr]
      have hids := SessionStore.ids_unlinkEverywhere w.sessions ref
      exact { h with
        sessions := hids ▸ h.sessions
        legal := LegalRegistry.nodup_keys_remove h.legal hlegal }

theorem distinct_withLegal (h : w.Distinct) {result : Except LegalFault (LegalRegistry × LegalReference)}
    (hresult : ∀ r, result = .ok r → (r.1.map Prod.fst).Nodup) : (w.withLegal result).Distinct := by
  refine orUnchanged_of (P := Distinct) h fun w' hw' => ?_
  obtain ⟨r, hr, rfl⟩ := exists_of_map_eq_ok hw'
  exact { h with legal := hresult r hr }

/-- An operation keeps the keys distinct. -/
theorem distinct_perform (h : w.Distinct) (operation : Operation) : (w.perform operation).Distinct := by
  cases operation with
  | edit e => exact distinct_edit h e
  | restore p => exact distinct_restore h p
  | addReference id category label description =>
    refine distinct_withLegal h fun r hr => ?_
    rw [LegalRegistry.add_cases hr]
    exact Keyed.nodup_keys_put h.legal _ _
  | archiveReference id =>
    exact distinct_withLegal h fun r hr => LegalRegistry.nodup_keys_setStatus h.legal hr
  | reviveReference id =>
    exact distinct_withLegal h fun r hr => LegalRegistry.nodup_keys_setStatus h.legal hr
  | toggleTag id =>
    rw [perform, toggleTag]
    split <;> exact { h with }
  | toggleSelection id =>
    rw [perform, toggleSelection]
    split <;> exact { h with }
  | selectAll ids =>
    refine orUnchanged_of (P := Distinct) h fun w' hw' => ?_
    obtain ⟨chosen, hw', _⟩ := selectAll_cases hw'
    rw [hw']
    exact { h with }
  | search _ | clearFilters | setActiveTags _ | select _ | deselect _ | clearSelection =>
    exact { h with }

end Step

theorem distinct_of_reachable {w : Workspace} (h : Reachable w) : w.Distinct := by
  induction h with
  | start sessions aliases tags references sort speaker =>
    have hnone : (([] : SessionStore).map (·.id)).Nodup := List.nodup_nil
    exact {
      sessions := SessionStore.nodup_ids_addAll hnone sessions
      aliases := (Keyed.nodup_keys_ofPairs aliases).sublist (AliasMap.keys_flatten_sublist _)
      legal := Keyed.nodup_keys_ofPairs _ }
  | perform _ operation ih => exact distinct_perform ih operation

end Transcripts.Workspace
