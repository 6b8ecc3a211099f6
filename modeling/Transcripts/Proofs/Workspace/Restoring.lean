/-
  Transcripts/Proofs/Workspace/Restoring.lean
  ===========================================
  **The same project merged in again.**

  Sessions and legal references of a project replace those with the same key, and
  its tags are left out where their id is known.  So when it comes again there is
  nothing to replace and nothing to add.  Its aliases are different: the first time
  some may be dropped together with the entries that they clash with, and the
  second time these entries are no longer there.
-/
import Transcripts.Proofs.Identity.Overlaying
import Transcripts.Proofs.Workspace.Operations

namespace Transcripts

open Transcripts.Identity

/-! ### Collections merged with the same records again -/

theorem SessionStore.addAll_addAll {store : SessionStore} (hdistinct : (store.map (·.id)).Nodup)
    (sessions : List Session) : (store.addAll sessions).addAll sessions = store.addAll sessions := by
  have hkeys : ((byId store).map Prod.fst).Nodup := by rwa [keys_byId]
  rw [← values_byId ((store.addAll sessions).addAll sessions), byId_addAll, byId_addAll,
    Keyed.putAll_putAll hkeys, ← byId_addAll, values_byId]

namespace TagStore

theorem extend_of_known {store : TagStore} {tags : List Tag}
    (hknown : ∀ tag ∈ tags, tag.id ∈ store.map (·.id)) : store.extend tags = store := by
  induction tags with
  | nil => rfl
  | cons tag tags ih =>
    obtain ⟨htag, htags⟩ := List.forall_mem_cons.mp hknown
    rw [extend_cons, if_pos htag, ih htags]

theorem extend_extend (store : TagStore) (tags : List Tag) :
    (store.extend tags).extend tags = store.extend tags := by
  apply extend_of_known
  intro tag htag
  exact mem_ids_extend.mpr (.inr (List.mem_map_of_mem htag))

end TagStore

theorem LegalRegistry.extend_extend {registry : LegalRegistry}
    (hdistinct : (registry.map Prod.fst).Nodup) (refs : List LegalReference) :
    (registry.extend refs).extend refs = registry.extend refs :=
  Keyed.putAll_putAll hdistinct _

namespace Workspace

/-- When a project comes again, nothing but aliases can change. -/
theorem restore_restore_eq {w : Workspace} (h : w.Distinct) (p : Project) :
    (w.restore p).restore p =
      { w.restore p with aliases := (w.aliases.update p.aliases).update p.aliases } := by
  simp only [restore, Stores.restore, SessionStore.addAll_addAll h.sessions,
    TagStore.extend_extend, LegalRegistry.extend_extend h.legal]

/-- **The same project merged in again.**  The second time leaves everything as
    it is, but may add aliases of the project that were dropped the first time;
    which ones is known from the aliases of the project alone and those there are.
    So it changes nothing exactly if none was dropped that the project by itself
    keeps.  The third time never changes anything. -/
theorem restore_restore {w : Workspace} (h : Reachable w) (p : Project) :
    (∃ late : AliasMap,
      (w.restore p).restore p = { w.restore p with aliases := (w.restore p).aliases ++ late } ∧
      late.map Prod.fst =
        ((AliasMap.update [] p.aliases).map Prod.fst).filter fun k => !(w.restore p).aliases.has k) ∧
    ((w.restore p).restore p = w.restore p ↔
      ∀ k ∈ (AliasMap.update [] p.aliases).map Prod.fst, k ∈ (w.restore p).aliases.map Prod.fst) ∧
    ((w.restore p).restore p).restore p = (w.restore p).restore p := by
  have hdistinct := distinct_of_reachable h
  have hagain := restore_restore_eq hdistinct p
  refine ⟨?_, ?_, ?_⟩
  · obtain ⟨late, heq, hkeys⟩ := AliasMap.update_update hdistinct.aliases p.aliases
    refine ⟨late, ?_, hkeys⟩
    rw [hagain, heq]
    rfl
  · refine Iff.trans ?_ (AliasMap.update_update_eq_iff hdistinct.aliases p.aliases)
    rw [hagain]
    constructor
    · intro hsame
      exact congrArg (·.aliases) hsame
    · intro hsame
      rw [hsame]
      rfl
  · rw [restore_restore_eq (distinct_restore hdistinct p), hagain]
    exact congrArg (fun aliases => { w.restore p with aliases })
      (AliasMap.update_update_update hdistinct.aliases p.aliases)

def shownAsRui : Workspace :=
  ({ sessions := .ofList [{ id := "S2", target := "", date := "", kind := .sms, content := "olá" }]
     aliases := AliasMap.flatten (.ofPairs [("Rui M.", "Rui")])
     legal := .ofList [] } : Workspace).perform
    (.edit (.createTag ⟨"t1", 0⟩ "all" (some ["S2"])))

theorem reachable_shownAsRui : Reachable shownAsRui :=
  .perform (.start _ _ [] [] .dateDescending firstLineSpeaker) _

/-- Aliases that clash with none of the workspace are all taken the first time. -/
theorem restore_restore_repetitiveProject :
    (shownAsRui.restore repetitiveProject).aliases =
        [("Rui M.", "Rui"), ("Zé", "José"), ("Zeca", "José")] ∧
      ((shownAsRui.restore repetitiveProject).tags.map (·.name)) = ["all"] ∧
      (shownAsRui.restore repetitiveProject).restore repetitiveProject =
        shownAsRui.restore repetitiveProject :=
  ⟨by decide +kernel, by decide +kernel,
    (restore_restore reachable_shownAsRui repetitiveProject).2.1.mpr (by decide +kernel)⟩

/-- A project that shows the two spellings the other way round. -/
def shownAsRuiM : Project := { version := "1.1", aliases := [("Rui", "Rui M.")] }

/-- The first time both are dropped, the second time one of them is taken. -/
theorem restoring_twice_adds_alias :
    Reachable shownAsRui ∧ (shownAsRui.restore shownAsRuiM).aliases = [] ∧
      ((shownAsRui.restore shownAsRuiM).restore shownAsRuiM).aliases = [("Rui", "Rui M.")] :=
  ⟨reachable_shownAsRui, by decide +kernel, by decide +kernel⟩

end Workspace

end Transcripts
