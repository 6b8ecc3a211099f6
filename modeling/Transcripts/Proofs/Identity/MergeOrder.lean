/-
  Transcripts/Proofs/Identity/MergeOrder.lean
  ===========================================
  **Merges without a common name can change places.**

  A merge sends entries on, strikes one off and puts others, so two merges can meet
  in an entry although they have no name in common: a spelling of the one may have
  been shown as a spelling of the other.  Then the merge that names it wins, whether
  it comes first or last.  If it comes first, the entry no longer leads to a spelling
  of the other; if it comes last, it puts the entry anew.

  What two merges come to is said at once, for every name and whatever the map was.
  In this form the order of the two cannot be seen.
-/
import Transcripts.Proofs.Identity.Merging

namespace Transcripts.Identity.AliasMap

open Transcripts.Text

section Unify

variable {m : AliasMap} {raws raws' : List String} {display display' : String}

/-- What two merges come to, the first of them with other names than the second. -/
theorem get?_unify_unify (hapart : ∀ name ∈ display :: raws, name ∉ display' :: raws')
    (name : String) :
    ((m.unify raws display).unify raws' display').get? name =
      if name = display ∨ name = display' then none
      else if name ∈ raws then some display
      else if name ∈ raws' then some display'
      else (m.get? name).map fun value =>
        if value ∈ raws then display else if value ∈ raws' then display' else value := by
  have hdisplay : display ≠ display' ∧ display ∉ raws' := by
    simpa using hapart display List.mem_cons_self
  have hraws : ∀ raw ∈ raws, raw ≠ display' ∧ raw ∉ raws' := by
    intro raw hraw
    simpa using hapart raw (List.mem_cons_of_mem _ hraw)
  rw [get?_unify, get?_unify]
  by_cases hshown : name = display
  · subst hshown
    simp [hdisplay.1, hdisplay.2]
  · by_cases hshown' : name = display'
    · simp [hshown']
    · by_cases hraw : name ∈ raws
      · obtain ⟨_, hother⟩ := hraws name hraw
        simp [hshown, hshown', hraw, hother, hdisplay.2]
      · by_cases hraw' : name ∈ raws'
        · simp [hshown, hshown', hraw, hraw']
        · -- an entry that both leave in place: it is sent on by at most one of them
          simp only [hshown, hshown', hraw, hraw', or_self, if_false, Option.map_map]
          congr 1
          funext value
          by_cases hvalue : value ∈ raws
          · simp [hvalue, hdisplay.2]
          · simp [hvalue]

/-- Under each name the two orders have the same entry. -/
theorem get?_unify_comm (hapart : ∀ name ∈ display :: raws, name ∉ display' :: raws')
    (name : String) :
    ((m.unify raws display).unify raws' display').get? name =
      ((m.unify raws' display').unify raws display).get? name := by
  have hapart' : ∀ name ∈ display' :: raws', name ∉ display :: raws := by
    intro name hname' hname
    exact hapart name hname hname'
  have honce : ∀ name ∈ raws, name ∉ raws' := by
    intro name hname hname'
    exact hapart name (List.mem_cons_of_mem _ hname) (List.mem_cons_of_mem _ hname')
  rw [get?_unify_unify hapart, get?_unify_unify hapart']
  refine ite_congr (propext or_comm) (fun _ => rfl) fun _ => ?_
  rw [ite_ite_comm _ _ _ _ (honce name)]
  congr 3
  funext value
  exact ite_ite_comm _ _ _ _ (honce value)

end Unify

/-- To resolve is to look up. -/
theorem resolve_congr {m m' : AliasMap} (h : ∀ name, m.get? name = m'.get? name)
    (raw : Option String) : m.resolve raw = m'.resolve raw := by
  cases raw with
  | none => rfl
  | some name => rw [resolve, resolve, h]

/-- **Merges without a common name commute.**  Let two merges be such that each has a
    spelling and a new identity that is not blank, and that no name is in both, the new
    identities included.  Then neither is refused, before or after the other, and in
    both orders everybody is shown as the same in the end. -/
theorem resolve_merge_comm (m : AliasMap) {raws raws' : List String} {display display' : String}
    (hraws : ∃ raw ∈ raws, raw ≠ "") (hdisplay : trimmed display ≠ "")
    (hraws' : ∃ raw ∈ raws', raw ≠ "") (hdisplay' : trimmed display' ≠ "")
    (hapart : ∀ name ∈ trimmed display :: raws, name ≠ "" → name ∉ trimmed display' :: raws') :
    ∃ m₁ m₂ m₁₂ m₂₁,
      m.merge raws display = .ok m₁ ∧ m₁.merge raws' display' = .ok m₁₂ ∧
      m.merge raws' display' = .ok m₂ ∧ m₂.merge raws display = .ok m₂₁ ∧
      ∀ raw, m₁₂.resolve raw = m₂₁.resolve raw := by
  refine ⟨_, _, _, _, merge_of_selected hraws hdisplay, merge_of_selected hraws' hdisplay',
    merge_of_selected hraws' hdisplay', merge_of_selected hraws hdisplay, ?_⟩
  apply resolve_congr
  apply get?_unify_comm
  -- the empty text may be among the spellings of both, but is merged by neither
  intro name hname hname'
  have hgiven : name ∈ trimmed display :: raws ∧ name ≠ "" := by
    rcases List.mem_cons.mp hname with rfl | hmerged
    · exact ⟨List.mem_cons_self, hdisplay⟩
    · obtain ⟨hraw, hne⟩ := mem_merged.mp hmerged
      exact ⟨List.mem_cons_of_mem _ hraw, hne⟩
  apply hapart name hgiven.1 hgiven.2
  rcases List.mem_cons.mp hname' with rfl | hmerged
  · exact List.mem_cons_self
  · exact List.mem_cons_of_mem _ (mem_merged.mp hmerged).1

/-- A spelling of the one merge was shown as a spelling of the other, and the new
    identity of one was shown as one of its spellings. -/
theorem resolve_merge_comm_callers :
    (∃ raw ∈ ["Rui M.", ""], raw ≠ "") ∧ trimmed " Silva" ≠ "" ∧
      (∃ raw ∈ ["912 345 678", "José", ""], raw ≠ "") ∧ trimmed "Zé" ≠ "" ∧
      (∀ name ∈ trimmed " Silva" :: ["Rui M.", ""], name ≠ "" →
        name ∉ trimmed "Zé" :: ["912 345 678", "José", ""]) ∧
      ∃ m₁ m₂ m₁₂ m₂₁,
        callers.merge ["Rui M.", ""] " Silva" = .ok m₁ ∧
        m₁.merge ["912 345 678", "José", ""] "Zé" = .ok m₁₂ ∧
        callers.merge ["912 345 678", "José", ""] "Zé" = .ok m₂ ∧
        m₂.merge ["Rui M.", ""] " Silva" = .ok m₂₁ ∧
        ∀ raw, m₁₂.resolve raw = m₂₁.resolve raw := by
  have hraws : ∃ raw ∈ ["Rui M.", ""], raw ≠ "" := by decide
  have hdisplay : trimmed " Silva" ≠ "" := by decide +kernel
  have hraws' : ∃ raw ∈ ["912 345 678", "José", ""], raw ≠ "" := by decide
  have hdisplay' : trimmed "Zé" ≠ "" := by decide +kernel
  have hapart : ∀ name ∈ trimmed " Silva" :: ["Rui M.", ""], name ≠ "" →
      name ∉ trimmed "Zé" :: ["912 345 678", "José", ""] := by decide +kernel
  exact ⟨hraws, hdisplay, hraws', hdisplay', hapart,
    resolve_merge_comm callers hraws hdisplay hraws' hdisplay' hapart⟩

end Transcripts.Identity.AliasMap
