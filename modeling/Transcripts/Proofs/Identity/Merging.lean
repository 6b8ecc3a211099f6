/-
  Transcripts/Proofs/Identity/Merging.lean
  ========================================
  **Who is shown as whom after a merge.**

  A merge looks at each entry of the map once.  It sends the entry on if its
  identity is one of the spellings, strikes the new identity off the spellings, and
  puts the spellings themselves.  The three can meet in one name: the new identity
  may have been a spelling or be among the spellings, and a spelling may have stood
  for others.  They do not disturb each other.  A merge gathers exactly the new
  identity, the spellings and whatever was shown as one of them; everybody else is
  shown as before.

  An empty text is not a spelling.  A merge passes over it, so what was shown as an
  empty identity stays where it is, even if the empty text is given among the
  spellings.
-/
import Transcripts.Proofs.Collection.Overlay
import Transcripts.Proofs.Identity.Flatness

namespace Transcripts.Identity.AliasMap

open Transcripts.Text

variable {m : AliasMap} {raws : List String} {display name : String}

theorem resolve_of_ne (hname : name ≠ "") :
    m.resolve (some name) = some ((m.get? name).getD name) := by
  simp [resolve, hname]

/-! ### The map after a merge -/

theorem mem_merged : name ∈ merged raws ↔ name ∈ raws ∧ name ≠ "" := by
  rw [merged, mem_firstOccurrences, List.mem_filter]
  simp

theorem merge_of_selected (hraws : ∃ raw ∈ raws, raw ≠ "") (hdisplay : trimmed display ≠ "") :
    m.merge raws display = .ok (m.unify (merged raws) (trimmed display)) := by
  obtain ⟨raw, hraw, hne⟩ := hraws
  have hmerged : merged raws ≠ [] := List.ne_nil_of_mem (mem_merged.mpr ⟨hraw, hne⟩)
  rw [merge]
  split
  · next hblank => exact absurd (by simpa using hblank) hdisplay
  · split
    · next hnone => exact absurd (List.isEmpty_iff.mp hnone) hmerged
    · rfl

theorem get?_unify (raws : List String) (display name : String) :
    (m.unify raws display).get? name =
      if name = display then none
      else if name ∈ raws then some display
      else (m.get? name).map fun value => if raws.contains value then display else value := by
  rw [unify, Keyed.get?_putAll, Keyed.get?_ofPairs_same,
    Keyed.get?_map fun _ value => if raws.contains value then display else value, Keyed.get?_erase]
  by_cases hshown : name = display
  · simp [hshown]
  · by_cases hraw : name ∈ raws
    · simp [hshown, hraw]
    · simp [hshown, hraw]

/-! ### What a merge gathers -/

/-- Whether a merge gathers a name: it is the new identity or a spelling, or was shown
    as a spelling. -/
def Gathers (m : AliasMap) (raws : List String) (display name : String) : Prop :=
  name = trimmed display ∨ name ∈ raws ∨ ∃ raw ∈ raws, raw ≠ "" ∧ m.resolve (some name) = some raw

instance (m : AliasMap) (raws : List String) (display name : String) :
    Decidable (m.Gathers raws display name) :=
  inferInstanceAs (Decidable (_ ∨ _ ∨ ∃ raw ∈ raws, _))

theorem resolve_unify_of_gathers (hname : name ≠ "") (h : m.Gathers raws display name) :
    (m.unify (merged raws) (trimmed display)).resolve (some name) = some (trimmed display) := by
  rw [resolve_of_ne hname, get?_unify]
  by_cases hshown : name = trimmed display
  · rw [if_pos hshown, hshown]
    rfl
  · rw [if_neg hshown]
    by_cases hraw : name ∈ merged raws
    · rw [if_pos hraw]
      rfl
    · rw [if_neg hraw]
      -- no spelling itself, so it has an entry that is sent on
      have hnew : name ∉ raws := fun h => hraw (mem_merged.mpr ⟨h, hname⟩)
      obtain ⟨raw, hmem, hne, hvalue⟩ : ∃ raw ∈ raws, raw ≠ "" ∧ m.resolve (some name) = some raw := by
        rcases h with h | h | h
        · exact absurd h hshown
        · exact absurd h hnew
        · exact h
      rw [resolve_of_ne hname] at hvalue
      cases hget : m.get? name with
      | none =>
        rw [hget] at hvalue
        cases hvalue
        exact absurd hmem hnew
      | some value =>
        rw [hget] at hvalue
        cases hvalue
        have hmerged : value ∈ merged raws := mem_merged.mpr ⟨hmem, hne⟩
        simp [hmerged]

theorem resolve_unify_of_not_gathers (hname : name ≠ "") (h : ¬ m.Gathers raws display name) :
    (m.unify (merged raws) (trimmed display)).resolve (some name) = m.resolve (some name) := by
  rw [Gathers, not_or, not_or] at h
  obtain ⟨hshown, hraw, hvalue⟩ := h
  have hnew : name ∉ merged raws := fun h => hraw (mem_merged.mp h).1
  rw [resolve_of_ne hname] at hvalue
  rw [resolve_of_ne hname, resolve_of_ne hname, get?_unify, if_neg hshown, if_neg hnew]
  cases hget : m.get? name with
  | none => rfl
  | some value =>
    have hstay : value ∉ merged raws := by
      intro hmerged
      obtain ⟨hmem, hne⟩ := mem_merged.mp hmerged
      apply hvalue
      exact ⟨value, hmem, hne, by rw [hget]; rfl⟩
    simp [hstay]

/-- **A merge gathers what it should, and nothing else.**  It is not refused if there is
    a spelling and the new identity is not blank.  Then the new identity, the spellings
    and what was shown as one of them are shown as the new identity, and every other
    name is shown as it was. -/
theorem resolve_merge (m : AliasMap) (hraws : ∃ raw ∈ raws, raw ≠ "")
    (hdisplay : trimmed display ≠ "") :
    ∃ m', m.merge raws display = .ok m' ∧
      ∀ name, name ≠ "" →
        (m.Gathers raws display name → m'.resolve (some name) = some (trimmed display)) ∧
        (¬ m.Gathers raws display name → m'.resolve (some name) = m.resolve (some name)) := by
  refine ⟨_, merge_of_selected hraws hdisplay, ?_⟩
  intro name hname
  constructor
  · intro hgathers
    exact resolve_unify_of_gathers hname hgathers
  · intro hgathers
    exact resolve_unify_of_not_gathers hname hgathers

/-- Two lines of one caller, a nickname, and a name that is itself a nickname. -/
def callers : AliasMap :=
  flatten (.ofPairs [("912 345 678", "Rui M."), ("912345678", "Rui M."), ("Rui", "Ruizinho"),
    ("Zé", "José")])

/-- The new identity was a spelling, one spelling stood for two lines and one was itself
    shown as somebody else. -/
theorem resolve_merge_callers :
    (∃ raw ∈ ["Rui M.", "", "Zé"], raw ≠ "") ∧ trimmed " Rui " ≠ "" ∧
      ∃ m', callers.merge ["Rui M.", "", "Zé"] " Rui " = .ok m' ∧
        m'.resolve (some "912 345 678") = some "Rui" ∧ m'.resolve (some "Zé") = some "Rui" ∧
        m'.resolve (some "Rui") = some "Rui" ∧ m'.resolve (some "José") = some "José" := by
  have hraws : ∃ raw ∈ ["Rui M.", "", "Zé"], raw ≠ "" := by decide
  have hdisplay : trimmed " Rui " ≠ "" := by decide +kernel
  have hshown : trimmed " Rui " = "Rui" := by decide +kernel
  obtain ⟨m', hm', hnames⟩ := resolve_merge callers hraws hdisplay
  rw [hshown] at hnames
  refine ⟨hraws, hdisplay, m', hm', ?_, ?_, ?_, ?_⟩
  · exact (hnames "912 345 678" (by decide)).1 (by decide +kernel)
  · exact (hnames "Zé" (by decide)).1 (by decide +kernel)
  · exact (hnames "Rui" (by decide)).1 (by decide +kernel)
  · rw [(hnames "José" (by decide)).2 (by decide +kernel)]
    decide +kernel

/-- A line whose owner was left empty. -/
def unnamedLine : AliasMap := flatten (.ofPairs [("912 345 678", "")])

/-- The line is shown as the empty identity, the empty text is among the spellings, and
    still the line does not follow it. -/
theorem empty_spelling_is_passed_over :
    Reachable unnamedLine ∧ unnamedLine.resolve (some "912 345 678") = some "" ∧
      (unnamedLine.merge ["", "912345678"] "Rui").toOption.map
        (resolve · (some "912 345 678")) = some (some "") :=
  ⟨.start _, by decide +kernel, by decide +kernel⟩

end Transcripts.Identity.AliasMap
