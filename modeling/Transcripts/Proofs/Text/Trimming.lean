/-
  Transcripts/Proofs/Text/Trimming.lean
  =====================================
  **Blanks at the ends of a text outlast lowering.**

  Trimming takes blanks away and nothing else, and lowering neither makes a blank nor
  loses one.  The lowered capital sigma depends on what surrounds it, so a text that is
  trimmed need not be lowered in the way that its middle was before; but the blanks can
  be counted.  A text with blanks at its ends is therefore never the same, in any case,
  as the text without them.
-/
import Mathlib.Data.List.DropRight
import Transcripts.Proofs.Text.Split
import Transcripts.Proofs.Text.Tables
import Transcripts.Text.CharClass

namespace Transcripts.Text

variable {c : Char} {cs : List Char}

/-! ### Trimming -/

theorem trim_trim (cs : List Char) : trim (trim cs) = trim cs := by
  have hfront : (trim cs).dropWhile isBlank = trim cs := by
    have hprefix : trim cs <+: cs.dropWhile isBlank := List.rdropWhile_prefix isBlank (cs.dropWhile isBlank)
    cases htrim : trim cs with
    | nil => rfl
    | cons c rest =>
      obtain ⟨back, hback⟩ := htrim ▸ hprefix
      have hkept : c :: (rest ++ back) = (c :: (rest ++ back)).dropWhile isBlank := by
        rw [← List.cons_append, hback, List.dropWhile_idempotent]
      apply List.dropWhile_cons_of_neg
      intro hblank
      rw [List.dropWhile_cons_of_pos hblank] at hkept
      have hshorter := List.dropWhile_suffix (l := rest ++ back) isBlank
      have hlength := hshorter.length_le
      rw [← hkept, List.length_cons] at hlength
      omega
  calc trim (trim cs)
    _ = trimEnd (trim cs) := congrArg trimEnd hfront
    _ = trim cs := List.rdropWhile_idempotent isBlank (cs.dropWhile isBlank)

theorem trimmed_trimmed (s : String) : trimmed (trimmed s) = trimmed s := by
  rw [trimmed, trimmed, String.toList_ofList, trim_trim]

theorem trimmed_eq_self_iff {s : String} : trimmed s = s ↔ trim s.toList = s.toList := by
  constructor
  · intro h
    rw [← congrArg String.toList h, trimmed, String.toList_ofList, trim_trim]
  · intro h
    rw [trimmed, h, String.ofList_toList]

/-- A text loses a blank if trimming changes it. -/
theorem trim_eq_self_iff_countP : trim cs = cs ↔ (trim cs).countP isBlank = cs.countP isBlank := by
  constructor
  · intro h
    rw [h]
  · intro h
    obtain ⟨front, back, hcs, hfront, hback⟩ := exists_dropped_ends isBlank cs
    have hcs : cs = front ++ trim cs ++ back := hcs
    have hcount := congrArg (List.countP isBlank) hcs
    rw [List.countP_append, List.countP_append, List.countP_eq_length.mpr hfront,
      List.countP_eq_length.mpr hback] at hcount
    have hnone : front = [] ∧ back = [] := by
      constructor
      · exact List.eq_nil_of_length_eq_zero (by omega)
      · exact List.eq_nil_of_length_eq_zero (by omega)
    rw [hnone.1, hnone.2, List.nil_append, List.append_nil] at hcs
    exact hcs.symm

/-! ### Lowering -/

/-- A character that the table changes is no blank, and neither is what it becomes. -/
theorem unblank_codes : ∀ run ∈ loweringRuns, ∀ n ∈ run.codes,
    isBlank (.ofNat n) = false ∧ isBlank (.ofNat (n + run.offset).toNat) = false := by
  decide +kernel

theorem countP_lowerChar (c : Char) : (lowerChar c).countP isBlank = [c].countP isBlank := by
  rw [lowerChar]
  split
  · next hdotted =>
    rw [hdotted]
    decide
  · rcases mapByRuns_loweringTree c with hsame | ⟨run, hrun, hcode, hmade⟩
    · rw [hsame]
    · obtain ⟨hcapital, hsmall⟩ := unblank_codes run hrun _ hcode
      rw [Char.ofNat_toNat] at hcapital
      rw [hmade, List.countP_singleton, List.countP_singleton, hcapital, hsmall]

theorem countP_lowerAfter (afterLetter : Bool) (cs : List Char) :
    (lowerAfter afterLetter cs).countP isBlank = cs.countP isBlank := by
  induction cs generalizing afterLetter with
  | nil => rfl
  | cons c cs ih =>
    rw [lowerAfter, List.countP_append, ih, ← List.singleton_append (l := cs), List.countP_append]
    congr 1
    split
    · next hsigma =>
      rw [hsigma]
      split
      · decide
      · decide
    · exact countP_lowerChar c

/-- A text with blanks at its ends is not the trimmed text, in any case. -/
theorem lower_trim_eq_iff : lower (trim cs) = lower cs ↔ trim cs = cs := by
  constructor
  · intro h
    have hcount := congrArg (List.countP isBlank) h
    rw [lower, lower, countP_lowerAfter, countP_lowerAfter] at hcount
    exact trim_eq_self_iff_countP.mpr hcount
  · intro h
    rw [h]

theorem lowered_trimmed_eq_iff {s : String} : lowered (trimmed s) = lowered s ↔ trimmed s = s := by
  rw [trimmed_eq_self_iff, ← lower_trim_eq_iff, lowered, lowered, trimmed, String.toList_ofList,
    String.ofList_inj]

end Transcripts.Text
