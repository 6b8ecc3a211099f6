/-
  Transcripts/Proofs/Text/Folding.lean
  ====================================
  **A space keeps what is folded on its two sides apart.**

  Folding looks at the surroundings of a character twice: the final sigma asks
  whether letters stand before and behind it, and marks move past marks.  A space
  is neither a letter, nor looked through, nor a mark, so it ends both.  Two texts
  joined by a space are therefore folded one by one.
-/
import Transcripts.Text.Folding

namespace Transcripts.Text

/-! ### What a space is to each step -/

theorem not_isCased_space : isCased ' ' = false := by decide +kernel

theorem not_isCaseTransparent_space : isCaseTransparent ' ' = false := by decide +kernel

theorem combiningClass_space : combiningClass ' ' = 0 := by decide +kernel

theorem lowerChar_space : lowerChar ' ' = [' '] := by decide +kernel

theorem decomposeChar_space : decomposeChar ' ' = [' '] := by decide +kernel

/-! ### Lowering -/

/-- No letter follows across a space. -/
theorem continuesWord_append_space (cs ds : List Char) :
    continuesWord (cs ++ ' ' :: ds) = continuesWord cs := by
  induction cs with
  | nil => simp [continuesWord, not_isCaseTransparent_space, not_isCased_space]
  | cons c cs ih =>
    by_cases hc : isCaseTransparent c = true
    · simpa [continuesWord, List.dropWhile_cons_of_pos hc] using ih
    · simp [continuesWord, List.dropWhile_cons_of_neg hc]

theorem lowerAfter_append_space (afterLetter : Bool) (cs ds : List Char) :
    lowerAfter afterLetter (cs ++ ' ' :: ds) = lowerAfter afterLetter cs ++ ' ' :: lower ds := by
  induction cs generalizing afterLetter with
  | nil =>
    have hne : ' ' ≠ 'Σ' := by decide
    simp [lowerAfter, lower, hne, lowerChar_space, not_isCaseTransparent_space, not_isCased_space]
  | cons c cs ih =>
    -- only the sigma looks ahead, and it sees no further than the space
    simp only [List.cons_append, lowerAfter, continuesWord_append_space, ih, List.append_assoc]

theorem lower_append_space (cs ds : List Char) :
    lower (cs ++ ' ' :: ds) = lower cs ++ ' ' :: lower ds :=
  lowerAfter_append_space false cs ds

/-! ### Decomposing -/

theorem insertMark_append_space (c : Char) (cs ds : List Char) :
    insertMark c (cs ++ ' ' :: ds) = insertMark c cs ++ ' ' :: ds := by
  induction cs with
  | nil => simp [insertMark, combiningClass_space]
  | cons d cs ih =>
    simp only [List.cons_append, insertMark]
    split
    · rw [ih, List.cons_append]
    · simp only [List.cons_append]

theorem orderMarks_append_space (cs ds : List Char) :
    orderMarks (cs ++ ' ' :: ds) = orderMarks cs ++ ' ' :: orderMarks ds := by
  have hspace : ∀ es : List Char, insertMark ' ' es = ' ' :: es := by
    intro es
    cases es <;> simp [insertMark, combiningClass_space]
  induction cs with
  | nil => exact hspace _
  | cons c cs ih =>
    calc orderMarks (c :: cs ++ ' ' :: ds)
      _ = insertMark c (orderMarks (cs ++ ' ' :: ds)) := rfl
      _ = insertMark c (orderMarks cs ++ ' ' :: orderMarks ds) := by rw [ih]
      _ = orderMarks (c :: cs) ++ ' ' :: orderMarks ds := insertMark_append_space c _ _

theorem decompose_append_space (cs ds : List Char) :
    decompose (cs ++ ' ' :: ds) = decompose cs ++ ' ' :: decompose ds := by
  have hparts : (cs ++ ' ' :: ds).flatMap decomposeChar =
      cs.flatMap decomposeChar ++ ' ' :: ds.flatMap decomposeChar := by
    simp [decomposeChar_space]
  rw [decompose, hparts, orderMarks_append_space]
  rfl

/-! ### Folding -/

/-- Texts joined by a space are folded one by one. -/
theorem fold_append_space (cs ds : List Char) :
    fold (cs ++ ' ' :: ds) = fold cs ++ ' ' :: fold ds := by
  have hkept : isDiacritic ' ' = false := by decide
  rw [fold, lower_append_space, decompose_append_space, List.filter_append,
    List.filter_cons_of_pos (by simp [hkept])]
  rfl

end Transcripts.Text
