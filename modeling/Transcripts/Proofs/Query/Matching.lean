/-
  Transcripts/Proofs/Query/Matching.lean
  ======================================
  **When a term is found in a content.**

  The rule is that a term is found where it occurs, and that a longer term without
  blanks is also found where a word is within a few edits of it (`FoundIn`).  The search
  passes over words of another length without counting edits.  It loses nothing by
  that, because every edit changes the length by at most one.  Nor does it matter
  whether the empty parts between two separators are compared as if they were words:
  a term that may be misspelled is longer than the edits that it tolerates.

  Neither an occurrence of a term without a space nor a word goes across a space.  So
  what is found in two texts joined by a space is found in one of them.
-/
import Transcripts.Proofs.Query.AddedText
import Transcripts.Proofs.Query.EditScripts

namespace Transcripts.Query

open Transcripts.Text

variable {content term word : List Char} {edits : Nat}

/-! ### Words within a few edits -/

/-- Where a folded term is found: as it is, or misspelled. -/
def FoundIn (content term : List Char) : Prop :=
  term <:+: content ∨
    3 < term.length ∧ (∀ c ∈ term, isBlank c = false) ∧
      ∃ word, IsRun isWordChar word content ∧ ∃ n ≤ tolerance term, EditScript n word term

/-- Words whose lengths tell them apart are not within so many edits. -/
theorem isNear_iff : isNear edits word term = true ↔ ∃ n ≤ edits, EditScript n word term := by
  rw [isNear, Bool.and_eq_true, decide_eq_true_eq, editDistance_le_iff]
  constructor
  · exact And.right
  · rintro ⟨n, hn, hscript⟩
    have hword := hscript.length_le
    have hterm := hscript.symm.length_le
    refine ⟨?_, n, hn, hscript⟩
    rw [Bool.and_eq_true, decide_eq_true_eq, decide_eq_true_eq]
    omega

theorem tolerance_lt_length (hlong : exactLength < term.length) : tolerance term < term.length := by
  rw [exactLength] at hlong
  rw [tolerance]
  split <;> omega

theorem not_isNear_nil (hlong : exactLength < term.length) : isNear (tolerance term) [] term = false := by
  rw [Bool.eq_false_iff]
  intro hnear
  obtain ⟨n, hn, hscript⟩ := isNear_iff.mp hnear
  have htolerance := tolerance_lt_length hlong
  have hlength := hscript.length_le
  rw [List.length_nil] at hlength
  omega

theorem any_isNear_splitBy (hlong : exactLength < term.length) (content : List Char) :
    ((splitBy (!isWordChar ·) content).any fun part => isNear (tolerance term) part term) =
      (wordsOf content).any fun word => isNear (tolerance term) word term := by
  rw [wordsOf, pieces, List.any_filter]
  congr 1
  funext part
  cases part with
  | nil => rw [not_isNear_nil hlong]; rfl
  | cons c part => rfl

theorem hasTerm_iff : hasTerm content term = true ↔ FoundIn content term := by
  have hwords : ((wordsOf content).any fun word => isNear (tolerance term) word term) = true ↔
      ∃ word, IsRun isWordChar word content ∧ ∃ n ≤ tolerance term, EditScript n word term := by
    simp only [List.any_eq_true, wordsOf, mem_pieces_iff, isNear_iff]
  have hblank : (!term.any isBlank) = true ↔ ∀ c ∈ term, isBlank c = false := by simp
  rw [hasTerm, Bool.or_eq_true, Bool.and_eq_true, Bool.and_eq_true, occursIn_iff_isInfix, hwords, hblank,
    decide_eq_true_eq, and_assoc]
  rfl

/-- **A term is found by the plain rule.**  No word is skipped that is within the edits
    which the term tolerates, and comparing the empty parts too would find no more. -/
theorem matchesTerm_iff (content : List Char) (term : String) :
    (matchesTerm content term = true ↔ FoundIn content (fold term.toList)) ∧
      matchesTerm content term =
        (occursIn (fold term.toList) content ||
          (exactLength < (fold term.toList).length && !(fold term.toList).any isBlank &&
            (splitBy (!isWordChar ·) content).any fun part =>
              isNear (tolerance (fold term.toList)) part (fold term.toList))) := by
  refine ⟨hasTerm_iff, ?_⟩
  rw [matchesTerm, hasTerm]
  by_cases hlong : exactLength < (fold term.toList).length
  · rw [any_isNear_splitBy hlong]
  · simp only [hlong, decide_false, Bool.false_and]

/-! ### Texts joined by a space -/

theorem occursIn_append_space (hterm : ' ' ∉ term) (front back : List Char) :
    occursIn term (front ++ ' ' :: back) = (occursIn term front || occursIn term back) := by
  rw [Bool.eq_iff_iff, Bool.or_eq_true]
  simp only [occursIn_iff_isInfix]
  exact infix_append_cons_iff hterm front back

theorem hasTerm_append_space (hterm : ' ' ∉ term) (front back : List Char) :
    hasTerm (front ++ ' ' :: back) term = (hasTerm front term || hasTerm back term) := by
  rw [hasTerm, hasTerm, hasTerm, occursIn_append_space hterm, wordsOf_append_space, List.any_append,
    Bool.and_or_distrib_left]
  ac_rfl

/-- **A term without a space is found on one side of it.** -/
theorem matchesTerm_append_space {term : String} (hterm : ' ' ∉ fold term.toList)
    (front back : List Char) :
    matchesTerm (front ++ ' ' :: back) term = (matchesTerm front term || matchesTerm back term) :=
  hasTerm_append_space hterm front back

/-- A misspelled word at the end of a text that ends in a blank itself. -/
theorem matchesTerm_append_space_lisboa :
    ' ' ∉ fold "LISBÃO".toList ∧ matchesTerm "foi a lisboa  ".toList "LISBÃO" = true ∧
      matchesTerm ("foi a lisboa  ".toList ++ ' ' :: " ontem".toList) "LISBÃO" = true := by
  have hspace : ' ' ∉ fold "LISBÃO".toList := by decide +kernel
  have hfound : matchesTerm "foi a lisboa  ".toList "LISBÃO" = true := by decide +kernel
  refine ⟨hspace, hfound, ?_⟩
  rw [matchesTerm_append_space hspace, hfound, Bool.true_or]

end Transcripts.Query
