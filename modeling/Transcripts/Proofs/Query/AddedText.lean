/-
  Transcripts/Proofs/Query/AddedText.lean
  =======================================
  **Adding text never loses a match.**

  A content that goes on behind a space, or begins before one, holds every term
  that it held: what occurred still occurs, and every word is still a word of its
  own.  Without negation an operator can only gain from an operand that becomes
  true.  This holds of every stack of operands, also where operands are missing,
  so it needs no grammar: the query may be as malformed as it likes.
-/
import Mathlib.Data.List.Forall2
import Transcripts.Proofs.Query.Grammar
import Transcripts.Proofs.Text.Folding
import Transcripts.Proofs.Text.Split

namespace Transcripts.Query

open Transcripts.Text

/-! ### Contents that hold more -/

/-- A content that has all the texts and all the words of another. -/
structure Extends (content content' : List Char) : Prop where
  texts : content <:+: content'
  words : ∀ word ∈ wordsOf content, word ∈ wordsOf content'

theorem wordsOf_append_space (front back : List Char) :
    wordsOf (front ++ ' ' :: back) = wordsOf front ++ wordsOf back := by
  have hspace : isWordChar ' ' = false := by decide +kernel
  refine pieces_append_cons ?_ front back
  simp [hspace]

theorem extends_text_behind (content added : List Char) :
    Extends content (content ++ ' ' :: added) where
  texts := List.infix_append' [] content (' ' :: added)
  words := by
    intro word hword
    rw [wordsOf_append_space]
    exact List.mem_append_left _ hword

theorem extends_text_before (content added : List Char) :
    Extends content (added ++ ' ' :: content) where
  texts := by
    refine List.IsSuffix.isInfix ?_
    exact (List.suffix_cons ' ' content).trans (List.suffix_append added _)
  words := by
    intro word hword
    rw [wordsOf_append_space]
    exact List.mem_append_right _ hword

section Terms

variable {content content' : List Char}

theorem occursIn_of_extends (h : Extends content content') {part : List Char}
    (hfound : occursIn part content = true) : occursIn part content' = true := by
  rw [occursIn_iff_isInfix] at hfound ⊢
  exact hfound.trans h.texts

theorem hasTerm_of_extends (h : Extends content content') {term : List Char}
    (hfound : hasTerm content term = true) : hasTerm content' term = true := by
  rw [hasTerm, Bool.or_eq_true] at hfound ⊢
  rcases hfound with hoccurs | hnear
  · exact .inl (occursIn_of_extends h hoccurs)
  · right
    rw [Bool.and_eq_true, List.any_eq_true] at hnear ⊢
    obtain ⟨hlong, word, hword, hnear⟩ := hnear
    exact ⟨hlong, word, h.words word hword, hnear⟩

/-! ### Operators without negation -/

/-- Stacks of the same height, the second true wherever the first is. -/
def Below : List Bool → List Bool → Prop := List.Forall₂ fun b b' => b = true → b' = true

theorem popOperand_of_below {stack stack' : List Bool} (h : Below stack stack') :
    ((popOperand stack).1 = true → (popOperand stack').1 = true) ∧
      Below (popOperand stack).2 (popOperand stack').2 := by
  cases h with
  | nil => exact ⟨id, .nil⟩
  | cons hb hrest => exact ⟨hb, hrest⟩

theorem Operator.apply_of_below {o : Operator} (hnot : o ≠ .notWord) (hminus : o ≠ .minus)
    {stack stack' : List Bool} (h : Below stack stack') : Below (o.apply stack) (o.apply stack') := by
  obtain ⟨hright, hbelow⟩ := popOperand_of_below h
  obtain ⟨hleft, hrest⟩ := popOperand_of_below hbelow
  cases o with
  | notWord => exact absurd rfl hnot
  | minus => exact absurd rfl hminus
  | andWord | plus =>
    refine .cons (fun hboth => ?_) hrest
    rw [Bool.and_eq_true] at hboth ⊢
    exact ⟨hleft hboth.1, hright hboth.2⟩
  | orWord | openParen | closeParen | unknown _ =>
    refine .cons (fun heither => ?_) hrest
    rw [Bool.or_eq_true] at heither ⊢
    exact heither.imp hleft hright

theorem Token.apply_of_below (hcontent : Extends content content') {t : Token}
    (hnot : t ≠ .op .notWord) (hminus : t ≠ .op .minus) {stack stack' : List Bool}
    (h : Below stack stack') : Below (t.apply content stack) (t.apply content' stack') := by
  cases t with
  | phrase text => exact .cons (occursIn_of_extends hcontent) h
  | word text => exact .cons (hasTerm_of_extends hcontent) h
  | op o =>
    have hnot' : o ≠ .notWord := fun heq => hnot (congrArg Token.op heq)
    have hminus' : o ≠ .minus := fun heq => hminus (congrArg Token.op heq)
    exact Operator.apply_of_below hnot' hminus' h

theorem run_of_below (hcontent : Extends content content') {ts : List Token}
    (hnot : .op .notWord ∉ ts) (hminus : .op .minus ∉ ts) {stack stack' : List Bool}
    (h : Below stack stack') : Below (run content stack ts) (run content' stack' ts) := by
  induction ts generalizing stack stack' with
  | nil => exact h
  | cons t ts ih =>
    rw [List.mem_cons, not_or] at hnot hminus
    have hstep := Token.apply_of_below hcontent (Ne.symm hnot.1) (Ne.symm hminus.1) h
    exact ih hnot.2 hminus.2 hstep

theorem all_of_below {stack stack' : List Bool} (h : Below stack stack')
    (hall : stack.all id = true) : stack'.all id = true := by
  induction h with
  | nil => rfl
  | cons hb _ ih =>
    rw [List.all_cons, Bool.and_eq_true] at hall ⊢
    exact ⟨hb hall.1, ih hall.2⟩

theorem settles_of_below {stack stack' : List Bool} (h : Below stack stack')
    (hsettles : settles stack = true) : settles stack' = true := by
  rw [settles, Bool.and_eq_true] at hsettles ⊢
  refine ⟨?_, all_of_below h hsettles.2⟩
  cases h with
  | nil => exact hsettles.1
  | cons _ _ => rfl

end Terms

/-! ### Reordering makes up no operators -/

theorem mem_of_mem_reorderFrom {waiting : List Operator} {ts : List Token} {t : Token}
    (h : t ∈ reorderFrom waiting ts) : t ∈ ts ∨ ∃ o ∈ waiting, .op o = t := by
  induction ts generalizing waiting with
  | nil =>
    obtain ⟨o, ho, rfl⟩ := List.mem_map.mp h
    exact .inr ⟨o, (List.mem_filter.mp ho).1, rfl⟩
  | cons u ts ih =>
    -- whatever the token releases waited, and whatever waits then did so or is the token
    have hread (released kept : List Operator) (hreleased : released ⊆ waiting)
        (hkept : ∀ o ∈ kept, o ∈ waiting ∨ .op o = u)
        (hmem : t ∈ released.map .op ++ reorderFrom kept ts) :
        t ∈ u :: ts ∨ ∃ o ∈ waiting, .op o = t := by
      rcases List.mem_append.mp hmem with hout | hlater
      · obtain ⟨o, ho, rfl⟩ := List.mem_map.mp hout
        exact .inr ⟨o, hreleased ho, rfl⟩
      · rcases ih hlater with htail | ⟨o, ho, rfl⟩
        · exact .inl (List.mem_cons_of_mem u htail)
        · rcases hkept o ho with hwaiting | rfl
          · exact .inr ⟨o, hwaiting, rfl⟩
          · exact .inl List.mem_cons_self
    have hterm (hmem : t ∈ u :: reorderFrom waiting ts) :
        t ∈ u :: ts ∨ ∃ o ∈ waiting, .op o = t := by
      rcases List.mem_cons.mp hmem with rfl | hlater
      · exact .inl List.mem_cons_self
      · rcases ih hlater with htail | hwaiting
        · exact .inl (List.mem_cons_of_mem u htail)
        · exact .inr hwaiting
    cases u with
    | phrase text => exact hterm h
    | word text => exact hterm h
    | op incoming =>
      cases incoming with
      | openParen =>
        refine hread [] (.openParen :: waiting) (List.nil_subset waiting) (fun o ho => ?_) h
        exact (List.mem_cons.mp ho).symm.imp_right (congrArg Token.op)
      | closeParen =>
        refine hread _ _ (List.takeWhile_sublist _).subset (fun o ho => .inl ?_) h
        exact (List.dropWhile_sublist _).subset ((List.tail_sublist _).subset ho)
      | orWord | andWord | plus | notWord | minus | unknown _ =>
        refine hread _ _ (List.takeWhile_sublist _).subset (fun o ho => ?_) h
        rcases List.mem_cons.mp ho with rfl | ho
        · exact .inr rfl
        · exact .inl ((List.dropWhile_sublist _).subset ho)

theorem mem_of_mem_reorder {ts : List Token} {t : Token} (h : t ∈ reorder ts) : t ∈ ts := by
  rcases mem_of_mem_reorderFrom h with hmem | ⟨o, ho, _⟩
  · exact hmem
  · exact absurd ho List.not_mem_nil

/-! ### Queries without negation -/

theorem findsFolded_of_extends {query : String} (hnot : .op .notWord ∉ tokens query)
    (hminus : .op .minus ∉ tokens query) {content content' : List Char}
    (hcontent : Extends content content') (h : (compile query).findsFolded content = true) :
    (compile query).findsFolded content' = true := by
  by_cases hblank : isBlankText query = true
  · rw [compile, if_pos hblank]
    rfl
  · rw [compile, if_neg hblank, Compiled.findsFolded, Bool.false_or] at h ⊢
    refine settles_of_below (run_of_below hcontent ?_ ?_ .nil) h
    · exact fun hmem => hnot (mem_of_mem_reorder hmem)
    · exact fun hmem => hminus (mem_of_mem_reorder hmem)

/-- **Adding text never loses a match.**  Whatever a query without negation finds,
    well-formed or not, it still finds when text is added behind or in front. -/
theorem finds_added_text {query : String} (hnot : .op .notWord ∉ tokens query)
    (hminus : .op .minus ∉ tokens query) (content added : String)
    (h : (compile query).finds content = true) :
    (compile query).finds (content ++ " " ++ added) = true ∧
      (compile query).finds (added ++ " " ++ content) = true := by
  have hfold (front back : String) : fold (front ++ " " ++ back).toList =
      fold front.toList ++ ' ' :: fold back.toList := by
    simp [fold_append_space]
  rw [Compiled.finds] at h
  rw [Compiled.finds, Compiled.finds, hfold, hfold]
  exact ⟨findsFolded_of_extends hnot hminus (extends_text_behind _ _) h,
    findsFolded_of_extends hnot hminus (extends_text_before _ _) h⟩

/-- A query with a parenthesis that is never opened, one that is never closed and an
    operator without its second operand; the content ends in a capital sigma, and the
    added text begins with a mark. -/
theorem finds_added_text_malformed :
    .op .notWord ∉ tokens ") lisbao OR (" ∧ .op .minus ∉ tokens ") lisbao OR (" ∧
      (compile ") lisbao OR (").finds "de LISBOÁ a ΠΑΤΡΑΣ" = true ∧
      (compile ") lisbao OR (").finds ("de LISBOÁ a ΠΑΤΡΑΣ" ++ " " ++ "\u0301Σ") = true ∧
      (compile ") lisbao OR (").finds ("\u0301Σ" ++ " " ++ "de LISBOÁ a ΠΑΤΡΑΣ") = true := by
  have hnot : .op .notWord ∉ tokens ") lisbao OR (" := by decide +kernel
  have hminus : .op .minus ∉ tokens ") lisbao OR (" := by decide +kernel
  have hfinds : (compile ") lisbao OR (").finds "de LISBOÁ a ΠΑΤΡΑΣ" = true := by decide +kernel
  exact ⟨hnot, hminus, hfinds, finds_added_text hnot hminus _ "\u0301Σ" hfinds⟩

end Transcripts.Query
