/-
  Transcripts/Proofs/Text/Refolding.lean
  ======================================
  **What folding a folded text changes.**

  A folded text has no capitals, no composed characters and no diacritics, so a
  second folding can only move its marks.  Whether it does is a matter of order.
  Decomposing sorts the marks between two bases by class, and then the diacritics are
  dropped.  A diacritic of some class leaves its neighbours in order.  The grapheme
  joiner has class 0 and is dropped with the diacritics: what it kept apart comes
  together unsorted, and is sorted by the second folding.  After that nothing changes
  any more.
-/
import Mathlib.Data.List.Chain
import Transcripts.Proofs.Text.Tables

namespace Transcripts.Text

variable {c d : Char} {cs ds : List Char}

/-! ### Marks in order -/

/-- Whether a character may stand directly behind another one in an ordered text. -/
def MayFollow (c d : Char) : Prop := combiningClass d = 0 ∨ combiningClass c ≤ combiningClass d

instance (c d : Char) : Decidable (MayFollow c d) := inferInstanceAs (Decidable (_ ∨ _))

/-- No mark stands directly behind one of greater class. -/
def MarksOrdered (cs : List Char) : Prop := cs.IsChain MayFollow

instance (cs : List Char) : Decidable (MarksOrdered cs) :=
  inferInstanceAs (Decidable (cs.IsChain MayFollow))

theorem insertMark_perm (c : Char) (ds : List Char) : (insertMark c ds).Perm (c :: ds) := by
  induction ds with
  | nil => exact .refl _
  | cons d ds ih =>
    rw [insertMark]
    split
    · exact (ih.cons d).trans (.swap c d ds)
    · exact .refl _

theorem orderMarks_perm (cs : List Char) : (orderMarks cs).Perm cs := by
  induction cs with
  | nil => exact .refl _
  | cons c cs ih => exact (insertMark_perm c _).trans (ih.cons c)

theorem head?_insertMark (h : d ∈ (insertMark c ds).head?) : d = c ∨ d ∈ ds.head? := by
  cases ds with
  | nil =>
    cases h
    exact .inl rfl
  | cons e ds =>
    rw [insertMark] at h
    split at h
    · exact .inr h
    · cases h
      exact .inl rfl

theorem marksOrdered_insertMark (h : MarksOrdered ds) : MarksOrdered (insertMark c ds) := by
  induction ds with
  | nil => exact .singleton c
  | cons d ds ih =>
    obtain ⟨hhead, htail⟩ := List.isChain_cons.mp h
    rw [insertMark]
    split
    · next hmove =>
      apply List.isChain_cons.mpr
      refine ⟨?_, ih htail⟩
      intro e he
      rcases head?_insertMark he with rfl | he
      · exact .inr (Nat.le_of_lt hmove.2)
      · exact hhead e he
    · next hstay =>
      apply List.isChain_cons_cons.mpr
      refine ⟨?_, h⟩
      rw [MayFollow]
      omega

theorem marksOrdered_orderMarks (cs : List Char) : MarksOrdered (orderMarks cs) := by
  induction cs with
  | nil => exact .nil
  | cons c cs ih => exact marksOrdered_insertMark ih

theorem insertMark_of_mayFollow (h : ∀ d ∈ cs.head?, MayFollow c d) : insertMark c cs = c :: cs := by
  cases cs with
  | nil => rfl
  | cons d cs =>
    have hfollow : MayFollow c d := h d rfl
    rw [insertMark, if_neg]
    rw [MayFollow] at hfollow
    omega

/-- Sorting changes nothing exactly if the marks are in order. -/
theorem orderMarks_eq_self_iff : orderMarks cs = cs ↔ MarksOrdered cs := by
  constructor
  · intro h
    rw [← h]
    exact marksOrdered_orderMarks cs
  · intro h
    induction cs with
    | nil => rfl
    | cons c cs ih =>
      obtain ⟨hhead, htail⟩ := List.isChain_cons.mp h
      calc orderMarks (c :: cs)
        _ = insertMark c (orderMarks cs) := rfl
        _ = insertMark c cs := by rw [ih htail]
        _ = c :: cs := insertMark_of_mayFollow hhead

theorem mayFollow_head_filter {keep : Char → Bool}
    (hdropped : ∀ d ∈ cs, keep d = false → 0 < combiningClass d) (h : MarksOrdered (c :: cs)) :
    ∀ d ∈ (cs.filter keep).head?, MayFollow c d := by
  induction cs with
  | nil =>
    intro d hd
    cases hd
  | cons e cs ih =>
    obtain ⟨hfirst, hrest⟩ := List.isChain_cons_cons.mp h
    by_cases hkeep : keep e = true
    · rw [List.filter_cons_of_pos hkeep]
      intro d hd
      cases hd
      exact hfirst
    · rw [List.filter_cons_of_neg hkeep]
      have hclass : 0 < combiningClass e := hdropped e List.mem_cons_self (by simpa using hkeep)
      apply ih fun d hd => hdropped d (List.mem_cons_of_mem e hd)
      -- what may follow the dropped mark may follow the character in front of it
      apply hrest.imp_head
      intro d hd
      rw [MayFollow] at hfirst hd ⊢
      omega

/-- Marks of some class can be taken out of an ordered text. -/
theorem marksOrdered_filter {keep : Char → Bool}
    (hdropped : ∀ c ∈ cs, keep c = false → 0 < combiningClass c) (h : MarksOrdered cs) :
    MarksOrdered (cs.filter keep) := by
  induction cs with
  | nil => exact .nil
  | cons c cs ih =>
    have hrest : ∀ d ∈ cs, keep d = false → 0 < combiningClass d := fun d hd =>
      hdropped d (List.mem_cons_of_mem c hd)
    have hordered : MarksOrdered (cs.filter keep) := ih hrest h.tail
    by_cases hkeep : keep c = true
    · rw [List.filter_cons_of_pos hkeep]
      exact List.isChain_cons.mpr ⟨mayFollow_head_filter hrest h, hordered⟩
    · rw [List.filter_cons_of_neg hkeep]
      exact hordered

/-! ### Lowering -/

/-- The lowered capital sigma depends on its place, and is a small letter either way. -/
theorem mem_lowerAfter {afterLetter : Bool} (h : d ∈ lowerAfter afterLetter cs) :
    ∃ c ∈ cs, lowerChar d = [d] ∧ (d = graphemeJoiner → c = graphemeJoiner) := by
  induction cs generalizing afterLetter with
  | nil => cases h
  | cons c cs ih =>
    rw [lowerAfter, List.mem_append] at h
    rcases h with h | h
    · refine ⟨c, List.mem_cons_self, ?_⟩
      split at h
      · have hsigma : d = 'ς' ∨ d = 'σ' := by
          rw [List.mem_singleton.mp h]
          split
          · exact .inl rfl
          · exact .inr rfl
        rcases hsigma with rfl | rfl
        · exact ⟨by decide +kernel, fun heq => absurd heq (by decide)⟩
        · exact ⟨by decide +kernel, fun heq => absurd heq (by decide)⟩
      · exact mem_lowerChar h
    · obtain ⟨e, he, hfacts⟩ := ih h
      exact ⟨e, List.mem_cons_of_mem c he, hfacts⟩

theorem lowerAfter_eq_self (h : ∀ c ∈ cs, lowerChar c = [c]) (afterLetter : Bool) :
    lowerAfter afterLetter cs = cs := by
  induction cs generalizing afterLetter with
  | nil => rfl
  | cons c cs ih =>
    have hsmall : lowerChar c = [c] := h c List.mem_cons_self
    have hsigma : c ≠ 'Σ' := by
      rintro rfl
      exact absurd hsmall (by decide +kernel)
    rw [lowerAfter, if_neg hsigma, hsmall, ih fun d hd => h d (List.mem_cons_of_mem c hd)]
    rfl

/-! ### Folding -/

/-- What is known of the characters of a folded text. -/
theorem mem_fold (h : d ∈ fold cs) :
    lowerChar d = [d] ∧ decomposeChar d = [d] ∧ isDiacritic d = false := by
  rw [fold, List.mem_filter, decompose, (orderMarks_perm _).mem_iff, List.mem_flatMap] at h
  obtain ⟨⟨c, hc, hd⟩, hkept⟩ := h
  obtain ⟨_, _, hsmall, _⟩ := mem_lowerAfter hc
  obtain ⟨hbase, _, hstays⟩ := mem_decomposeChar hd
  exact ⟨hstays hsmall, hbase, by simpa using hkept⟩

theorem graphemeJoiner_mem_of_mem_decompose (h : graphemeJoiner ∈ decompose (lower cs)) :
    graphemeJoiner ∈ cs := by
  rw [decompose, (orderMarks_perm _).mem_iff, List.mem_flatMap] at h
  obtain ⟨c, hc, hd⟩ := h
  obtain ⟨_, hjoiner, _⟩ := mem_decomposeChar hd
  obtain ⟨e, he, _, hsame⟩ := mem_lowerAfter hc
  rw [← hsame (hjoiner rfl)]
  exact he

/-- All that is left to a second folding is the order of the marks. -/
theorem fold_fold (cs : List Char) : fold (fold cs) = orderMarks (fold cs) := by
  have hlower : lower (fold cs) = fold cs :=
    lowerAfter_eq_self (fun c hc => (mem_fold hc).1) false
  have hparts : (fold cs).flatMap decomposeChar = fold cs := by
    have hself : ∀ c ∈ fold cs, decomposeChar c = [c] := fun c hc => (mem_fold hc).2.1
    rw [List.flatMap_congr hself, List.flatMap_singleton']
  rw [fold, hlower, decompose, hparts, List.filter_eq_self]
  intro c hc
  rw [(orderMarks_perm _).mem_iff] at hc
  simpa using (mem_fold hc).2.2

theorem marksOrdered_fold (h : graphemeJoiner ∉ cs) : MarksOrdered (fold cs) := by
  apply marksOrdered_filter
  · intro c hc hdropped
    have hmark : isDiacritic c = true := by simpa using hdropped
    apply combiningClass_pos hmark
    rintro rfl
    exact h (graphemeJoiner_mem_of_mem_decompose hc)
  · exact marksOrdered_orderMarks _

theorem toList_folded (s : String) : (folded s).toList = fold s.toList := String.toList_ofList

/-- **Folding a folded text.**  It changes nothing exactly if the marks that are left by
    the first folding are in order, as they are in a text without a grapheme joiner; and
    a third folding changes nothing in any case. -/
theorem folded_folded (s : String) :
    (folded (folded s) = folded s ↔ MarksOrdered (folded s).toList) ∧
      (graphemeJoiner ∉ s.toList → folded (folded s) = folded s) ∧
      folded (folded (folded s)) = folded (folded s) := by
  have hfixed : ∀ t, folded (folded t) = folded t ↔ MarksOrdered (folded t).toList := by
    intro t
    rw [← String.toList_inj, toList_folded (folded t), toList_folded t, fold_fold]
    exact orderMarks_eq_self_iff
  refine ⟨hfixed s, ?_, ?_⟩
  · intro hjoiner
    rw [hfixed, toList_folded]
    exact marksOrdered_fold hjoiner
  · rw [hfixed, toList_folded, toList_folded, fold_fold]
    exact marksOrdered_orderMarks _

/-- Shadda and fathatan, which the first folding puts in order. -/
theorem folded_folded_shadda :
    graphemeJoiner ∉ "\u0628\u0651\u064B".toList ∧ folded "\u0628\u0651\u064B" = "\u0628\u064B\u0651" ∧
      folded (folded "\u0628\u0651\u064B") = folded "\u0628\u0651\u064B" := by
  have hjoiner : graphemeJoiner ∉ "\u0628\u0651\u064B".toList := by decide +kernel
  exact ⟨hjoiner, by decide +kernel, (folded_folded "\u0628\u0651\u064B").2.1 hjoiner⟩

/-- With a grapheme joiner between them the two marks change places in the second folding
    only. -/
theorem joined_marks_change_places :
    folded "\u0628\u0651\u034F\u064B" = "\u0628\u0651\u064B" ∧
      folded (folded "\u0628\u0651\u034F\u064B") = "\u0628\u064B\u0651" := by
  decide +kernel

end Transcripts.Text
