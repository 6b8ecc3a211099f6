/-
  Transcripts/Proofs/Query/StackedNegations.lean
  ==============================================
  **What negations in a row mean.**

  One would count them by parity.  But operators of the same precedence are released
  by each other, and a negation has not seen its operand when the next negation
  releases it.  So only the last one negates the operand.  Each of the others takes
  what is on the stack: the value of the operand in front of them, if there is one.

  In front of an odd number of negations that value is turned round an even number of
  times, and parity is right.  In every other place, with more than one negation, it
  is wrong for some operand: words of a known value show it.
-/
import Mathlib.Algebra.Ring.Parity
import Transcripts.Proofs.Query.Gaps

namespace Transcripts.Query

open Transcripts.Text

/-! ### Negations in a row -/

/-- An operand with negations in front of it. -/
def stacked (negators : List Negator) (p : Operand) : List Token :=
  negators.map (fun negator => .op negator.operator) ++ p.tokens

theorem Negator.apply_eq (negator : Negator) (stack : List Bool) :
    negator.operator.apply stack = Operator.notWord.apply stack := by
  cases negator <;> rfl

theorem iterate_notWord_cons (k : Nat) (b : Bool) (stack : List Bool) :
    Operator.notWord.apply^[k] (b :: stack) = (b ^^ decide (Odd k)) :: stack := by
  induction k with
  | zero => simp
  | succ k ih =>
    have hlast : ∀ b, Operator.notWord.apply (b :: stack) = (!b) :: stack := fun _ => rfl
    rw [Function.iterate_succ_apply', ih, hlast]
    by_cases hk : Odd k
    · simp [hk, Nat.odd_add_one]
    · simp [hk, Nat.odd_add_one]

theorem iterate_notWord_nil (k : Nat) :
    Operator.notWord.apply^[k + 1] [] = [decide (Odd (k + 1))] := by
  have hfirst : Operator.notWord.apply [] = [true] := rfl
  rw [Function.iterate_succ_apply, hfirst, iterate_notWord_cons]
  by_cases hk : Odd k
  · simp [hk, Nat.odd_add_one]
  · simp [hk, Nat.odd_add_one]

/-- Of negations in a row only the last one waits for the operand.  Each of the others is
    released by the next and takes what is on the stack by then. -/
theorem readAs_stacked (content : List Char) (negators : List Negator) (last : Negator)
    (p : Operand) :
    ReadAs content 3 (stacked (negators ++ [last]) p) fun stack =>
      (!p.holds content) :: Operator.notWord.apply^[negators.length] stack := by
  induction negators with
  | nil =>
    apply (p.readAs.negation last).congr
    intro stack
    exact last.apply_operator _ _
  | cons negator negators ih =>
    intro waiting rest stack hwait hrest
    have hheld : HeldBack negator.operator.precedence waiting := by
      rw [Negator.precedence_operator]
      exact hwait
    have hnext : Releases 3 (stacked (negators ++ [last]) p ++ rest) := by
      cases negators with
      | nil => exact releases_negator last _
      | cons next _ => exact releases_negator next _
    have hread : stacked (negator :: negators ++ [last]) p ++ rest =
        .op negator.operator :: (stacked (negators ++ [last]) p ++ rest) := rfl
    rw [hread, reorderFrom_op (by simp) hheld, reorderFrom_cons (by simp) (by decide) hnext, run_cons,
      Token.apply_op, negator.apply_eq, ih _ _ _ hwait hrest]
    rfl

theorem fills_stacked (content : List Char) (negators : List Negator) (last : Negator)
    (p : Operand) :
    Fills content (stacked (negators ++ [last]) p) (!p.holds content) (Odd negators.length)
      (Operator.notWord.apply^[negators.length]) where
  readAs := readAs_stacked content negators last p
  under_cons := iterate_notWord_cons negators.length

theorem fills_operand (content : List Char) (p : Operand) :
    Fills content (stacked [] p) (p.holds content) false id where
  readAs := p.readAs.mono (by decide)
  under_cons := by simp

/-! ### The value of a query with negations in a row -/

/-- What evaluation gives if an operand of a value stands in the gap behind `n` negations. -/
def DisjunctionGap.found (gap : DisjunctionGap) (content : List Char) (n : Nat) (v : Bool) : Bool :=
  match n with
  | 0 => gap.value content false v
  | k + 1 => gap.value content (Odd k) (!v) && (!gap.begins || k = 0 || decide (Odd k))

theorem findsFolded_of_readAs {content : List Char} {ts : List Token}
    {effect : List Bool → List Bool} (h : ReadAs content 1 ts effect) (hne : effect [] ≠ [])
    {query : String} (hquery : tokens query = ts) :
    (compile query).findsFolded content = settles (effect []) := by
  have hrun : run content [] (reorder ts) = effect [] := by
    have hread := h [] [] [] trivial trivial
    rw [List.append_nil] at hread
    exact hread
  have hts : ts ≠ [] := by
    rintro rfl
    exact hne hrun.symm
  rw [findsFolded_compile hquery hts, hrun]

theorem settles_over_nothing (v : Bool) (k : Nat) :
    settles (v :: Operator.notWord.apply^[k] []) = (v && (k = 0 || decide (Odd k))) := by
  cases k with
  | zero => simp [settles]
  | succ k =>
    rw [iterate_notWord_nil]
    simp [settles]

theorem compile_stacked (gap : DisjunctionGap) (negators : List Negator) (p : Operand)
    {query : String} (content : List Char) (hquery : tokens query = gap.tokens (stacked negators p)) :
    (compile query).findsFolded content = gap.found content negators.length (p.holds content) := by
  rcases negators.eq_nil_or_concat with rfl | ⟨front, last, rfl⟩
  · rw [findsFolded_of_readAs (gap.readAs (fills_operand content p)) (List.cons_ne_nil _ _) hquery]
    simp [settles, DisjunctionGap.found]
  · rw [List.concat_eq_append] at hquery ⊢
    rw [findsFolded_of_readAs (gap.readAs (fills_stacked content front last p))
      (List.cons_ne_nil _ _) hquery, List.length_append, List.length_singleton, DisjunctionGap.found]
    cases gap.begins with
    | true =>
      simp only [if_true, Bool.not_true, Bool.false_or]
      exact settles_over_nothing _ _
    | false => simp [settles]

/-! ### Counting negations by parity -/

/-- What negations in front of an operand are meant to say. -/
def byParity (n : Nat) (p : Operand) : Factor := if Even n then .plain p else .negated .notWord p

theorem holds_byParity (content : List Char) (n : Nat) (p : Operand) :
    (byParity n p).holds content = (p.holds content ^^ decide (Odd n)) := by
  by_cases hn : Odd n
  · rw [byParity, if_neg (Nat.not_even_iff_odd.mpr hn)]
    simp [Factor.holds, hn]
  · rw [byParity, if_pos (Nat.not_odd_iff_even.mp hn)]
    simp [Factor.holds, hn]

/-- Whatever operand they stand before, negations in a gap are counted by parity. -/
def CountsByParity (negators : List Negator) (gap : DisjunctionGap) : Prop :=
  ∀ (p : Operand) (query : String) (content : List Char),
    tokens query = gap.tokens (stacked negators p) →
      (compile query).findsFolded content =
        (gap.fill (byParity negators.length p)).holds content

theorem countsByParity_of {negators : List Negator} {gap : DisjunctionGap}
    (h : negators.length ≤ 1 ∨ Odd negators.length ∧ gap.begins = false) :
    CountsByParity negators gap := by
  intro p query content hquery
  rw [compile_stacked gap negators p content hquery, gap.holds_fill, holds_byParity]
  cases hn : negators.length with
  | zero => simp [DisjunctionGap.found]
  | succ k =>
    rw [hn] at h
    rcases h with hone | ⟨hodd, hbegins⟩
    · obtain rfl : k = 0 := by omega
      simp [DisjunctionGap.found]
    · have hk : ¬ Odd k := Nat.odd_add_one.mp hodd
      simp [DisjunctionGap.found, hbegins, hodd, hk]

/-! ### Where parity fails -/

inductive Connective where
  | and (joiner : Joiner)
  | or

/-- The whole query is the gap. -/
def DisjunctionGap.alone : DisjunctionGap := .one (.one .here)

/-- The gap is the left operand, and `q` is the right one. -/
def Connective.gapLeft (q : Operand) : Connective → DisjunctionGap
  | .and joiner => .one (.left (.one .here) joiner (.plain q))
  | .or => .left .alone (.one (.plain q))

/-- The gap is the right operand, and `q` is the left one. -/
def Connective.gapRight (q : Operand) : Connective → DisjunctionGap
  | .and joiner => .one (.right (.one (.plain q)) joiner .here)
  | .or => .right (.one (.one (.plain q))) (.one .here)

/-- The value that decides nothing. -/
def Connective.neutral : Connective → Bool
  | .and _ => true
  | .or => false

theorem canonical_stacked (negators : List Negator) (b : Bool) :
    ∀ t ∈ stacked negators (sampleWord b), t.Canonical := by
  intro t ht
  rcases List.mem_append.mp ht with ht | ht
  · obtain ⟨negator, _, rfl⟩ := List.mem_map.mp ht
    exact negator.canonical_operator
  · exact canonical_sampleWord b t ht

theorem Connective.canonical_gapLeft {ts : List Token} (hts : ∀ t ∈ ts, t.Canonical) (b : Bool)
    (o : Connective) : ∀ t ∈ (o.gapLeft (sampleWord b)).tokens ts, t.Canonical := by
  cases o with
  | and joiner =>
    exact canonical_binary hts joiner.canonical_operator (canonical_sampleWord b)
  | or => exact canonical_binary hts trivial (canonical_sampleWord b)

theorem Connective.canonical_gapRight {ts : List Token} (hts : ∀ t ∈ ts, t.Canonical) (b : Bool)
    (o : Connective) : ∀ t ∈ (o.gapRight (sampleWord b)).tokens ts, t.Canonical := by
  cases o with
  | and joiner =>
    exact canonical_binary (canonical_sampleWord b) joiner.canonical_operator hts
  | or => exact canonical_binary (canonical_sampleWord b) trivial hts

theorem Connective.value_gapLeft (turned v : Bool) (o : Connective) :
    (o.gapLeft (sampleWord o.neutral)).value sampleContent turned v = v := by
  cases o with
  | and joiner =>
    change (v && (sampleWord true).holds sampleContent) = v
    rw [holds_sampleWord, Bool.and_true]
  | or =>
    change (v || (sampleWord false).holds sampleContent) = v
    rw [holds_sampleWord, Bool.or_false]

theorem Connective.value_gapRight (turned v : Bool) (o : Connective) :
    (o.gapRight (sampleWord o.neutral)).value sampleContent turned v =
      if turned then !o.neutral else v := by
  cases o with
  | and joiner =>
    change (((sampleWord true).holds sampleContent ^^ turned) && v) = _
    rw [holds_sampleWord]
    cases turned <;> rfl
  | or =>
    change (((sampleWord false).holds sampleContent ^^ turned) || v) = _
    rw [holds_sampleWord]
    cases turned <;> rfl

theorem CountsByParity.found_eq {negators : List Negator} {gap : DisjunctionGap}
    (h : CountsByParity negators gap) {b : Bool}
    (hcanonical : ∀ t ∈ gap.tokens (stacked negators (sampleWord b)), t.Canonical) :
    gap.found sampleContent negators.length b =
      gap.value sampleContent false (b ^^ decide (Odd negators.length)) := by
  have hquery := tokens_spelling hcanonical
  have hfound := compile_stacked gap negators (sampleWord b) sampleContent hquery
  rw [h _ _ sampleContent hquery, gap.holds_fill, holds_byParity, holds_sampleWord] at hfound
  exact hfound.symm

/-- Where nothing stands before the gap, the negations before the last one have no operand.
    They put a value of their own on the stack, which does not depend on the query. -/
theorem CountsByParity.length_le_one {negators : List Negator} {gap : DisjunctionGap}
    (h : CountsByParity negators gap) (hbegins : gap.begins = true)
    (hvalue : ∀ turned v, gap.value sampleContent turned v = v)
    (hcanonical : ∀ b, ∀ t ∈ gap.tokens (stacked negators (sampleWord b)), t.Canonical) :
    negators.length ≤ 1 := by
  by_contra hmany
  obtain ⟨k, hk⟩ : ∃ k, negators.length = k + 2 := ⟨negators.length - 2, by omega⟩
  -- an operand for which the query should hold
  have hfound := h.found_eq (hcanonical (!decide (Odd negators.length)))
  rw [hk, DisjunctionGap.found, hbegins, hvalue, hvalue] at hfound
  by_cases hodd : Odd k
  · simp [Nat.odd_add_one, hodd] at hfound
  · simp [Nat.odd_add_one, hodd] at hfound

theorem Connective.odd_of_countsByParity {negators : List Negator} {o : Connective}
    (h : CountsByParity negators (o.gapRight (sampleWord o.neutral))) :
    negators.length ≤ 1 ∨ Odd negators.length := by
  by_contra hnot
  rw [not_or] at hnot
  obtain ⟨hmany, heven⟩ := hnot
  obtain ⟨k, hk⟩ : ∃ k, negators.length = k + 1 := ⟨negators.length - 1, by omega⟩
  have hfound := h.found_eq (o.canonical_gapRight (canonical_stacked negators o.neutral) o.neutral)
  have hodd : Odd k := by
    rw [hk, Nat.odd_add_one, not_not] at heven
    exact heven
  have hbegins : (o.gapRight (sampleWord o.neutral)).begins = false := by cases o <;> rfl
  rw [hk, DisjunctionGap.found, o.value_gapRight, o.value_gapRight, hbegins] at hfound
  simp [hodd, Nat.odd_add_one] at hfound

/-- **What negations in a row mean.**  The last of them negates the operand.  The others turn
    round what stands directly before the gap, or a value of their own if nothing does.  So
    they are counted by parity where something stands before the gap if their number is odd,
    and everywhere if there is at most one; for no other number are they, neither alone nor
    as an operand of `AND` or `OR`. -/
theorem compile_stacked_negations (negators : List Negator) :
    (∀ (gap : DisjunctionGap) (p : Operand) (query : String) (content : List Char),
      tokens query = gap.tokens (stacked negators p) →
        (compile query).findsFolded content =
          gap.found content negators.length (p.holds content)) ∧
    (∀ gap : DisjunctionGap, negators.length ≤ 1 ∨ Odd negators.length ∧ gap.begins = false →
      CountsByParity negators gap) ∧
    (CountsByParity negators .alone ↔ negators.length ≤ 1) ∧
    ∀ o : Connective,
      ((∀ q, CountsByParity negators (o.gapLeft q)) ↔ negators.length ≤ 1) ∧
      ((∀ q, CountsByParity negators (o.gapRight q)) ↔
        negators.length ≤ 1 ∨ Odd negators.length) := by
  refine ⟨?_, fun gap h => countsByParity_of h, ?_, ?_⟩
  · intro gap p query content hquery
    exact compile_stacked gap negators p content hquery
  · constructor
    · intro h
      exact h.length_le_one rfl (fun _ _ => rfl) (canonical_stacked negators)
    · intro h
      exact countsByParity_of (.inl h)
  · intro o
    constructor
    · constructor
      · intro h
        have hbegins : (o.gapLeft (sampleWord o.neutral)).begins = true := by cases o <;> rfl
        exact (h (sampleWord o.neutral)).length_le_one hbegins
          (fun turned v => o.value_gapLeft turned v)
          fun b => o.canonical_gapLeft (canonical_stacked negators b) o.neutral
      · intro h q
        exact countsByParity_of (.inl h)
    · constructor
      · intro h
        exact o.odd_of_countsByParity (h (sampleWord o.neutral))
      · intro h q
        have hbegins : (o.gapRight q).begins = false := by cases o <;> rfl
        exact countsByParity_of (h.imp_right fun hodd => ⟨hodd, hbegins⟩)

/-- The first two negations turn `cao` round and back. -/
theorem compile_cao_not_not_not_gato :
    tokens "cao AND NOT -NOT gato" = ((Connective.and .andWord).gapRight (.word "cao")).tokens
        (stacked [.notWord, .minus, .notWord] (.word "gato")) ∧
      (compile "cao AND NOT -NOT gato").findsFolded "o cao".toList = true := by
  have htokens : tokens "cao AND NOT -NOT gato" =
      ((Connective.and .andWord).gapRight (.word "cao")).tokens
        (stacked [.notWord, .minus, .notWord] (.word "gato")) := by decide +kernel
  obtain ⟨_, hcounts, _⟩ := compile_stacked_negations [.notWord, .minus, .notWord]
  refine ⟨htokens, ?_⟩
  rw [hcounts _ (.inr ⟨by decide, rfl⟩) (.word "gato") _ _ htokens]
  decide +kernel

/-- Two negations should leave `gato` as it is, but one of them has no operand. -/
theorem two_negations_refuse_word :
    tokens "NOT NOT gato" =
        DisjunctionGap.alone.tokens (stacked [.notWord, .notWord] (.word "gato")) ∧
      (Operand.word "gato").holds (fold "o gato".toList) = true ∧
      (compile "NOT NOT gato").finds "o gato" = false := by
  decide +kernel

end Transcripts.Query
