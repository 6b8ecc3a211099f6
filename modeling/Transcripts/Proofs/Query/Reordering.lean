/-
  Transcripts/Proofs/Query/Reordering.lean
  ========================================
  **Reordering keeps the meaning of a query.**

  While a query is read, operators wait on a stack.  An expression of some level
  of binding is read in one piece, leaving the waiting operators alone, under two
  conditions on what surrounds it: the operators that wait bind less tightly than
  the expression (`HeldBack`), and what follows releases everything the expression
  leaves waiting (`Releases`).  An operand brings its own parentheses or needs
  none, so for an operand there is no condition at all; that is the base from
  which queries without operators between their parts are read, too.
-/
import Transcripts.Proofs.Query.Grammar

namespace Transcripts.Query

/-! ### What waits and what follows -/

/-- No operator that waits is released by an operator of precedence `k`. -/
def HeldBack (k : Nat) : List Operator → Prop
  | [] => True
  | o :: _ => o.precedence < k

/-- What follows releases every waiting operator of precedence `k` or more. -/
def Releases (k : Nat) : List Token → Prop
  | [] => True
  | .op .openParen :: _ => False
  | .op .closeParen :: _ => True
  | .op o :: _ => o.precedence ≤ k
  | _ :: _ => False

theorem HeldBack.mono {j k : Nat} (hjk : j ≤ k) {waiting : List Operator}
    (h : HeldBack j waiting) : HeldBack k waiting := by
  cases waiting with
  | nil => trivial
  | cons o waiting => exact Nat.lt_of_lt_of_le h hjk

theorem Releases.mono {j k : Nat} (hjk : j ≤ k) {rest : List Token} (h : Releases j rest) :
    Releases k rest := by
  cases rest with
  | nil => trivial
  | cons t rest =>
    cases t with
    | phrase _ => exact h
    | word _ => exact h
    | op o => cases o <;> first | exact h | exact Nat.le_trans h hjk

/-- A waiting operator that is released comes out first. -/
theorem reorderFrom_cons {k : Nat} {o : Operator} (hk : k ≤ o.precedence) (hk0 : 0 < k)
    {waiting : List Operator} {rest : List Token} (h : Releases k rest) :
    reorderFrom (o :: waiting) rest = .op o :: reorderFrom waiting rest := by
  have hopen : o ≠ .openParen := by
    rintro rfl
    simp only [Operator.precedence] at hk
    omega
  cases rest with
  | nil => simp [reorderFrom, hopen]
  | cons t rest =>
    cases t with
    | phrase _ => exact h.elim
    | word _ => exact h.elim
    | op incoming =>
      cases incoming with
      | openParen => exact h.elim
      | closeParen => simp [reorderFrom, hopen]
      | _ =>
        have hle := Nat.le_trans h hk
        simp only [Operator.precedence] at hle
        simp [reorderFrom, Operator.precedence, hle]

/-- An operator that releases nothing joins the operators that wait. -/
theorem reorderFrom_op {o : Operator} (ho : 0 < o.precedence) {waiting : List Operator}
    (h : HeldBack o.precedence waiting) (rest : List Token) :
    reorderFrom waiting (.op o :: rest) = reorderFrom (o :: waiting) rest := by
  have hholds : waiting.takeWhile (fun w => o.precedence ≤ w.precedence) = [] ∧
      waiting.dropWhile (fun w => o.precedence ≤ w.precedence) = waiting := by
    cases waiting with
    | nil => exact ⟨rfl, rfl⟩
    | cons w waiting =>
      have hlt : ¬ o.precedence ≤ w.precedence := Nat.not_le.mpr h
      simp [hlt]
  cases o <;> first
    | exact absurd ho (by decide)
    | simp only [reorderFrom, hholds, List.map_nil, List.nil_append]

@[simp] theorem reorderFrom_openParen (waiting : List Operator) (rest : List Token) :
    reorderFrom waiting (.op .openParen :: rest) = reorderFrom (.openParen :: waiting) rest := rfl

/-- A closing parenthesis takes away the open one that is innermost. -/
@[simp] theorem reorderFrom_closeParen (waiting : List Operator) (rest : List Token) :
    reorderFrom (.openParen :: waiting) (.op .closeParen :: rest) = reorderFrom waiting rest := by
  simp [reorderFrom]

@[simp] theorem Joiner.precedence_operator (joiner : Joiner) : joiner.operator.precedence = 2 := by
  cases joiner <;> rfl

@[simp] theorem Negator.precedence_operator (negator : Negator) :
    negator.operator.precedence = 3 := by
  cases negator <;> rfl

theorem releases_joiner (joiner : Joiner) (rest : List Token) :
    Releases 2 (.op joiner.operator :: rest) := by
  cases joiner <;> exact Nat.le_refl 2

theorem releases_negator (negator : Negator) (rest : List Token) :
    Releases 3 (.op negator.operator :: rest) := by
  cases negator <;> exact Nat.le_refl 3

/-! ### Reading an expression in one piece -/

mutual

/-- A disjunction is read in one piece if nothing that waits binds as tightly. -/
theorem Disjunction.reorderFrom_tokens :
    ∀ (d : Disjunction) {waiting : List Operator} {rest : List Token},
      HeldBack 1 waiting → Releases 1 rest →
      reorderFrom waiting (d.tokens ++ rest) = d.inOrder ++ reorderFrom waiting rest
  | .one c, waiting, rest, hwait, hrest =>
    Conjunction.reorderFrom_tokens c (hwait.mono (by decide)) (hrest.mono (by decide))
  | .or d c, waiting, rest, hwait, hrest => by
    have hor : Releases 1 (.op .orWord :: (c.tokens ++ rest)) := Nat.le_refl 1
    have hheld : HeldBack 2 (.orWord :: waiting) := Nat.lt_succ_self 1
    calc reorderFrom waiting ((Disjunction.or d c).tokens ++ rest)
        = reorderFrom waiting (d.tokens ++ .op .orWord :: (c.tokens ++ rest)) := by
          simp only [Disjunction.tokens, List.append_assoc, List.cons_append]
      _ = d.inOrder ++ reorderFrom waiting (.op .orWord :: (c.tokens ++ rest)) :=
          Disjunction.reorderFrom_tokens d hwait hor
      _ = d.inOrder ++ reorderFrom (.orWord :: waiting) (c.tokens ++ rest) := by
          rw [reorderFrom_op (o := .orWord) (by decide) hwait]
      _ = d.inOrder ++ (c.inOrder ++ reorderFrom (.orWord :: waiting) rest) := by
          rw [Conjunction.reorderFrom_tokens c hheld (hrest.mono (by decide))]
      _ = (Disjunction.or d c).inOrder ++ reorderFrom waiting rest := by
          rw [reorderFrom_cons (by decide) (by decide) hrest]
          simp only [Disjunction.inOrder, List.append_assoc, List.cons_append, List.nil_append]

theorem Conjunction.reorderFrom_tokens :
    ∀ (c : Conjunction) {waiting : List Operator} {rest : List Token},
      HeldBack 2 waiting → Releases 2 rest →
      reorderFrom waiting (c.tokens ++ rest) = c.inOrder ++ reorderFrom waiting rest
  | .one f, waiting, rest, hwait, hrest =>
    Factor.reorderFrom_tokens f (hwait.mono (by decide)) (hrest.mono (by decide))
  | .and c joiner f, waiting, rest, hwait, hrest => by
    have hheld : HeldBack joiner.operator.precedence waiting := by
      rw [Joiner.precedence_operator]; exact hwait
    have hheld' : HeldBack 3 (joiner.operator :: waiting) := by
      simp only [HeldBack, Joiner.precedence_operator]; decide
    calc reorderFrom waiting ((Conjunction.and c joiner f).tokens ++ rest)
        = reorderFrom waiting (c.tokens ++ .op joiner.operator :: (f.tokens ++ rest)) := by
          simp only [Conjunction.tokens, List.append_assoc, List.cons_append]
      _ = c.inOrder ++ reorderFrom waiting (.op joiner.operator :: (f.tokens ++ rest)) :=
          Conjunction.reorderFrom_tokens c hwait (releases_joiner joiner _)
      _ = c.inOrder ++ reorderFrom (joiner.operator :: waiting) (f.tokens ++ rest) := by
          rw [reorderFrom_op (by simp) hheld]
      _ = c.inOrder ++ (f.inOrder ++ reorderFrom (joiner.operator :: waiting) rest) := by
          rw [Factor.reorderFrom_tokens f hheld' (hrest.mono (by decide))]
      _ = (Conjunction.and c joiner f).inOrder ++ reorderFrom waiting rest := by
          rw [reorderFrom_cons (by simp) (by decide) hrest]
          simp only [Conjunction.inOrder, List.append_assoc, List.cons_append, List.nil_append]

theorem Factor.reorderFrom_tokens :
    ∀ (f : Factor) {waiting : List Operator} {rest : List Token},
      HeldBack 3 waiting → Releases 3 rest →
      reorderFrom waiting (f.tokens ++ rest) = f.inOrder ++ reorderFrom waiting rest
  | .plain p, waiting, rest, _, _ => Operand.reorderFrom_tokens p waiting rest
  | .negated negator p, waiting, rest, hwait, hrest => by
    have hheld : HeldBack negator.operator.precedence waiting := by
      rw [Negator.precedence_operator]; exact hwait
    calc reorderFrom waiting ((Factor.negated negator p).tokens ++ rest)
        = reorderFrom (negator.operator :: waiting) (p.tokens ++ rest) :=
          reorderFrom_op (by simp) hheld _
      _ = p.inOrder ++ reorderFrom (negator.operator :: waiting) rest :=
          Operand.reorderFrom_tokens p _ rest
      _ = (Factor.negated negator p).inOrder ++ reorderFrom waiting rest := by
          rw [reorderFrom_cons (by simp) (by decide) hrest]
          simp only [Factor.inOrder, List.append_assoc, List.cons_append, List.nil_append]

/-- An operand is read in one piece wherever it stands. -/
theorem Operand.reorderFrom_tokens :
    ∀ (p : Operand) (waiting : List Operator) (rest : List Token),
      reorderFrom waiting (p.tokens ++ rest) = p.inOrder ++ reorderFrom waiting rest
  | .word _, _, _ => rfl
  | .phrase _, _, _ => rfl
  | .group d, waiting, rest => by
    have hheld : HeldBack 1 (.openParen :: waiting) := Nat.zero_lt_one
    have hclose : Releases 1 (.op .closeParen :: rest) := trivial
    calc reorderFrom waiting ((Operand.group d).tokens ++ rest)
        = reorderFrom (.openParen :: waiting) (d.tokens ++ .op .closeParen :: rest) := by
          simp only [Operand.tokens, List.cons_append, List.append_assoc, List.nil_append,
            reorderFrom_openParen]
      _ = d.inOrder ++ reorderFrom (.openParen :: waiting) (.op .closeParen :: rest) :=
          Disjunction.reorderFrom_tokens d hheld hclose
      _ = (Operand.group d).inOrder ++ reorderFrom waiting rest := by
          rw [reorderFrom_closeParen]; rfl

end

/-- The operators of a well-formed query are reordered as its tree says. -/
theorem Disjunction.reorder_tokens (d : Disjunction) : reorder d.tokens = d.inOrder := by
  have h : reorderFrom [] (d.tokens ++ []) = d.inOrder ++ reorderFrom [] [] :=
    d.reorderFrom_tokens trivial trivial
  simpa [reorder, reorderFrom] using h

/-! ### No operator outside the language -/

@[simp] theorem Joiner.unknownOperator?_operator (joiner : Joiner) :
    (Token.op joiner.operator).unknownOperator? = none := by
  cases joiner <;> rfl

@[simp] theorem Negator.unknownOperator?_operator (negator : Negator) :
    (Token.op negator.operator).unknownOperator? = none := by
  cases negator <;> rfl

mutual

theorem Disjunction.unknownOperator?_of_mem :
    ∀ (d : Disjunction), ∀ t ∈ d.tokens, t.unknownOperator? = none
  | .one c, t, ht => Conjunction.unknownOperator?_of_mem c t ht
  | .or d c, t, ht => by
    rcases List.mem_append.mp ht with h | h
    · exact Disjunction.unknownOperator?_of_mem d t h
    · rcases List.mem_cons.mp h with rfl | h
      · rfl
      · exact Conjunction.unknownOperator?_of_mem c t h

theorem Conjunction.unknownOperator?_of_mem :
    ∀ (c : Conjunction), ∀ t ∈ c.tokens, t.unknownOperator? = none
  | .one f, t, ht => Factor.unknownOperator?_of_mem f t ht
  | .and c joiner f, t, ht => by
    rcases List.mem_append.mp ht with h | h
    · exact Conjunction.unknownOperator?_of_mem c t h
    · rcases List.mem_cons.mp h with rfl | h
      · exact joiner.unknownOperator?_operator
      · exact Factor.unknownOperator?_of_mem f t h

theorem Factor.unknownOperator?_of_mem :
    ∀ (f : Factor), ∀ t ∈ f.tokens, t.unknownOperator? = none
  | .plain p, t, ht => Operand.unknownOperator?_of_mem p t ht
  | .negated negator p, t, ht => by
    rcases List.mem_cons.mp ht with rfl | h
    · exact negator.unknownOperator?_operator
    · exact Operand.unknownOperator?_of_mem p t h

theorem Operand.unknownOperator?_of_mem :
    ∀ (p : Operand), ∀ t ∈ p.tokens, t.unknownOperator? = none
  | .word _, t, ht => by rw [List.mem_singleton.mp ht]; rfl
  | .phrase _, t, ht => by rw [List.mem_singleton.mp ht]; rfl
  | .group d, t, ht => by
    rcases List.mem_cons.mp ht with rfl | h
    · rfl
    · rcases List.mem_append.mp h with h | h
      · exact Disjunction.unknownOperator?_of_mem d t h
      · rw [List.mem_singleton.mp h]; rfl

end

/-! ### The meaning of a well-formed query -/

/-- **A well-formed query means what its tree says.**  Its tokens are put into an
    evaluation order without a fault, and on every content the evaluation gives
    the value of the tree. -/
theorem toPostfix_tokens_evaluates (d : Disjunction) :
    ∃ ts, toPostfix d.tokens = .ok ts ∧
      ∀ (source : String) (content : List Char),
        (Compiled.mk source ts false).findsFolded content = d.holds content := by
  refine ⟨d.inOrder, ?_, ?_⟩
  · have hknown : d.tokens.findSome? Token.unknownOperator? = none :=
      List.findSome?_eq_none_iff.mpr d.unknownOperator?_of_mem
    simp only [toPostfix, hknown, d.reorder_tokens]
  · intro source content
    simp [Compiled.findsFolded, d.run_inOrder, settles]

end Transcripts.Query
