/-
  Transcripts/Proofs/Query/Gaps.lean
  ==================================
  **A query read around a gap.**

  Tokens that form an operand, a factor or a group are read in one piece: whatever
  waits in front of them and whatever follows, they change the stack in their own way
  and leave nothing behind.  Such pieces are put together by the operators, so a query
  can be read around a gap in it once it is known how the tokens in the gap are read.

  The tokens in the gap need not be a factor.  They may reach under the value that they
  put on the stack and turn round what lies there.  That is the value of the operand in
  front of the gap, and if there is none, whatever the stack holds.
-/
import Transcripts.Proofs.Query.AdjacentFactors

namespace Transcripts.Query

open Transcripts.Text

/-! ### Tokens that are read in one piece -/

/-- Between operators that bind less tightly than `k`, tokens change the stack by `effect`
    and leave nothing waiting. -/
def ReadAs (content : List Char) (k : Nat) (ts : List Token) (effect : List Bool → List Bool) :
    Prop :=
  ∀ (waiting : List Operator) (rest : List Token) (stack : List Bool),
    HeldBack k waiting → Releases k rest →
      run content stack (reorderFrom waiting (ts ++ rest)) =
        run content (effect stack) (reorderFrom waiting rest)

section ReadAs

variable {content : List Char} {j k : Nat} {ts us : List Token}
  {effect effect' : List Bool → List Bool}

theorem ReadAs.mono (h : ReadAs content k ts effect) (hjk : j ≤ k) : ReadAs content j ts effect := by
  intro waiting rest stack hwait hrest
  exact h waiting rest stack (hwait.mono hjk) (hrest.mono hjk)

theorem ReadAs.congr (h : ReadAs content k ts effect) (heq : ∀ stack, effect stack = effect' stack) :
    ReadAs content k ts effect' := by
  intro waiting rest stack hwait hrest
  rw [h waiting rest stack hwait hrest, heq]

theorem releases_op {o : Operator} (ho : 0 < o.precedence) (rest : List Token) :
    Releases o.precedence (.op o :: rest) := by
  cases o with
  | openParen => exact absurd ho (Nat.lt_irrefl 0)
  | closeParen => trivial
  | unknown _ => exact absurd ho (Nat.lt_irrefl 0)
  | _ => exact Nat.le_refl _

theorem ReadAs.binary {o : Operator} (ho : o.precedence = k) (hk : 0 < k)
    (hleft : ReadAs content k ts effect) (hright : ReadAs content (k + 1) us effect') :
    ReadAs content k (ts ++ .op o :: us) fun stack => o.apply (effect' (effect stack)) := by
  subst ho
  intro waiting rest stack hwait hrest
  have hheld : HeldBack (o.precedence + 1) (o :: waiting) := Nat.lt_succ_self _
  have hread : ts ++ .op o :: us ++ rest = ts ++ .op o :: (us ++ rest) := by
    rw [List.append_assoc, List.cons_append]
  rw [hread, hleft waiting _ stack hwait (releases_op hk _), reorderFrom_op hk hwait,
    hright _ rest _ hheld (hrest.mono (Nat.le_succ _)), reorderFrom_cons (Nat.le_refl _) hk hrest,
    run_cons, Token.apply_op]

theorem ReadAs.group (h : ReadAs content 1 ts effect) :
    ReadAs content 4 (.op .openParen :: (ts ++ [.op .closeParen])) effect := by
  intro waiting rest stack _ _
  have hheld : HeldBack 1 (.openParen :: waiting) := Nat.zero_lt_one
  have hclose : Releases 1 (.op .closeParen :: rest) := trivial
  have hread : .op .openParen :: (ts ++ [.op .closeParen]) ++ rest =
      .op .openParen :: (ts ++ .op .closeParen :: rest) := by
    rw [List.cons_append, List.append_assoc, List.singleton_append]
  rw [hread, reorderFrom_openParen, h _ _ stack hheld hclose, reorderFrom_closeParen]

theorem ReadAs.negation (negator : Negator) (h : ReadAs content 4 ts effect) :
    ReadAs content 3 (.op negator.operator :: ts) fun stack =>
      negator.operator.apply (effect stack) := by
  intro waiting rest stack hwait hrest
  have hheld : HeldBack 4 (negator.operator :: waiting) := by
    rw [HeldBack, Negator.precedence_operator]
    decide
  have hwait : HeldBack negator.operator.precedence waiting := by
    rw [Negator.precedence_operator]
    exact hwait
  rw [List.cons_append, reorderFrom_op (by simp) hwait, h _ rest stack hheld (hrest.mono (by decide)),
    reorderFrom_cons (by simp) (by decide) hrest, run_cons, Token.apply_op]

theorem Operand.readAs (p : Operand) : ReadAs content 4 p.tokens (p.holds content :: ·) := by
  intro waiting rest stack _ _
  rw [p.reorderFrom_tokens, run_append, p.run_inOrder]

theorem Factor.readAs (f : Factor) : ReadAs content 3 f.tokens (f.holds content :: ·) := by
  intro waiting rest stack hwait hrest
  rw [f.reorderFrom_tokens hwait hrest, run_append, f.run_inOrder]

theorem Conjunction.readAs (c : Conjunction) : ReadAs content 2 c.tokens (c.holds content :: ·) := by
  intro waiting rest stack hwait hrest
  rw [c.reorderFrom_tokens hwait hrest, run_append, c.run_inOrder]

theorem Disjunction.readAs (d : Disjunction) : ReadAs content 1 d.tokens (d.holds content :: ·) := by
  intro waiting rest stack hwait hrest
  rw [d.reorderFrom_tokens hwait hrest, run_append, d.run_inOrder]

end ReadAs

/-! ### Places in a query -/

mutual

/-- A disjunction with a gap where a factor may stand. -/
inductive DisjunctionGap where
  | one (c : ConjunctionGap)
  | right (d : Disjunction) (c : ConjunctionGap)
  | left (d : DisjunctionGap) (c : Conjunction)

inductive ConjunctionGap where
  | one (f : FactorGap)
  | right (c : Conjunction) (joiner : Joiner) (f : FactorGap)
  | left (c : ConjunctionGap) (joiner : Joiner) (f : Factor)

inductive FactorGap where
  | here
  | group (d : DisjunctionGap)
  | negatedGroup (negator : Negator) (d : DisjunctionGap)

end

mutual

/-- The query with tokens in its gap. -/
def DisjunctionGap.tokens (ts : List Token) : DisjunctionGap → List Token
  | .one c => c.tokens ts
  | .right d c => d.tokens ++ .op .orWord :: c.tokens ts
  | .left d c => d.tokens ts ++ .op .orWord :: c.tokens

def ConjunctionGap.tokens (ts : List Token) : ConjunctionGap → List Token
  | .one f => f.tokens ts
  | .right c joiner f => c.tokens ++ .op joiner.operator :: f.tokens ts
  | .left c joiner f => c.tokens ts ++ .op joiner.operator :: f.tokens

def FactorGap.tokens (ts : List Token) : FactorGap → List Token
  | .here => ts
  | .group d => .op .openParen :: (d.tokens ts ++ [.op .closeParen])
  | .negatedGroup negator d =>
    .op negator.operator :: .op .openParen :: (d.tokens ts ++ [.op .closeParen])

end

mutual

/-- The query with a factor in its gap. -/
def DisjunctionGap.fill (f : Factor) : DisjunctionGap → Disjunction
  | .one c => .one (c.fill f)
  | .right d c => .or d (c.fill f)
  | .left d c => .or (d.fill f) c

def ConjunctionGap.fill (f : Factor) : ConjunctionGap → Conjunction
  | .one g => .one (g.fill f)
  | .right c joiner g => .and c joiner (g.fill f)
  | .left c joiner g => .and (c.fill f) joiner g

def FactorGap.fill (f : Factor) : FactorGap → Factor
  | .here => f
  | .group d => .plain (.group (d.fill f))
  | .negatedGroup negator d => .negated negator (.group (d.fill f))

end

mutual

/-- Whether no operand stands before the gap. -/
def DisjunctionGap.begins : DisjunctionGap → Bool
  | .one c => c.begins
  | .right _ _ => false
  | .left d _ => d.begins

def ConjunctionGap.begins : ConjunctionGap → Bool
  | .one f => f.begins
  | .right _ _ _ => false
  | .left c _ _ => c.begins

def FactorGap.begins : FactorGap → Bool
  | .here => true
  | .group d => d.begins
  | .negatedGroup _ d => d.begins

end

mutual

/-- The value of a query whose gap has a value, if what stands directly before the gap is
    turned round or not. -/
def DisjunctionGap.value (content : List Char) (turned v : Bool) : DisjunctionGap → Bool
  | .one c => c.value content turned v
  | .right d c => (d.holds content ^^ (c.begins && turned)) || c.value content turned v
  | .left d c => d.value content turned v || c.holds content

def ConjunctionGap.value (content : List Char) (turned v : Bool) : ConjunctionGap → Bool
  | .one f => f.value content turned v
  | .right c _ f => (c.holds content ^^ (f.begins && turned)) && f.value content turned v
  | .left c _ f => c.value content turned v && f.holds content

def FactorGap.value (content : List Char) (turned v : Bool) : FactorGap → Bool
  | .here => v
  | .group d => d.value content turned v
  | .negatedGroup _ d => !d.value content turned v

end

mutual

theorem DisjunctionGap.holds_fill (content : List Char) (f : Factor) :
    ∀ gap : DisjunctionGap,
      (gap.fill f).holds content = gap.value content false (f.holds content)
  | .one c => by
    simp only [DisjunctionGap.fill, Disjunction.holds, DisjunctionGap.value,
      ConjunctionGap.holds_fill content f c]
  | .right d c => by
    simp only [DisjunctionGap.fill, Disjunction.holds, DisjunctionGap.value,
      ConjunctionGap.holds_fill content f c, Bool.and_false, Bool.xor_false]
  | .left d c => by
    simp only [DisjunctionGap.fill, Disjunction.holds, DisjunctionGap.value,
      DisjunctionGap.holds_fill content f d]

theorem ConjunctionGap.holds_fill (content : List Char) (f : Factor) :
    ∀ gap : ConjunctionGap,
      (gap.fill f).holds content = gap.value content false (f.holds content)
  | .one g => by
    simp only [ConjunctionGap.fill, Conjunction.holds, ConjunctionGap.value,
      FactorGap.holds_fill content f g]
  | .right c joiner g => by
    simp only [ConjunctionGap.fill, Conjunction.holds, ConjunctionGap.value,
      FactorGap.holds_fill content f g, Bool.and_false, Bool.xor_false]
  | .left c joiner g => by
    simp only [ConjunctionGap.fill, Conjunction.holds, ConjunctionGap.value,
      ConjunctionGap.holds_fill content f c]

theorem FactorGap.holds_fill (content : List Char) (f : Factor) :
    ∀ gap : FactorGap, (gap.fill f).holds content = gap.value content false (f.holds content)
  | .here => rfl
  | .group d => by
    simp only [FactorGap.fill, Factor.holds, Operand.holds, FactorGap.value,
      DisjunctionGap.holds_fill content f d]
  | .negatedGroup negator d => by
    simp only [FactorGap.fill, Factor.holds, Operand.holds, FactorGap.value,
      DisjunctionGap.holds_fill content f d]

end

/-! ### Reading a query around its gap -/

/-- Tokens for a gap put a value on the stack and turn round, or not, what lies directly
    under it. -/
structure Fills (content : List Char) (ts : List Token) (v turned : Bool)
    (under : List Bool → List Bool) : Prop where
  readAs : ReadAs content 3 ts fun stack => v :: under stack
  under_cons : ∀ b stack, under (b :: stack) = (b ^^ turned) :: stack

section Reading

variable {content : List Char} {ts : List Token} {v turned : Bool} {under : List Bool → List Bool}
  (hts : Fills content ts v turned under)

include hts

theorem Fills.under_ite (begins b : Bool) (stack : List Bool) :
    (if begins then under (b :: stack) else b :: stack) = (b ^^ (begins && turned)) :: stack := by
  cases begins with
  | true => simpa using hts.under_cons b stack
  | false => simp

mutual

theorem DisjunctionGap.readAs : ∀ gap : DisjunctionGap,
    ReadAs content 1 (gap.tokens ts) fun stack =>
      gap.value content turned v :: if gap.begins then under stack else stack
  | .one c => (ConjunctionGap.readAs c).mono (by decide)
  | .right d c => by
    apply (ReadAs.binary (o := .orWord) rfl Nat.zero_lt_one d.readAs (ConjunctionGap.readAs c)).congr
    intro stack
    simp only [hts.under_ite, Operator.apply_orWord]
    rfl
  | .left d c => by
    apply (ReadAs.binary (o := .orWord) rfl Nat.zero_lt_one (DisjunctionGap.readAs d) c.readAs).congr
    intro stack
    rfl

theorem ConjunctionGap.readAs : ∀ gap : ConjunctionGap,
    ReadAs content 2 (gap.tokens ts) fun stack =>
      gap.value content turned v :: if gap.begins then under stack else stack
  | .one f => (FactorGap.readAs f).mono (by decide)
  | .right c joiner f => by
    apply (ReadAs.binary joiner.precedence_operator Nat.zero_lt_two c.readAs
      (FactorGap.readAs f)).congr
    intro stack
    simp only [hts.under_ite, Joiner.apply_operator]
    rfl
  | .left c joiner f => by
    apply (ReadAs.binary joiner.precedence_operator Nat.zero_lt_two (ConjunctionGap.readAs c)
      f.readAs).congr
    intro stack
    simp only [Joiner.apply_operator]
    rfl

theorem FactorGap.readAs : ∀ gap : FactorGap,
    ReadAs content 3 (gap.tokens ts) fun stack =>
      gap.value content turned v :: if gap.begins then under stack else stack
  | .here => hts.readAs
  | .group d => (DisjunctionGap.readAs d).group.mono (by decide)
  | .negatedGroup negator d => by
    apply ((DisjunctionGap.readAs d).group.negation negator).congr
    intro stack
    simp only [Negator.apply_operator]
    rfl

end

end Reading

end Transcripts.Query
