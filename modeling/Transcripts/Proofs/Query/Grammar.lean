/-
  Transcripts/Proofs/Query/Grammar.lean
  =====================================
  **Well-formed queries, and what they mean.**

  A well-formed query is a disjunction of conjunctions of factors; a factor is an
  operand with or without one negation in front, and an operand is a word, a
  phrase or a whole query in parentheses.  The four levels are the four levels of
  binding, so a tree is exactly one way to place the parentheses that may be left
  out, and its meaning is read off the tree without any talk of precedence.

  Each tree is written out twice: `tokens` is the query as it is typed, `inOrder`
  the tokens in the order in which they are evaluated.  `run_inOrder` says that
  running the second on a stack of truth values pushes exactly the value of the
  tree, whatever the stack holds already.
-/
import Transcripts.Query.Compiled

namespace Transcripts.Query

/-! ### Trees -/

/-- The two spellings of conjunction. -/
inductive Joiner where
  | andWord
  | plus
deriving DecidableEq, Repr

/-- The two spellings of negation. -/
inductive Negator where
  | notWord
  | minus
deriving DecidableEq, Repr

def Joiner.operator : Joiner → Operator
  | .andWord => .andWord
  | .plus => .plus

def Negator.operator : Negator → Operator
  | .notWord => .notWord
  | .minus => .minus

mutual

/-- Conjunctions joined by `OR`, from the left. -/
inductive Disjunction where
  | one (c : Conjunction)
  | or (d : Disjunction) (c : Conjunction)

/-- Factors joined by `AND` or `+`, from the left. -/
inductive Conjunction where
  | one (f : Factor)
  | and (c : Conjunction) (joiner : Joiner) (f : Factor)

/-- An operand with at most one negation in front of it. -/
inductive Factor where
  | plain (p : Operand)
  | negated (negator : Negator) (p : Operand)

/-- What stands for a truth value by itself. -/
inductive Operand where
  | word (text : String)
  | phrase (text : String)
  | group (d : Disjunction)

end

/-- Induction along a chain of factors.  The recursor of the mutual trees would
    ask for the operands inside the factors as well. -/
@[elab_as_elim, induction_eliminator]
theorem Conjunction.chain_induction {motive : Conjunction → Prop} (one : ∀ f, motive (.one f))
    (and : ∀ c joiner f, motive c → motive (.and c joiner f)) (c : Conjunction) : motive c :=
  match c with
  | .one f => one f
  | .and c joiner f => and c joiner f (Conjunction.chain_induction one and c)

/-- Induction along a chain of conjunctions. -/
@[elab_as_elim, induction_eliminator]
theorem Disjunction.chain_induction {motive : Disjunction → Prop} (one : ∀ c, motive (.one c))
    (or : ∀ d c, motive d → motive (.or d c)) (d : Disjunction) : motive d :=
  match d with
  | .one c => one c
  | .or d c => or d c (Disjunction.chain_induction one or d)

/-! ### The query as it is typed -/

mutual

def Disjunction.tokens : Disjunction → List Token
  | .one c => c.tokens
  | .or d c => d.tokens ++ .op .orWord :: c.tokens

def Conjunction.tokens : Conjunction → List Token
  | .one f => f.tokens
  | .and c joiner f => c.tokens ++ .op joiner.operator :: f.tokens

def Factor.tokens : Factor → List Token
  | .plain p => p.tokens
  | .negated negator p => .op negator.operator :: p.tokens

def Operand.tokens : Operand → List Token
  | .word text => [.word text]
  | .phrase text => [.phrase text]
  | .group d => .op .openParen :: (d.tokens ++ [.op .closeParen])

end

/-! ### What the query means -/

mutual

/-- Whether a query holds of a folded content. -/
def Disjunction.holds (content : List Char) : Disjunction → Bool
  | .one c => c.holds content
  | .or d c => d.holds content || c.holds content

def Conjunction.holds (content : List Char) : Conjunction → Bool
  | .one f => f.holds content
  | .and c _ f => c.holds content && f.holds content

def Factor.holds (content : List Char) : Factor → Bool
  | .plain p => p.holds content
  | .negated _ p => !p.holds content

def Operand.holds (content : List Char) : Operand → Bool
  | .word text => matchesTerm content text
  | .phrase text => matchesPhrase content text
  | .group d => d.holds content

end

/-! ### The query in evaluation order -/

mutual

/-- Operands first, then the operator that takes them; no parentheses. -/
def Disjunction.inOrder : Disjunction → List Token
  | .one c => c.inOrder
  | .or d c => d.inOrder ++ c.inOrder ++ [.op .orWord]

def Conjunction.inOrder : Conjunction → List Token
  | .one f => f.inOrder
  | .and c joiner f => c.inOrder ++ f.inOrder ++ [.op joiner.operator]

def Factor.inOrder : Factor → List Token
  | .plain p => p.inOrder
  | .negated negator p => p.inOrder ++ [.op negator.operator]

def Operand.inOrder : Operand → List Token
  | .word text => [.word text]
  | .phrase text => [.phrase text]
  | .group d => d.inOrder

end

/-! ### Running the evaluation order -/

@[simp] theorem run_nil (content : List Char) (stack : List Bool) : run content stack [] = stack := rfl

@[simp] theorem run_cons (content : List Char) (stack : List Bool) (t : Token) (ts : List Token) :
    run content stack (t :: ts) = run content (t.apply content stack) ts := rfl

@[simp] theorem run_append (content : List Char) (stack : List Bool) (ts us : List Token) :
    run content stack (ts ++ us) = run content (run content stack ts) us :=
  List.foldl_append

@[simp] theorem Token.apply_op (content : List Char) (stack : List Bool) (o : Operator) :
    (Token.op o).apply content stack = o.apply stack := rfl

@[simp] theorem Joiner.apply_operator (joiner : Joiner) (right left : Bool) (stack : List Bool) :
    joiner.operator.apply (right :: left :: stack) = (left && right) :: stack := by
  cases joiner <;> rfl

@[simp] theorem Negator.apply_operator (negator : Negator) (b : Bool) (stack : List Bool) :
    negator.operator.apply (b :: stack) = (!b) :: stack := by
  cases negator <;> rfl

@[simp] theorem Operator.apply_orWord (right left : Bool) (stack : List Bool) :
    Operator.orWord.apply (right :: left :: stack) = (left || right) :: stack := rfl

mutual

/-- Running a tree in evaluation order pushes its value. -/
theorem Disjunction.run_inOrder (content : List Char) (stack : List Bool) :
    ∀ d : Disjunction, run content stack d.inOrder = d.holds content :: stack
  | .one c => by
    simp only [Disjunction.inOrder, Disjunction.holds, Conjunction.run_inOrder content stack c]
  | .or d c => by
    simp only [Disjunction.inOrder, Disjunction.holds, run_append, run_cons, run_nil,
      Disjunction.run_inOrder content stack d, Conjunction.run_inOrder content _ c, Token.apply_op,
      Operator.apply_orWord]

theorem Conjunction.run_inOrder (content : List Char) (stack : List Bool) :
    ∀ c : Conjunction, run content stack c.inOrder = c.holds content :: stack
  | .one f => by
    simp only [Conjunction.inOrder, Conjunction.holds, Factor.run_inOrder content stack f]
  | .and c joiner f => by
    simp only [Conjunction.inOrder, Conjunction.holds, run_append, run_cons, run_nil,
      Conjunction.run_inOrder content stack c, Factor.run_inOrder content _ f, Token.apply_op,
      Joiner.apply_operator]

theorem Factor.run_inOrder (content : List Char) (stack : List Bool) :
    ∀ f : Factor, run content stack f.inOrder = f.holds content :: stack
  | .plain p => by
    simp only [Factor.inOrder, Factor.holds, Operand.run_inOrder content stack p]
  | .negated negator p => by
    simp only [Factor.inOrder, Factor.holds, run_append, run_cons, run_nil,
      Operand.run_inOrder content stack p, Token.apply_op, Negator.apply_operator]

theorem Operand.run_inOrder (content : List Char) (stack : List Bool) :
    ∀ p : Operand, run content stack p.inOrder = p.holds content :: stack
  | .word _ => rfl
  | .phrase _ => rfl
  | .group d => by
    simp only [Operand.inOrder, Operand.holds, Disjunction.run_inOrder content stack d]

end

end Transcripts.Query
