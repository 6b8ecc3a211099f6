/-
  Transcripts/Proofs/Query/Unfinished.lean
  ========================================
  **The stack while a query without negations is read.**

  A binary operator that waits is not released by an operand, and when it is
  released it takes the two operands read last.  `Unfinished` is an account of
  what the stack then holds: at most one `OR` and, inside it, one `AND` wait, each
  with the operand to its left, and below them lie the values that no operator
  takes any more.

  There are three ways to go on.  An operator with its operand changes the
  account as one would expect (`resume_and`, `resume_or`).  An operand without an
  operator leaves the operators where they are and shifts all operands one place
  to the left (`resume_juxtapose`).
-/
import Transcripts.Proofs.Query.Reordering

namespace Transcripts.Query

/-- The stack while a query without negations is read. -/
structure Unfinished where
  /-- The values that no operator takes any more, the latest first. -/
  settled : List Bool
  /-- The operand to the left of the `OR` that waits. -/
  beforeOr : Option Bool
  /-- The operand to the left of the `AND` that waits, and its spelling. -/
  beforeAnd : Option (Bool × Joiner)
  /-- The operand read last. -/
  last : Bool

namespace Unfinished

/-! ### What is on the stack -/

def start (v : Bool) : Unfinished := ⟨[], none, none, v⟩

/-- The truth values on the stack, the latest first. -/
def stack (u : Unfinished) : List Bool :=
  u.last :: ((u.beforeAnd.map Prod.fst).toList ++ (u.beforeOr.toList ++ u.settled))

/-- The operators that wait, the innermost first. -/
def waiting (u : Unfinished) : List Operator :=
  (u.beforeAnd.map fun (_, joiner) => joiner.operator).toList ++
    (u.beforeOr.map fun _ => Operator.orWord).toList

/-- The value of the conjunction that is being read. -/
def conjunct (u : Unfinished) : Bool := (u.beforeAnd.map Prod.fst).getD true && u.last

/-- The value that the stack settles on if the query ends here. -/
def value (u : Unfinished) : Bool :=
  u.settled.all id && (u.beforeOr.getD false || u.conjunct)

def and (u : Unfinished) (joiner : Joiner) (v : Bool) : Unfinished :=
  ⟨u.settled, u.beforeOr, some (u.conjunct, joiner), v⟩

def or (u : Unfinished) (v : Bool) : Unfinished :=
  ⟨u.settled, some (u.beforeOr.getD false || u.conjunct), none, v⟩

/-- An operand behind another one: every place is shifted, and the value that was
    farthest to the left is settled. -/
def juxtapose (u : Unfinished) (v : Bool) : Unfinished :=
  match u.beforeOr, u.beforeAnd with
  | some l, some (m, joiner) => ⟨l :: u.settled, some m, some (u.last, joiner), v⟩
  | some l, none => ⟨l :: u.settled, some u.last, none, v⟩
  | none, some (m, joiner) => ⟨m :: u.settled, none, some (u.last, joiner), v⟩
  | none, none => ⟨u.last :: u.settled, none, none, v⟩

theorem stack_juxtapose (u : Unfinished) (v : Bool) : (u.juxtapose v).stack = v :: u.stack := by
  rcases u with ⟨settled, _ | l, _ | ⟨m, joiner⟩, last⟩ <;> rfl

theorem waiting_juxtapose (u : Unfinished) (v : Bool) : (u.juxtapose v).waiting = u.waiting := by
  rcases u with ⟨settled, _ | l, _ | ⟨m, joiner⟩, last⟩ <;> rfl

/-! ### Reading on -/

/-- What evaluation settles on if `rest` is still to be read. -/
def resume (content : List Char) (u : Unfinished) (rest : List Token) : Bool :=
  settles (run content u.stack (reorderFrom u.waiting rest))

theorem resume_nil (content : List Char) (u : Unfinished) : u.resume content [] = u.value := by
  have hand : ∀ joiner : Joiner, joiner.operator ≠ .openParen := by rintro (_ | _) <;> decide
  rcases u with ⟨settled, _ | l, _ | ⟨m, joiner⟩, last⟩ <;>
    simp [resume, stack, waiting, value, conjunct, reorderFrom, hand, settles,
      Bool.and_comm, Bool.and_left_comm]

/-- An operand that begins a clause. -/
theorem resume_juxtapose (content : List Char) (u : Unfinished) (p : Operand) (rest : List Token) :
    u.resume content (p.tokens ++ rest) = (u.juxtapose (p.holds content)).resume content rest := by
  rw [resume, p.reorderFrom_tokens, run_append, p.run_inOrder, resume, stack_juxtapose,
    waiting_juxtapose]

/-- What waits behind an `AND` is released by another one. -/
theorem resume_and (content : List Char) (u : Unfinished) (joiner : Joiner) (p : Operand)
    (rest : List Token) :
    u.resume content (.op joiner.operator :: (p.tokens ++ rest)) =
      (u.and joiner (p.holds content)).resume content rest := by
  have hheld : HeldBack joiner.operator.precedence
      (u.beforeOr.map fun _ => Operator.orWord).toList := by
    rw [Joiner.precedence_operator]
    cases u.beforeOr with
    | none => trivial
    | some _ => exact Nat.lt_succ_self 1
  have hjoin : ∀ ts, reorderFrom (u.beforeOr.map fun _ => Operator.orWord).toList
      (.op joiner.operator :: ts) =
        reorderFrom (joiner.operator :: (u.beforeOr.map fun _ => Operator.orWord).toList) ts :=
    reorderFrom_op (by simp) hheld
  rcases u with ⟨settled, beforeOr, _ | ⟨m, waiting⟩, last⟩
  · simp only [resume, Unfinished.waiting, stack, Option.map_none, Option.toList_none,
      List.nil_append] at hjoin ⊢
    rw [hjoin, p.reorderFrom_tokens, run_append, p.run_inOrder]
    rfl
  · simp only [resume, Unfinished.waiting, stack, Option.map_some, Option.toList_some,
      List.cons_append, List.nil_append] at hjoin ⊢
    rw [reorderFrom_cons (k := 2) (by simp) (by decide) (releases_joiner joiner _), hjoin,
      p.reorderFrom_tokens, run_cons, run_append, p.run_inOrder, Token.apply_op,
      Joiner.apply_operator]
    rfl

/-- Whatever waits is released by an `OR`. -/
theorem resume_or (content : List Char) (u : Unfinished) (p : Operand) (rest : List Token) :
    u.resume content (.op .orWord :: (p.tokens ++ rest)) =
      (u.or (p.holds content)).resume content rest := by
  have hrest : Releases 1 (.op .orWord :: (p.tokens ++ rest)) := Nat.le_refl 1
  have hjoin : reorderFrom [] (.op .orWord :: (p.tokens ++ rest)) =
      p.inOrder ++ reorderFrom [.orWord] rest := by
    have hwait : HeldBack Operator.orWord.precedence [] := trivial
    rw [reorderFrom_op (by decide) hwait, p.reorderFrom_tokens]
  have hor : reorderFrom [.orWord] (.op .orWord :: (p.tokens ++ rest)) =
      .op .orWord :: (p.inOrder ++ reorderFrom [.orWord] rest) := by
    rw [reorderFrom_cons (k := 1) (by decide) (by decide) hrest, hjoin]
  rcases u with ⟨settled, _ | l, _ | ⟨m, joiner⟩, last⟩ <;>
    simp only [resume, waiting, stack, Option.map_none, Option.map_some, Option.toList_none,
      Option.toList_some, List.nil_append, List.cons_append]
  · rw [hjoin, run_append, p.run_inOrder]
    simp [or, conjunct]
  · rw [reorderFrom_cons (k := 1) (by simp) (by decide) hrest, hjoin, run_cons, run_append,
      p.run_inOrder, Token.apply_op, Joiner.apply_operator]
    simp [or, conjunct]
  · rw [hor, run_cons, run_append, p.run_inOrder, Token.apply_op, Operator.apply_orWord]
    simp [or, conjunct]
  · rw [reorderFrom_cons (k := 1) (by simp) (by decide) hrest, hor]
    simp only [run_cons, run_append, p.run_inOrder, Token.apply_op, Joiner.apply_operator,
      Operator.apply_orWord]
    simp [or, conjunct]

end Unfinished

end Transcripts.Query
