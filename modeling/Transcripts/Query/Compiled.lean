/-
  Transcripts/Query/Compiled.lean
  ===============================
  **Compiled queries.**

  A query is compiled once and evaluated against many contents.  Evaluation
  runs the postfix form on a stack of truth values.  A half-typed query still
  answers: an operand that is missing counts as false, and a query without any
  term finds nothing.  An empty query finds everything.
-/
import Transcripts.Query.Match
import Transcripts.Query.Postfix

namespace Transcripts.Query

open Transcripts.Text

structure Compiled where
  /-- The query as typed; empty for a query that finds everything. -/
  source : String
  /-- Its tokens in evaluation order. -/
  postfixForm : List Token
  /-- Whether the query is empty. -/
  findsAll : Bool
deriving DecidableEq, Repr

/-- The empty query. -/
def Compiled.everything : Compiled := ⟨"", [], true⟩

/-- Compile a query; a blank one finds everything. -/
def compile (query : String) : Compiled :=
  if isBlankText query then .everything else ⟨query, reorder (tokens query), false⟩

/-- Take the top of a stack of truth values; false where nothing is left. -/
def popOperand : List Bool → Bool × List Bool
  | [] => (false, [])
  | b :: bs => (b, bs)

/-- The effect of an operator on the stack.  Negations take one operand, all
    others two; whatever is not a conjunction is a disjunction. -/
def Operator.apply (operator : Operator) (stack : List Bool) : List Bool :=
  let (right, stack) := popOperand stack
  match operator with
  | .notWord | .minus => (!right) :: stack
  | .andWord | .plus => let (left, stack) := popOperand stack; (left && right) :: stack
  | _ => let (left, stack) := popOperand stack; (left || right) :: stack

/-- The effect of a token on the stack, for a folded content. -/
def Token.apply (content : List Char) (stack : List Bool) : Token → List Bool
  | .phrase text => matchesPhrase content text :: stack
  | .word text => matchesTerm content text :: stack
  | .op operator => operator.apply stack

def run (content : List Char) (stack : List Bool) (ts : List Token) : List Bool :=
  ts.foldl (Token.apply content) stack

/-- Whether every value that is left on a stack holds, and there is one. -/
def settles (stack : List Bool) : Bool := !stack.isEmpty && stack.all id

/-- Whether a query finds a content that is already folded. -/
def Compiled.findsFolded (q : Compiled) (content : List Char) : Bool :=
  q.findsAll || settles (run content [] q.postfixForm)

def Compiled.finds (q : Compiled) (content : String) : Bool :=
  q.findsFolded (fold content.toList)

end Transcripts.Query
