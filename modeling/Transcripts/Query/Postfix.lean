/-
  Transcripts/Query/Postfix.lean
  ==============================
  **Queries in evaluation order.**

  Operators wait on a stack until an operator that binds no tighter, a closing
  parenthesis or the end of the query releases them.  Terms pass straight
  through.  Terms that stand side by side are not joined here: they simply
  follow each other, and evaluation takes what is left side by side as a
  conjunction.
-/
import Transcripts.Query.Token

namespace Transcripts.Query

/-- How tightly an operator binds.  An open parenthesis binds least, so that it
    holds back the operators before it. -/
def Operator.precedence : Operator → Nat
  | .notWord | .minus => 3
  | .andWord | .plus => 2
  | .orWord => 1
  | .openParen | .closeParen | .unknown _ => 0

/-- Tokens in evaluation order, given the operators that wait, innermost first.
    A closing parenthesis without an open one releases all of them; open
    parentheses that are never closed are dropped at the end. -/
def reorderFrom (waiting : List Operator) : List Token → List Token
  | [] => (waiting.filter (· ≠ .openParen)).map .op
  | .phrase text :: ts => .phrase text :: reorderFrom waiting ts
  | .word text :: ts => .word text :: reorderFrom waiting ts
  | .op .openParen :: ts => reorderFrom (.openParen :: waiting) ts
  | .op .closeParen :: ts =>
    (waiting.takeWhile (· ≠ .openParen)).map .op ++
      reorderFrom (waiting.dropWhile (· ≠ .openParen)).tail ts
  | .op operator :: ts =>
    let holds (o : Operator) : Bool := operator.precedence ≤ o.precedence
    (waiting.takeWhile holds).map .op ++ reorderFrom (operator :: waiting.dropWhile holds) ts

def reorder (ts : List Token) : List Token := reorderFrom [] ts

/-- The text of an operator outside the language. -/
def Token.unknownOperator? : Token → Option String
  | .op (.unknown text) => some text
  | _ => none

/-- Tokens in evaluation order; refused at the first operator outside the
    language, by its text. -/
def toPostfix (ts : List Token) : Except String (List Token) :=
  match ts.findSome? Token.unknownOperator? with
  | some text => .error text
  | none => .ok (reorder ts)

end Transcripts.Query
