/-
  Transcripts/Proofs/Query/Conservation.lean
  ==========================================
  **Reordering loses no token of a query and repeats none.**

  Terms pass straight through, so only operators can go astray.  What has been put out
  and what still waits are together what has been read, parentheses apart; every token
  keeps this, and at the end nothing waits.

  How tightly operators bind stands in a table, and the table has no entry for a closing
  parenthesis.  Reordering with lookups that can miss (`reorderLooking`) misses nothing on
  the tokens of a query, because all that ever waits has an entry.
-/
import Mathlib.Data.List.Perm.Basic
import Transcripts.Proofs.Query.StrayParentheses

namespace Transcripts.Query

/-! ### Reordering with lookups -/

/-- The entry of an operator in the table of precedences, if it has one. -/
def Operator.entry? : Operator → Option Nat
  | .notWord | .minus => some 3
  | .andWord | .plus => some 2
  | .orWord => some 1
  | .openParen => some 0
  | .closeParen | .unknown _ => none

/-- The entry of an operator; where it has none, its text. -/
def Operator.lookUp (o : Operator) : Except String Nat :=
  match o.entry? with
  | some k => .ok k
  | none => .error o.text

/-- The waiting operators that are released and those that stay.  Each is looked up, down
    to the first that stays. -/
def releaseLooking (k : Nat) : List Operator → Except String (List Operator × List Operator)
  | [] => .ok ([], [])
  | o :: waiting => do
    if k ≤ (← o.lookUp) then
      let (released, left) ← releaseLooking k waiting
      return (o :: released, left)
    else return ([], o :: waiting)

/-- What a token puts out and what waits behind it, looking up what it compares. -/
def readLooking (waiting : List Operator) : Token → Except String (List Token × List Operator)
  | .phrase text => .ok ([.phrase text], waiting)
  | .word text => .ok ([.word text], waiting)
  | .op .openParen => .ok ([], .openParen :: waiting)
  | .op .closeParen =>
    .ok ((waiting.takeWhile (· ≠ .openParen)).map .op, (waiting.dropWhile (· ≠ .openParen)).tail)
  | .op o => do
    let (released, left) ← releaseLooking (← o.lookUp) waiting
    return (released.map .op, o :: left)

/-- Tokens in evaluation order; refused at the first lookup that misses. -/
def reorderLooking (waiting : List Operator) : List Token → Except String (List Token)
  | [] => .ok ((waiting.filter (· ≠ .openParen)).map .op)
  | t :: ts => do
    let (out, left) ← readLooking waiting t
    let rest ← reorderLooking left ts
    return out ++ rest

/-! ### No lookup misses -/

/-- All operators that wait have an entry. -/
def Registered (waiting : List Operator) : Prop := ∀ o ∈ waiting, o.entry?.isSome

theorem lookUp_of_isSome {o : Operator} (h : o.entry?.isSome) : o.lookUp = .ok o.precedence := by
  cases o with
  | closeParen | unknown _ => cases h
  | openParen | orWord | andWord | plus | notWord | minus => rfl

theorem isSome_entry?_of_pos {o : Operator} (h : 0 < o.precedence) : o.entry?.isSome := by
  cases o with
  | openParen | closeParen | unknown _ => exact absurd h (Nat.lt_irrefl 0)
  | orWord | andWord | plus | notWord | minus => rfl

theorem releaseLooking_eq {waiting : List Operator} (h : Registered waiting) (k : Nat) :
    releaseLooking k waiting =
      .ok (waiting.takeWhile (k ≤ ·.precedence), waiting.dropWhile (k ≤ ·.precedence)) := by
  induction waiting with
  | nil => rfl
  | cons o waiting ih =>
    obtain ⟨ho, hwaiting⟩ := List.forall_mem_cons.mp h
    rw [releaseLooking, lookUp_of_isSome ho, ih hwaiting, List.takeWhile_cons, List.dropWhile_cons]
    by_cases hk : k ≤ o.precedence
    · simp [hk, bind, Except.bind, pure, Except.pure]
    · simp [hk, bind, Except.bind, pure, Except.pure]

theorem readLooking_operator (waiting : List Operator) {o : Operator} (ho : 0 < o.precedence) :
    readLooking waiting (.op o) = (do
      let (released, left) ← releaseLooking (← o.lookUp) waiting
      return (released.map .op, o :: left)) := by
  cases o with
  | openParen | closeParen | unknown _ => exact absurd ho (Nat.lt_irrefl 0)
  | orWord | andWord | plus | notWord | minus => rfl

/-- A token of the language is a term, a parenthesis, or an operator that binds. -/
theorem token_cases {t : Token} (ht : t.unknownOperator? = none) :
    t.isTerm = true ∨ t = .op .openParen ∨ t = .op .closeParen ∨
      ∃ o, t = .op o ∧ 0 < o.precedence := by
  cases t with
  | phrase text => exact .inl rfl
  | word text => exact .inl rfl
  | op o =>
    cases o with
    | openParen => exact .inr (.inl rfl)
    | closeParen => exact .inr (.inr (.inl rfl))
    | unknown text => cases ht
    | orWord | andWord | plus | notWord | minus => exact .inr (.inr (.inr ⟨_, rfl, by decide⟩))

theorem readOne_term {t : Token} (ht : t.isTerm = true) (waiting : List Operator) :
    readOne waiting t = ([t], waiting) := by
  cases t with
  | phrase text => rfl
  | word text => rfl
  | op o => cases ht

theorem readLooking_term {t : Token} (ht : t.isTerm = true) (waiting : List Operator) :
    readLooking waiting t = .ok ([t], waiting) := by
  cases t with
  | phrase text => rfl
  | word text => rfl
  | op o => cases ht

theorem readLooking_eq {waiting : List Operator} (h : Registered waiting) {t : Token}
    (ht : t.unknownOperator? = none) : readLooking waiting t = .ok (readOne waiting t) := by
  rcases token_cases ht with hterm | rfl | rfl | ⟨o, rfl, ho⟩
  · rw [readLooking_term hterm, readOne_term hterm]
  · rfl
  · rfl
  · rw [readLooking_operator _ ho, lookUp_of_isSome (isSome_entry?_of_pos ho), readOne_operator _ ho]
    show (releaseLooking o.precedence waiting >>= fun cut => Except.ok (cut.1.map Token.op, o :: cut.2)) = _
    rw [releaseLooking_eq h]
    rfl

/-- What waits has an entry, whatever is read. -/
theorem registered_readOne {waiting : List Operator} (h : Registered waiting) {t : Token}
    (ht : t.unknownOperator? = none) : Registered (readOne waiting t).2 := by
  rcases token_cases ht with hterm | rfl | rfl | ⟨o, rfl, ho⟩
  · rw [readOne_term hterm]
    exact h
  · exact List.forall_mem_cons.mpr ⟨rfl, h⟩
  · intro o ho
    exact h o ((List.dropWhile_sublist _).subset (List.mem_of_mem_tail ho))
  · rw [readOne_operator _ ho]
    refine List.forall_mem_cons.mpr ⟨isSome_entry?_of_pos ho, ?_⟩
    intro o' ho'
    exact h o' ((List.dropWhile_sublist _).subset ho')

theorem eq_of_unknownOperator? {t : Token} {text : String} (h : t.unknownOperator? = some text) :
    t = .op (.unknown text) := by
  cases t with
  | phrase _ => cases h
  | word _ => cases h
  | op o =>
    cases o with
    | unknown _ => cases h; rfl
    | _ => cases h

theorem readLooking_unknown (text : String) (waiting : List Operator) :
    readLooking waiting (.op (.unknown text)) = .error text := rfl

/-- Looking up on the way comes to the same as looking for operators without an entry first. -/
theorem reorderLooking_eq (ts : List Token) {waiting : List Operator} (h : Registered waiting) :
    reorderLooking waiting ts = match ts.findSome? Token.unknownOperator? with
      | some text => .error text
      | none => .ok (reorderFrom waiting ts) := by
  induction ts generalizing waiting with
  | nil => rfl
  | cons t ts ih =>
    rw [reorderLooking, List.findSome?_cons]
    cases ht : t.unknownOperator? with
    | some text =>
      obtain rfl : t = .op (.unknown text) := eq_of_unknownOperator? ht
      rw [readLooking_unknown]
      rfl
    | none =>
      rw [readLooking_eq h ht, reorderFrom_token]
      show (reorderLooking (readOne waiting t).2 ts >>= fun rest =>
        Except.ok ((readOne waiting t).1 ++ rest)) = _
      rw [ih (registered_readOne h ht)]
      cases ts.findSome? Token.unknownOperator? with
      | some text => rfl
      | none => rfl

theorem reorderLooking_nil (ts : List Token) : reorderLooking [] ts = toPostfix ts :=
  reorderLooking_eq ts fun _ ho => absurd ho List.not_mem_nil

/-! ### What is put out and what waits -/

def Token.operator? : Token → Option Operator
  | .op o => some o
  | .phrase _ | .word _ => none

/-- The operators among tokens, in their order. -/
def operatorsOf (ts : List Token) : List Operator := ts.filterMap Token.operator?

/-- Whether an operator is no parenthesis. -/
def Operator.isProper (o : Operator) : Bool := o ≠ .openParen && o ≠ .closeParen

theorem operatorsOf_append (ts us : List Token) :
    operatorsOf (ts ++ us) = operatorsOf ts ++ operatorsOf us := List.filterMap_append

@[simp] theorem operatorsOf_map_op (os : List Operator) : operatorsOf (os.map .op) = os := by
  rw [operatorsOf, List.filterMap_map]
  exact List.filterMap_some

theorem terms_map_op (os : List Operator) : (os.map Token.op).filter Token.isTerm = [] := by
  simp [List.filter_eq_nil_iff, Token.isTerm]

theorem operatorsOf_term {t : Token} (ht : t.isTerm = true) : operatorsOf [t] = [] := by
  cases t with
  | phrase text => rfl
  | word text => rfl
  | op o => cases ht

theorem isProper_of_pos {o : Operator} (h : 0 < o.precedence) : o.isProper = true := by
  cases o with
  | openParen | closeParen | unknown _ => exact absurd h (Nat.lt_irrefl 0)
  | orWord | andWord | plus | notWord | minus => rfl

theorem filter_of_binding {k : Nat} (hk : 0 < k) {released : List Operator}
    (h : ∀ o ∈ released, k ≤ o.precedence) : released.filter (· ≠ .openParen) = released := by
  refine List.filter_eq_self.mpr fun o ho => decide_eq_true ?_
  rintro rfl
  exact absurd (h _ ho) (Nat.not_le.mpr hk)

/-- An operator changes places with those that it releases, and that is all. -/
theorem perm_operator {o : Operator} (ho : 0 < o.precedence) (waiting : List Operator) :
    (waiting.takeWhile (o.precedence ≤ ·.precedence) ++
        (o :: waiting.dropWhile (o.precedence ≤ ·.precedence)).filter (· ≠ .openParen)).Perm
      (waiting.filter (· ≠ .openParen) ++ [o]) := by
  have hreleased :
      ∀ o' ∈ waiting.takeWhile (o.precedence ≤ ·.precedence), o.precedence ≤ o'.precedence := by
    intro o' ho'
    simpa using List.mem_takeWhile_imp ho'
  have hopen : o ≠ .openParen := by
    rintro rfl
    exact Nat.lt_irrefl 0 ho
  rw [List.filter_cons_of_pos (by simpa using hopen)]
  conv_lhs => rw [← filter_of_binding ho hreleased]
  refine List.perm_middle.trans ?_
  rw [← List.filter_append, List.takeWhile_append_dropWhile]
  exact (List.perm_append_singleton o _).symm

/-- **What one token does.**  What it puts out and what waits behind it are what waited
    and the token itself, parentheses apart. -/
theorem perm_readOne {t : Token} (ht : t.unknownOperator? = none) (waiting : List Operator) :
    (operatorsOf (readOne waiting t).1 ++ (readOne waiting t).2.filter (· ≠ .openParen)).Perm
      (waiting.filter (· ≠ .openParen) ++ (operatorsOf [t]).filter Operator.isProper) := by
  rcases token_cases ht with hterm | rfl | rfl | ⟨o, rfl, ho⟩
  · rw [readOne_term hterm, operatorsOf_term hterm, List.filter_nil, List.append_nil]
    exact .refl _
  · have hskipped : (operatorsOf [Token.op .openParen]).filter Operator.isProper = [] := rfl
    rw [hskipped, List.append_nil]
    exact .refl _
  · have hskipped : (operatorsOf [Token.op .closeParen]).filter Operator.isProper = [] := rfl
    rw [hskipped, List.append_nil, readOne, operatorsOf_map_op, filter_released]
  · rw [readOne_operator _ ho, operatorsOf_map_op]
    have hkept : (operatorsOf [Token.op o]).filter Operator.isProper = [o] :=
      List.filter_cons_of_pos (isProper_of_pos ho)
    rw [hkept]
    exact perm_operator ho waiting

theorem terms_readOne {t : Token} (ht : t.unknownOperator? = none) (waiting : List Operator) :
    (readOne waiting t).1.filter Token.isTerm = [t].filter Token.isTerm := by
  rcases token_cases ht with hterm | rfl | rfl | ⟨o, rfl, ho⟩
  · rw [readOne_term hterm]
  · rfl
  · rw [readOne, terms_map_op]
    rfl
  · rw [readOne_operator _ ho, terms_map_op]
    rfl

/-! ### The whole query -/

theorem perm_reorderFrom {ts : List Token} (hts : ∀ t ∈ ts, t.unknownOperator? = none)
    (waiting : List Operator) :
    (operatorsOf (reorderFrom waiting ts)).Perm
      (waiting.filter (· ≠ .openParen) ++ (operatorsOf ts).filter Operator.isProper) := by
  induction ts generalizing waiting with
  | nil =>
    rw [reorderFrom, operatorsOf_map_op]
    simp [operatorsOf]
  | cons t ts ih =>
    obtain ⟨ht, hrest⟩ := List.forall_mem_cons.mp hts
    rw [reorderFrom_token, operatorsOf_append]
    refine ((ih hrest _).append_left _).trans ?_
    rw [← List.append_assoc]
    refine ((perm_readOne ht waiting).append_right _).trans ?_
    rw [List.append_assoc, ← List.filter_append, ← operatorsOf_append, List.singleton_append]

theorem terms_reorderFrom {ts : List Token} (hts : ∀ t ∈ ts, t.unknownOperator? = none)
    (waiting : List Operator) :
    (reorderFrom waiting ts).filter Token.isTerm = ts.filter Token.isTerm := by
  induction ts generalizing waiting with
  | nil => exact terms_map_op _
  | cons t ts ih =>
    obtain ⟨ht, hrest⟩ := List.forall_mem_cons.mp hts
    rw [reorderFrom_token, List.filter_append, terms_readOne ht, ih hrest, ← List.filter_append,
      List.singleton_append]

/-- **Reordering a query misses no lookup, loses no token and repeats none.**  Whatever
    text the query is, every operator that is compared has an entry, and what comes out
    has no parenthesis, the words and phrases of the query in their order, and its
    operators, each as often as the query has it. -/
theorem toPostfix_conserves (query : String) :
    ∃ ts, toPostfix (tokens query) = .ok ts ∧ reorderLooking [] (tokens query) = .ok ts ∧
      .op .openParen ∉ ts ∧ .op .closeParen ∉ ts ∧
      ts.filter Token.isTerm = (tokens query).filter Token.isTerm ∧
      (operatorsOf ts).Perm ((operatorsOf (tokens query)).filter Operator.isProper) := by
  have hknown : ∀ t ∈ tokens query, t.unknownOperator? = none := fun t ht =>
    unknownOperator?_of_canonical (canonical_tokenize query.toList t ht)
  have hpostfix : toPostfix (tokens query) = .ok (reorder (tokens query)) := by
    rw [toPostfix, List.findSome?_eq_none_iff.mpr hknown]
  have hperm : (operatorsOf (reorder (tokens query))).Perm
      ((operatorsOf (tokens query)).filter Operator.isProper) := perm_reorderFrom hknown []
  have hproper : ∀ o, .op o ∈ reorder (tokens query) → o.isProper = true := by
    intro o ho
    have hout : o ∈ operatorsOf (reorder (tokens query)) := List.mem_filterMap.mpr ⟨_, ho, rfl⟩
    exact List.of_mem_filter (hperm.subset hout)
  refine ⟨reorder (tokens query), hpostfix, ?_, ?_, ?_, ?_, hperm⟩
  · rw [reorderLooking_nil, hpostfix]
  · intro hopen
    cases hproper _ hopen
  · intro hclose
    cases hproper _ hclose
  · exact terms_reorderFrom hknown []

end Transcripts.Query
