/-
  Transcripts/Proofs/Query/StrayParentheses.lean
  ==============================================
  **Stray parentheses at the ends of a query are harmless.**

  Open parentheses in front of a query lie at the bottom of the stack, below every
  operator that waits, so they are a floor (`openFloor`).  The floor holds back what an
  empty stack holds back: nothing below it is ever released.  Only a closing
  parenthesis that has no open one above the floor tells the two stacks apart.  It
  takes one parenthesis off the floor, and on the empty stack it does nothing; both
  release the same operators (`readOne_openFloor`).

  At the end of a query all that waits is released.  A closing parenthesis releases a
  part of it first, in the same order, so it may as well be missing.
-/
import Transcripts.Proofs.Query.Coverage
import Transcripts.Proofs.Query.Reordering

namespace Transcripts.Query

open Transcripts.Text

/-! ### Reading one token -/

/-- What a token puts out, given the operators that wait, and what waits behind it. -/
def readOne (waiting : List Operator) : Token → List Token × List Operator
  | .phrase text => ([.phrase text], waiting)
  | .word text => ([.word text], waiting)
  | .op .openParen => ([], .openParen :: waiting)
  | .op .closeParen =>
    ((waiting.takeWhile (· ≠ .openParen)).map .op, (waiting.dropWhile (· ≠ .openParen)).tail)
  | .op o =>
    ((waiting.takeWhile (o.precedence ≤ ·.precedence)).map .op,
      o :: waiting.dropWhile (o.precedence ≤ ·.precedence))

theorem reorderFrom_token (waiting : List Operator) (t : Token) (ts : List Token) :
    reorderFrom waiting (t :: ts) = (readOne waiting t).1 ++ reorderFrom (readOne waiting t).2 ts := by
  cases t with
  | phrase text => rfl
  | word text => rfl
  | op o => cases o <;> rfl

theorem readOne_operator (waiting : List Operator) {o : Operator} (ho : 0 < o.precedence) :
    readOne waiting (.op o) = ((waiting.takeWhile (o.precedence ≤ ·.precedence)).map .op,
      o :: waiting.dropWhile (o.precedence ≤ ·.precedence)) := by
  cases o with
  | openParen | closeParen | unknown _ => exact absurd ho (Nat.lt_irrefl 0)
  | orWord | andWord | plus | notWord | minus => rfl

/-- What is read first does not look at what follows it. -/
theorem reorderFrom_append_congr {us vs : List Token}
    (h : ∀ waiting, reorderFrom waiting us = reorderFrom waiting vs) (waiting : List Operator)
    (ts : List Token) : reorderFrom waiting (ts ++ us) = reorderFrom waiting (ts ++ vs) := by
  induction ts generalizing waiting with
  | nil => exact h waiting
  | cons t ts ih => rw [List.cons_append, List.cons_append, reorderFrom_token, reorderFrom_token, ih]

/-! ### Parentheses in front -/

/-- Open parentheses under all operators that wait. -/
def openFloor (opened : Nat) : List Operator := List.replicate opened .openParen

section Floor

variable {p : Operator → Bool}

theorem takeWhile_openFloor (hp : p .openParen = false) (waiting : List Operator) (opened : Nat) :
    (waiting ++ openFloor opened).takeWhile p = waiting.takeWhile p := by
  induction waiting with
  | nil => cases opened <;> simp [openFloor, List.replicate_succ, hp]
  | cons o waiting ih => rw [List.cons_append, List.takeWhile_cons, List.takeWhile_cons, ih]

theorem dropWhile_openFloor (hp : p .openParen = false) (waiting : List Operator) (opened : Nat) :
    (waiting ++ openFloor opened).dropWhile p = waiting.dropWhile p ++ openFloor opened := by
  induction waiting with
  | nil => cases opened <;> simp [openFloor, List.replicate_succ, hp]
  | cons o waiting ih =>
    rw [List.cons_append, List.dropWhile_cons, List.dropWhile_cons]
    split
    · exact ih
    · rfl

theorem tail_openFloor (waiting : List Operator) (opened : Nat) :
    ∃ left, (waiting ++ openFloor opened).tail = waiting.tail ++ openFloor left := by
  cases waiting with
  | nil => exact ⟨opened - 1, List.tail_replicate ..⟩
  | cons o waiting => exact ⟨opened, rfl⟩

end Floor

/-- Over a floor of open parentheses a token does what it does without. -/
theorem readOne_openFloor {t : Token} (ht : t.unknownOperator? = none) (waiting : List Operator)
    (opened : Nat) : ∃ left, readOne (waiting ++ openFloor opened) t =
      ((readOne waiting t).1, (readOne waiting t).2 ++ openFloor left) := by
  cases t with
  | phrase text => exact ⟨opened, rfl⟩
  | word text => exact ⟨opened, rfl⟩
  | op o =>
    by_cases ho : 0 < o.precedence
    · have hopen : decide (o.precedence ≤ Operator.openParen.precedence) = false :=
        decide_eq_false (Nat.not_le.mpr ho)
      refine ⟨opened, ?_⟩
      rw [readOne_operator _ ho, readOne_operator _ ho, takeWhile_openFloor hopen,
        dropWhile_openFloor hopen]
      rfl
    · cases o with
      | openParen => exact ⟨opened, rfl⟩
      | closeParen =>
        have hopen : decide (Operator.openParen ≠ .openParen) = false := rfl
        obtain ⟨left, hleft⟩ := tail_openFloor (waiting.dropWhile (· ≠ .openParen)) opened
        refine ⟨left, ?_⟩
        rw [readOne, takeWhile_openFloor hopen, dropWhile_openFloor hopen, hleft, readOne]
      | unknown text => cases ht
      | orWord | andWord | plus | notWord | minus => exact absurd (by decide) ho

theorem reorderFrom_openFloor {ts : List Token} (hts : ∀ t ∈ ts, t.unknownOperator? = none)
    (waiting : List Operator) (opened : Nat) :
    reorderFrom (waiting ++ openFloor opened) ts = reorderFrom waiting ts := by
  induction ts generalizing waiting opened with
  | nil => simp [reorderFrom, openFloor]
  | cons t ts ih =>
    obtain ⟨ht, hrest⟩ := List.forall_mem_cons.mp hts
    obtain ⟨left, hleft⟩ := readOne_openFloor ht waiting opened
    rw [reorderFrom_token, hleft, ih hrest, reorderFrom_token]

theorem reorderFrom_opened (waiting : List Operator) (opened : Nat) (ts : List Token) :
    reorderFrom waiting (List.replicate opened (.op .openParen) ++ ts) =
      reorderFrom (openFloor opened ++ waiting) ts := by
  induction opened generalizing waiting with
  | zero => rfl
  | succ opened ih =>
    rw [List.replicate_succ, List.cons_append, reorderFrom_openParen, ih]
    rw [openFloor, openFloor, List.replicate_succ', List.append_assoc, List.singleton_append]

/-! ### Parentheses behind -/

/-- All that waits is what a closing parenthesis releases, and what waits behind it. -/
theorem filter_released (waiting : List Operator) :
    waiting.takeWhile (· ≠ .openParen) ++
        (waiting.dropWhile (· ≠ .openParen)).tail.filter (· ≠ .openParen) =
      waiting.filter (· ≠ .openParen) := by
  induction waiting with
  | nil => rfl
  | cons o waiting ih =>
    by_cases ho : o = .openParen
    · simp [ho]
    · simpa [ho] using ih

/-- Closing parentheses at the end release what is released anyway. -/
theorem reorderFrom_closed (closed : Nat) (waiting : List Operator) :
    reorderFrom waiting (List.replicate closed (.op .closeParen)) = reorderFrom waiting [] := by
  induction closed generalizing waiting with
  | zero => rfl
  | succ closed ih =>
    rw [List.replicate_succ, reorderFrom_token, ih, readOne]
    simp only [reorderFrom]
    rw [← List.map_append, filter_released]

/-! ### Parentheses at both ends -/

theorem reorder_parenthesized {ts : List Token} (hts : ∀ t ∈ ts, t.unknownOperator? = none)
    (opened closed : Nat) :
    reorder (List.replicate opened (.op .openParen) ++ ts ++ List.replicate closed (.op .closeParen)) =
      reorder ts := by
  rw [reorder, reorderFrom_append_congr (reorderFrom_closed closed), List.append_nil,
    reorderFrom_opened, List.append_nil]
  exact reorderFrom_openFloor hts [] opened

/-! ### Texts with parentheses at the ends -/

/-- A quote that opens no phrase opens none if text without quotes is added. -/
theorem phrase?_append_free {cs back : List Char} (h : phrase? cs = none) (hquote : '"' ∉ back) :
    phrase? (cs ++ back) = none := by
  cases hfound : phrase? (cs ++ back) with
  | none => rfl
  | some found =>
    obtain ⟨inner, rest⟩ := found
    have hcanonical := canonical_of_phrase? hfound
    rw [Token.Canonical, String.toList_ofList] at hcanonical
    rcases List.append_eq_append_iff.mp (eq_of_phrase? hfound) with ⟨front, _, hback⟩ | ⟨front, hcs, hback⟩
    · exact absurd (hback ▸ by simp) hquote
    · cases front with
      | nil =>
        rw [List.nil_append] at hback
        exact absurd (hback ▸ List.mem_cons_self) hquote
      | cons q front =>
        obtain ⟨rfl, _⟩ := List.cons.inj hback
        rw [hcs, phrase?_append_quote hcanonical.1 hcanonical.2] at h
        cases h

theorem tokenize_lone_quote {cs : List Char} (h : phrase? cs = none) :
    tokenize ('"' :: cs) = tokenize cs := by
  rw [tokenize, if_pos rfl]
  split
  · next hphrase => rw [h] at hphrase; cases hphrase
  · rfl

/-- A text that begins with a delimiter and has no quote is read by itself. -/
theorem tokenize_append {back : List Char} (hquote : '"' ∉ back)
    (hhead : ∀ c ∈ back.head?, isDelimiter c = true) (front : List Char) :
    tokenize (front ++ back) = tokenize front ++ tokenize back := by
  fun_induction tokenize front with
  | case1 => rfl
  | case2 cs inner rest hphrase _ ih =>
    obtain ⟨hne, hfree⟩ := canonical_of_phrase? hphrase
    rw [String.toList_ofList] at hne hfree
    rw [eq_of_phrase? hphrase, List.cons_append, List.append_assoc, List.cons_append,
      tokenize_phrase hne hfree, ih, List.cons_append]
  | case3 cs hphrase ih =>
    rw [List.cons_append, tokenize_lone_quote (phrase?_append_free hphrase hquote), ih]
  | case4 c cs _ o hsign ih => rw [List.cons_append, tokenize_sign hsign, ih, List.cons_append]
  | case5 c cs hc hsign hdelimiter ih =>
    rw [List.cons_append, tokenize_blank (isBlank_of_isDelimiter hdelimiter hc hsign), ih]
  | case6 c cs _ _ hword _ ih =>
    have hrun : ∀ d ∈ c :: cs.takeWhile (!isDelimiter ·), isDelimiter d = false := by
      refine List.forall_mem_cons.mpr ⟨by simpa using hword, ?_⟩
      intro d hd
      simpa using List.mem_takeWhile_imp hd
    have hend : ∀ d ∈ (cs.dropWhile (!isDelimiter ·) ++ back).head?, isDelimiter d = true := by
      intro d hd
      have hstop := ends_of_dropWhile (p := (!isDelimiter ·)) cs
      cases hrest : cs.dropWhile (!isDelimiter ·) with
      | nil => exact hhead d (by simpa [hrest] using hd)
      | cons e rest =>
        rw [hrest] at hd hstop
        simpa using hstop d hd
    have hcut : c :: cs ++ back = (c :: cs.takeWhile (!isDelimiter ·)) ++
        (cs.dropWhile (!isDelimiter ·) ++ back) := by
      rw [List.cons_append, List.cons_append, ← List.append_assoc, List.takeWhile_append_dropWhile]
    rw [hcut, tokenize_run (List.cons_ne_nil _ _) hrun hend, ih, List.cons_append]

theorem tokenize_signs {c : Char} {o : Operator} (h : sign? c = some o) (count : Nat) (cs : List Char) :
    tokenize (List.replicate count c ++ cs) = List.replicate count (.op o) ++ tokenize cs := by
  induction count with
  | zero => rfl
  | succ count ih =>
    rw [List.replicate_succ, List.cons_append, tokenize_sign h, ih, List.replicate_succ,
      List.cons_append]

/-- A query with parentheses put before it and behind it. -/
def parenthesized (opened : Nat) (query : String) (closed : Nat) : String :=
  .ofList (List.replicate opened '(' ++ query.toList ++ List.replicate closed ')')

theorem tokens_parenthesized (opened : Nat) (query : String) (closed : Nat) :
    tokens (parenthesized opened query closed) =
      List.replicate opened (.op .openParen) ++ tokens query ++
        List.replicate closed (.op .closeParen) := by
  have hopen : sign? '(' = some .openParen := rfl
  have hclose : sign? ')' = some .closeParen := rfl
  have hquote : '"' ∉ List.replicate closed ')' := by simp [List.mem_replicate]
  have hhead : ∀ c ∈ (List.replicate closed ')').head?, isDelimiter c = true := by
    intro c hc
    obtain rfl := List.eq_of_mem_replicate (List.mem_of_mem_head? hc)
    decide
  have hclosed : tokenize (List.replicate closed ')') = List.replicate closed (.op .closeParen) := by
    have hsigns := tokenize_signs hclose closed []
    rwa [List.append_nil, tokenize, List.append_nil] at hsigns
  rw [tokens, parenthesized, String.toList_ofList, List.append_assoc, tokenize_signs hopen,
    tokenize_append hquote hhead, hclosed, List.append_assoc]
  rfl

theorem not_blank_parenthesized {query : String} (h : isBlankText query = false) (opened closed : Nat) :
    isBlankText (parenthesized opened query closed) = false := by
  rw [isBlankText, List.all_eq_false] at h ⊢
  obtain ⟨c, hc, hblank⟩ := h
  refine ⟨c, ?_, hblank⟩
  rw [parenthesized, String.toList_ofList]
  exact List.mem_append_left _ (List.mem_append_right _ hc)

theorem unknownOperator?_of_canonical {t : Token} (h : t.Canonical) : t.unknownOperator? = none := by
  cases t with
  | phrase text => rfl
  | word text => rfl
  | op o =>
    cases o with
    | unknown text => exact h.elim
    | _ => rfl

/-- **Stray parentheses at the ends are harmless.**  Whatever stands between them, open
    parentheses before the tokens of a query and closing ones behind them change nothing
    of the evaluation order, nor of the texts that are found; so a group that is not closed
    is closed at the end.  A blank query finds all texts and is the one exception: with
    parentheses around it, it is not blank and asks for an operand. -/
theorem toPostfix_parenthesized :
    (∀ (ts : List Token) (opened closed : Nat),
      toPostfix (List.replicate opened (.op .openParen) ++ ts ++
        List.replicate closed (.op .closeParen)) = toPostfix ts) ∧
    ∀ (query : String) (opened closed : Nat), isBlankText query = false → ∀ content : String,
      (compile (parenthesized opened query closed)).finds content = (compile query).finds content := by
  refine ⟨?_, ?_⟩
  · intro ts opened closed
    have hunknown : (List.replicate opened (Token.op .openParen) ++ ts ++
        List.replicate closed (Token.op .closeParen)).findSome? Token.unknownOperator? =
          ts.findSome? Token.unknownOperator? := by
      simp [List.findSome?_append, List.findSome?_replicate, Token.unknownOperator?]
    rw [toPostfix, toPostfix, hunknown]
    cases hts : ts.findSome? Token.unknownOperator? with
    | some text => rfl
    | none => exact congrArg Except.ok (reorder_parenthesized (List.findSome?_eq_none_iff.mp hts) _ _)
  · intro query opened closed hblank content
    have hknown : ∀ t ∈ tokens query, t.unknownOperator? = none := fun t ht =>
      unknownOperator?_of_canonical (canonical_tokenize query.toList t ht)
    rw [compile, not_blank_parenthesized hblank, compile, hblank, tokens_parenthesized,
      reorder_parenthesized hknown]
    rfl

/-- A query in which one parenthesis is closed that was not opened, and one is left open. -/
def halfTyped : String := "gato) OR (-\"cao preto\" peixe"

theorem toPostfix_parenthesized_halfTyped :
    isBlankText halfTyped = false ∧
      parenthesized 2 halfTyped 1 = "((gato) OR (-\"cao preto\" peixe)" ∧
      ∀ content : String, (compile (parenthesized 2 halfTyped 1)).finds content =
        (compile halfTyped).finds content := by
  have hblank : isBlankText halfTyped = false := by decide +kernel
  exact ⟨hblank, by decide +kernel, toPostfix_parenthesized.2 halfTyped 2 1 hblank⟩

end Transcripts.Query
