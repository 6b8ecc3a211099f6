/-
  Transcripts/Proofs/Query/AdjacentClauses.lean
  =============================================
  **Which operands an operator takes when clauses stand side by side.**

  Clauses without an operator between them are meant as a conjunction.  A binary
  operator that waits is not released where the next clause begins, though, so
  every operand that begins a clause pushes the operands of the waiting operators
  one place to the left: `a OR b c` asks for `a`, and for `b` or `c`.

  `readClauses` follows the account of the stack through adjacent clauses.  From
  it we see when every operator takes the operands that it was written between,
  whatever these are: exactly if no clause has an `OR` outside parentheses, or if
  only the last clause has any operator there.
-/
import Transcripts.Proofs.Query.AdjacentFactors
import Transcripts.Proofs.Query.Unfinished

namespace Transcripts.Query

/-! ### Operators outside parentheses -/

/-- The operators of a conjunction, without those inside its operands. -/
def Conjunction.operators : Conjunction → List Operator
  | .one _ => []
  | .and c joiner _ => c.operators ++ [joiner.operator]

def Disjunction.operators : Disjunction → List Operator
  | .one c => c.operators
  | .or d c => d.operators ++ .orWord :: c.operators

theorem Conjunction.orWord_not_mem_operators (c : Conjunction) :
    Operator.orWord ∉ c.operators := by
  induction c with
  | one f => exact List.not_mem_nil
  | and c joiner f ih => cases joiner <;> simpa [Conjunction.operators, Joiner.operator] using ih

mutual

/-- Whether a query has no negation, inside its parentheses or out. -/
def Disjunction.NegationFree : Disjunction → Prop
  | .one c => c.NegationFree
  | .or d c => d.NegationFree ∧ c.NegationFree

def Conjunction.NegationFree : Conjunction → Prop
  | .one f => f.NegationFree
  | .and c _ f => c.NegationFree ∧ f.NegationFree

def Factor.NegationFree : Factor → Prop
  | .plain p => p.NegationFree
  | .negated _ _ => False

def Operand.NegationFree : Operand → Prop
  | .word _ => True
  | .phrase _ => True
  | .group d => d.NegationFree

end

/-! ### Reading clauses -/

/-- The account after a conjunction, given what its first operand makes of it. -/
def Conjunction.read (content : List Char) (first : Bool → Unfinished) : Conjunction → Unfinished
  | .one f => first (f.holds content)
  | .and c joiner f => (c.read content first).and joiner (f.holds content)

def Disjunction.read (content : List Char) (first : Bool → Unfinished) : Disjunction → Unfinished
  | .one c => c.read content first
  | .or d c => c.read content (d.read content first).or

/-- What the next operand makes of the account, once some clauses are read. -/
def readClauses (content : List Char) (first : Bool → Unfinished) (ds : List Disjunction) :
    Bool → Unfinished :=
  ds.foldl (fun first d => (d.read content first).juxtapose) first

@[simp] theorem readClauses_nil (content : List Char) (first : Bool → Unfinished) :
    readClauses content first [] = first := rfl

@[simp] theorem readClauses_cons (content : List Char) (first : Bool → Unfinished)
    (d : Disjunction) (ds : List Disjunction) :
    readClauses content first (d :: ds) =
      readClauses content (d.read content first).juxtapose ds := rfl

@[simp] theorem readClauses_append (content : List Char) (first : Bool → Unfinished)
    (ds es : List Disjunction) :
    readClauses content first (ds ++ es) =
      readClauses content (readClauses content first ds) es :=
  List.foldl_append

theorem Factor.eq_plain_of_negationFree {f : Factor} (h : f.NegationFree) : ∃ p, f = .plain p := by
  cases f with
  | plain p => exact ⟨p, rfl⟩
  | negated negator p => exact h.elim

/-- `first` says what reading an operand makes of the outcome `k`. -/
def Begins (content : List Char) (k : List Token → Bool) (first : Bool → Unfinished) : Prop :=
  ∀ (p : Operand) (rest : List Token),
    k (p.tokens ++ rest) = (first (p.holds content)).resume content rest

theorem Conjunction.resume_read {content : List Char} {k : List Token → Bool}
    {first : Bool → Unfinished} (hfirst : Begins content k first) {c : Conjunction}
    (hfree : c.NegationFree) (rest : List Token) :
    k (c.tokens ++ rest) = (c.read content first).resume content rest := by
  induction c generalizing rest with
  | one f =>
    obtain ⟨p, rfl⟩ := Factor.eq_plain_of_negationFree hfree
    exact hfirst p rest
  | and c joiner f ih =>
    obtain ⟨p, rfl⟩ := Factor.eq_plain_of_negationFree hfree.2
    calc k ((Conjunction.and c joiner (.plain p)).tokens ++ rest)
        = k (c.tokens ++ .op joiner.operator :: (p.tokens ++ rest)) := by
          simp only [Conjunction.tokens, Factor.tokens, List.append_assoc, List.cons_append]
      _ = (c.read content first).resume content (.op joiner.operator :: (p.tokens ++ rest)) :=
          ih hfree.1 _
      _ = ((Conjunction.and c joiner (.plain p)).read content first).resume content rest :=
          Unfinished.resume_and content _ joiner p rest

theorem Disjunction.resume_read {content : List Char} {k : List Token → Bool}
    {first : Bool → Unfinished} (hfirst : Begins content k first) {d : Disjunction}
    (hfree : d.NegationFree) (rest : List Token) :
    k (d.tokens ++ rest) = (d.read content first).resume content rest := by
  induction d generalizing rest with
  | one c => exact Conjunction.resume_read hfirst hfree rest
  | or d c ih =>
    -- behind the `OR` the second conjunction begins
    have hor : Begins content
        (fun ts => (d.read content first).resume content (.op .orWord :: ts))
        (d.read content first).or := fun p rest =>
      Unfinished.resume_or content _ p rest
    calc k ((Disjunction.or d c).tokens ++ rest)
        = k (d.tokens ++ .op .orWord :: (c.tokens ++ rest)) := by
          simp only [Disjunction.tokens, List.append_assoc, List.cons_append]
      _ = (d.read content first).resume content (.op .orWord :: (c.tokens ++ rest)) :=
          ih hfree.1 _
      _ = ((Disjunction.or d c).read content first).resume content rest :=
          Conjunction.resume_read hor hfree.2 rest

theorem begins_readClauses {content : List Char} {k : List Token → Bool}
    {first : Bool → Unfinished} (hfirst : Begins content k first) (ds : List Disjunction)
    (hfree : ∀ d ∈ ds, d.NegationFree) :
    Begins content (fun ts => k (ds.flatMap Disjunction.tokens ++ ts))
      (readClauses content first ds) := by
  induction ds generalizing k first with
  | nil => exact hfirst
  | cons d ds ih =>
    have hnext : Begins content (fun ts => k (d.tokens ++ ts))
        (d.read content first).juxtapose := by
      intro p rest
      have hread := Disjunction.resume_read hfirst (hfree d (by simp)) (p.tokens ++ rest)
      exact hread.trans (Unfinished.resume_juxtapose content _ p rest)
    have h := ih hnext fun e he => hfree e (List.mem_cons_of_mem _ he)
    simpa only [List.flatMap_cons, List.append_assoc, readClauses_cons] using h

theorem begins_start (content : List Char) :
    Begins content (fun ts => settles (run content [] (reorder ts))) Unfinished.start := by
  intro p rest
  simp only [reorder, p.reorderFrom_tokens, run_append, p.run_inOrder]
  rfl

theorem Conjunction.tokens_ne_nil (c : Conjunction) : c.tokens ≠ [] := by
  cases c with
  | one f => exact f.tokens_ne_nil
  | and c joiner f => simp [Conjunction.tokens]

theorem Disjunction.tokens_ne_nil (d : Disjunction) : d.tokens ≠ [] := by
  cases d with
  | one c => exact c.tokens_ne_nil
  | or d c => simp [Disjunction.tokens]

/-- The value of adjacent clauses is read off the account of the stack. -/
theorem compile_clauses {ds : List Disjunction} {e : Disjunction}
    (hfree : ∀ d ∈ ds ++ [e], d.NegationFree) {query : String}
    (hquery : tokens query = (ds ++ [e]).flatMap Disjunction.tokens) (content : List Char) :
    (compile query).findsFolded content =
      (e.read content (readClauses content .start ds)).value := by
  have hne : (ds ++ [e]).flatMap Disjunction.tokens ≠ [] := by
    simp [e.tokens_ne_nil]
  have hfirst := begins_readClauses (begins_start content) ds fun d hd =>
    hfree d (List.mem_append_left _ hd)
  have hlast := Disjunction.resume_read hfirst (hfree e (by simp)) []
  rw [Unfinished.resume_nil] at hlast
  rw [findsFolded_compile hquery hne, ← hlast]
  simp

/-! ### Clauses without `OR` -/

/-- A clause without `OR` outside parentheses is a single conjunction. -/
theorem Disjunction.eq_one_of_no_or {d : Disjunction} (h : Operator.orWord ∉ d.operators) :
    ∃ c, d = .one c := by
  cases d with
  | one c => exact ⟨c, rfl⟩
  | or d c => exact absurd (by simp [Disjunction.operators]) h

/-- So far `required` is asked for, no `OR` waits, and every operand read next is
    asked for in addition. -/
def Conjoins (required : Bool) (first : Bool → Unfinished) : Prop :=
  ∀ v, (first v).beforeOr = none ∧
    ((first v).settled.all id && (first v).conjunct) = (required && v)

theorem Conjunction.read_of_conjoins (content : List Char) {required : Bool}
    {first : Bool → Unfinished} (h : Conjoins required first) (c : Conjunction) :
    (c.read content first).beforeOr = none ∧
      ((c.read content first).settled.all id && (c.read content first).conjunct) =
        (required && c.holds content) := by
  induction c with
  | one f => exact h (f.holds content)
  | and c joiner f ih =>
    obtain ⟨hor, hvalue⟩ := ih
    refine ⟨hor, ?_⟩
    rw [Conjunction.holds, ← Bool.and_assoc, ← hvalue, Bool.and_assoc]
    rfl

theorem conjoins_juxtapose {required : Bool} {u : Unfinished} (hor : u.beforeOr = none)
    (hvalue : (u.settled.all id && u.conjunct) = required) :
    Conjoins required u.juxtapose := by
  intro v
  subst hvalue
  rcases u with ⟨settled, _ | l, _ | ⟨m, joiner⟩, last⟩
  · refine ⟨rfl, ?_⟩
    simp only [Unfinished.juxtapose, Unfinished.conjunct, Option.map_none, Option.getD_none,
      List.all_cons, id_eq, Bool.true_and]
    rw [Bool.and_comm last]
  · refine ⟨rfl, ?_⟩
    simp only [Unfinished.juxtapose, Unfinished.conjunct, Option.map_some, Option.getD_some,
      List.all_cons, id_eq]
    rw [Bool.and_comm m, Bool.and_assoc, Bool.and_assoc, Bool.and_assoc]
  · cases hor
  · cases hor

theorem conjoins_readClauses (content : List Char) {required : Bool} {first : Bool → Unfinished}
    (h : Conjoins required first) {ds : List Disjunction}
    (hds : ∀ d ∈ ds, Operator.orWord ∉ d.operators) :
    Conjoins (required && ds.all (Disjunction.holds content)) (readClauses content first ds) := by
  induction ds generalizing required first with
  | nil => simpa using h
  | cons d ds ih =>
    obtain ⟨c, rfl⟩ := Disjunction.eq_one_of_no_or (hds d (by simp))
    obtain ⟨hor, hvalue⟩ := c.read_of_conjoins content h
    have hnext := ih (conjoins_juxtapose hor hvalue) fun e he => hds e (List.mem_cons_of_mem _ he)
    rwa [List.all_cons, ← Bool.and_assoc]

theorem conjoins_start : Conjoins true .start := by
  intro v
  exact ⟨rfl, by simp [Unfinished.start, Unfinished.conjunct]⟩

/-- Without `OR` every operand is asked for, wherever operators stand. -/
theorem value_of_no_or {content : List Char} {ds : List Disjunction} {e : Disjunction}
    (h : ∀ d ∈ ds ++ [e], Operator.orWord ∉ d.operators) :
    (e.read content (readClauses content .start ds)).value =
      (ds ++ [e]).all (Disjunction.holds content) := by
  obtain ⟨c, rfl⟩ := Disjunction.eq_one_of_no_or (h e (by simp))
  have hds : ∀ d ∈ ds, Operator.orWord ∉ d.operators := fun d hd =>
    h d (List.mem_append_left _ hd)
  obtain ⟨hor, hvalue⟩ :=
    c.read_of_conjoins content (conjoins_readClauses content conjoins_start hds)
  have hread : (Disjunction.one c).read content (readClauses content .start ds) =
      c.read content (readClauses content .start ds) := rfl
  rw [hread, Unfinished.value, hor, Option.getD_none, Bool.false_or, hvalue, Bool.true_and,
    List.all_append, List.all_cons, List.all_nil, Bool.and_true]
  rfl

/-! ### Operators in the last clause only -/

/-- No operator waits, and the values `settled` are on the stack. -/
def StartsAfresh (settled : List Bool) (first : Bool → Unfinished) : Prop :=
  ∀ v, first v = ⟨settled, none, none, v⟩

theorem startsAfresh_start : StartsAfresh [] .start := fun _ => rfl

/-- Behind an `OR`, or where none waits, a conjunction is read as it is meant. -/
theorem Conjunction.read_afresh (content : List Char) {settled : List Bool}
    {beforeOr : Option Bool} {first : Bool → Unfinished}
    (h : ∀ v, first v = ⟨settled, beforeOr, none, v⟩) (c : Conjunction) :
    (c.read content first).settled = settled ∧
      (c.read content first).beforeOr = beforeOr ∧
      (c.read content first).conjunct = c.holds content := by
  induction c with
  | one f =>
    rw [Conjunction.read, h]
    exact ⟨rfl, rfl, by simp [Unfinished.conjunct, Conjunction.holds]⟩
  | and c joiner f ih =>
    obtain ⟨hsettled, hor, hvalue⟩ := ih
    refine ⟨hsettled, hor, ?_⟩
    rw [Conjunction.holds, ← hvalue]
    rfl

theorem Disjunction.read_afresh (content : List Char) {settled : List Bool}
    {first : Bool → Unfinished} (h : StartsAfresh settled first) (d : Disjunction) :
    (d.read content first).settled = settled ∧
      ((d.read content first).beforeOr.getD false || (d.read content first).conjunct) =
        d.holds content := by
  induction d with
  | one c =>
    obtain ⟨hsettled, hor, hvalue⟩ := c.read_afresh content h
    refine ⟨hsettled, ?_⟩
    simp only [Disjunction.read, Disjunction.holds, hor, hvalue, Option.getD_none, Bool.false_or]
  | or d c ih =>
    obtain ⟨hsettled, hvalue⟩ := ih
    have hor : ∀ v, (d.read content first).or v =
        ⟨settled, some (d.holds content), none, v⟩ := by
      intro v
      rw [Unfinished.or, hsettled, hvalue]
    obtain ⟨hsettled', hor', hvalue'⟩ := c.read_afresh content hor
    refine ⟨hsettled', ?_⟩
    simp only [Disjunction.read, Disjunction.holds, hor', hvalue', Option.getD_some]

theorem Disjunction.eq_of_operators_eq_nil {d : Disjunction} (h : d.operators = []) :
    ∃ f, d = .one (.one f) := by
  cases d with
  | one c =>
    cases c with
    | one f => exact ⟨f, rfl⟩
    | and c joiner f => simp [Disjunction.operators, Conjunction.operators] at h
  | or d c => simp [Disjunction.operators] at h

theorem startsAfresh_readClauses (content : List Char) {settled : List Bool}
    {first : Bool → Unfinished} (h : StartsAfresh settled first) {ds : List Disjunction}
    (hds : ∀ d ∈ ds, d.operators = []) :
    StartsAfresh ((ds.map (Disjunction.holds content)).reverse ++ settled)
      (readClauses content first ds) := by
  induction ds generalizing settled first with
  | nil => simpa using h
  | cons d ds ih =>
    obtain ⟨f, rfl⟩ := Disjunction.eq_of_operators_eq_nil (hds d (by simp))
    have hnext : StartsAfresh (f.holds content :: settled)
        ((Disjunction.one (.one f)).read content first).juxtapose := by
      intro v
      simp only [Disjunction.read, Conjunction.read, h (f.holds content)]
      rfl
    have hrest := ih hnext fun e he => hds e (List.mem_cons_of_mem _ he)
    simpa [Disjunction.holds, Conjunction.holds] using hrest

/-- If only the last clause has operators, they find its operands. -/
theorem value_of_bare {content : List Char} {ds : List Disjunction} {e : Disjunction}
    (h : ∀ d ∈ ds, d.operators = []) :
    (e.read content (readClauses content .start ds)).value =
      (ds ++ [e]).all (Disjunction.holds content) := by
  obtain ⟨hsettled, hvalue⟩ :=
    e.read_afresh content (startsAfresh_readClauses content startsAfresh_start h)
  rw [Unfinished.value, hsettled, hvalue]
  simp [List.all_map]

end Transcripts.Query
