/-
  Transcripts/Proofs/Query/ShiftedOperands.lean
  =============================================
  **Clauses whose operators lose their operands.**

  An operator that waits where the next clause begins is at risk.  Two kinds of
  operators do lose an operand, and words of a known value show it.

  * An `OR` before the last clause keeps waiting to the end.  Let every operand
    hold but those of the last clause: the `OR` then lends its left operand, which
    holds, to the last clause, and nothing is refused.
  * An `AND` before the last clause meets an `OR` in it.  Let every operand hold but
    the last one before the last clause: the `AND` draws it into the first
    alternative of the last clause, and the second alternative makes up for it.

  With the two positive results this settles when adjacent clauses are a
  conjunction (`compile_adjacent_clauses`).
-/
import Transcripts.Proofs.Query.AdjacentClauses

namespace Transcripts.Query

open Transcripts.Text

/-! ### Clauses of the same form with operands of a known value -/

/-- A conjunction of the same form; its operands have the value `inner`, the last
    one the value `final`. -/
def Conjunction.sample (inner final : Bool) : Conjunction → Conjunction
  | .one _ => .one (.plain (sampleWord final))
  | .and c joiner _ => .and (c.sample inner inner) joiner (.plain (sampleWord final))

def Disjunction.sample (inner final : Bool) : Disjunction → Disjunction
  | .one c => .one (c.sample inner final)
  | .or d c => .or (d.sample inner inner) (c.sample inner final)

theorem Conjunction.operators_sample (inner final : Bool) (c : Conjunction) :
    (c.sample inner final).operators = c.operators := by
  induction c generalizing final with
  | one f => rfl
  | and c joiner f ih => simp only [Conjunction.sample, Conjunction.operators, ih]

theorem Disjunction.operators_sample (inner final : Bool) (d : Disjunction) :
    (d.sample inner final).operators = d.operators := by
  induction d generalizing final with
  | one c => exact c.operators_sample inner final
  | or d c ih =>
    simp only [Disjunction.sample, Disjunction.operators, ih, c.operators_sample]

theorem Conjunction.negationFree_sample (inner final : Bool) (c : Conjunction) :
    (c.sample inner final).NegationFree := by
  induction c generalizing final with
  | one f => trivial
  | and c joiner f ih => exact ⟨ih inner, trivial⟩

theorem Disjunction.negationFree_sample (inner final : Bool) (d : Disjunction) :
    (d.sample inner final).NegationFree := by
  induction d generalizing final with
  | one c => exact c.negationFree_sample inner final
  | or d c ih => exact ⟨ih inner, c.negationFree_sample inner final⟩

theorem Conjunction.canonical_sample (inner final : Bool) (c : Conjunction) :
    ∀ t ∈ (c.sample inner final).tokens, t.Canonical := by
  induction c generalizing final with
  | one f => exact canonical_sampleWord final
  | and c joiner f ih =>
    exact canonical_binary (ih inner) joiner.canonical_operator (canonical_sampleWord final)

theorem Disjunction.canonical_sample (inner final : Bool) (d : Disjunction) :
    ∀ t ∈ (d.sample inner final).tokens, t.Canonical := by
  induction d generalizing final with
  | one c => exact c.canonical_sample inner final
  | or d c ih => exact canonical_binary (ih inner) trivial (c.canonical_sample inner final)

theorem Conjunction.holds_sample (b : Bool) (c : Conjunction) :
    (c.sample b b).holds sampleContent = b := by
  induction c with
  | one f => exact holds_sampleWord b
  | and c joiner f ih =>
    simp only [Conjunction.sample, Conjunction.holds, Factor.holds, ih, holds_sampleWord,
      Bool.and_self]

theorem Disjunction.holds_sample (b : Bool) (d : Disjunction) :
    (d.sample b b).holds sampleContent = b := by
  induction d with
  | one c => exact c.holds_sample b
  | or d c ih =>
    simp only [Disjunction.sample, Disjunction.holds, ih, c.holds_sample, Bool.or_self]

/-- A conjunction with a false operand at its end is false. -/
theorem Conjunction.holds_sample_false (inner : Bool) (c : Conjunction) :
    (c.sample inner false).holds sampleContent = false := by
  cases c with
  | one f => exact holds_sampleWord false
  | and c joiner f =>
    simp only [Conjunction.sample, Conjunction.holds, Factor.holds, holds_sampleWord, Bool.and_false]

/-! ### Accounts in which everything but the last operand holds -/

/-- Every value but the one read last holds. -/
structure Unfinished.TrueBefore (u : Unfinished) : Prop where
  settled : u.settled.all id = true
  beforeOr : u.beforeOr.getD true = true
  beforeAnd : (u.beforeAnd.map Prod.fst).getD true = true

/-- Whatever is read next, everything before it holds. -/
def Steady (first : Bool → Unfinished) : Prop := ∀ v, (first v).TrueBefore ∧ (first v).last = v

theorem steady_start : Steady .start := fun _ => ⟨⟨rfl, rfl, rfl⟩, rfl⟩

theorem Unfinished.TrueBefore.conjunct {u : Unfinished} (h : u.TrueBefore) (hlast : u.last = true) :
    u.conjunct = true := by
  rw [Unfinished.conjunct, h.beforeAnd, hlast]
  rfl

theorem Unfinished.TrueBefore.steady_or {u : Unfinished} (h : u.TrueBefore)
    (hlast : u.last = true) : Steady u.or := by
  intro v
  refine ⟨⟨h.settled, ?_, rfl⟩, rfl⟩
  simp [Unfinished.or, h.conjunct hlast]

theorem Unfinished.TrueBefore.steady_juxtapose {u : Unfinished} (h : u.TrueBefore)
    (hlast : u.last = true) : Steady u.juxtapose := by
  obtain ⟨hsettled, hor, hand⟩ := h
  intro v
  rcases u with ⟨settled, _ | l, _ | ⟨m, joiner⟩, last⟩
  · exact ⟨⟨by simp_all [Unfinished.juxtapose], rfl, rfl⟩, rfl⟩
  · exact ⟨⟨by simp_all [Unfinished.juxtapose], rfl, hlast⟩, rfl⟩
  · exact ⟨⟨by simp_all [Unfinished.juxtapose], hlast, rfl⟩, rfl⟩
  · exact ⟨⟨by simp_all [Unfinished.juxtapose], hand, hlast⟩, rfl⟩

theorem Conjunction.read_steady {first : Bool → Unfinished} (h : Steady first) (final : Bool)
    (c : Conjunction) : ((c.sample true final).read sampleContent first).TrueBefore ∧
      ((c.sample true final).read sampleContent first).last = final := by
  induction c generalizing final with
  | one f =>
    have hword := holds_sampleWord final
    simp only [Conjunction.sample, Conjunction.read, Factor.holds, hword]
    exact h final
  | and c joiner f ih =>
    obtain ⟨hbefore, hlast⟩ := ih true
    refine ⟨⟨hbefore.settled, hbefore.beforeOr, ?_⟩, holds_sampleWord final⟩
    exact hbefore.conjunct hlast

theorem Disjunction.read_steady {first : Bool → Unfinished} (h : Steady first) (final : Bool)
    (d : Disjunction) : ((d.sample true final).read sampleContent first).TrueBefore ∧
      ((d.sample true final).read sampleContent first).last = final := by
  induction d generalizing final with
  | one c => exact c.read_steady h final
  | or d c ih =>
    obtain ⟨hbefore, hlast⟩ := ih true
    exact c.read_steady (hbefore.steady_or hlast) final

/-- Clauses of operands that hold leave an account in which everything holds. -/
theorem steady_readClauses {first : Bool → Unfinished} (h : Steady first) (ds : List Disjunction) :
    Steady (readClauses sampleContent first (ds.map (Disjunction.sample true true))) := by
  induction ds generalizing first with
  | nil => exact h
  | cons d ds ih =>
    obtain ⟨hbefore, hlast⟩ := d.read_steady h true
    exact ih (hbefore.steady_juxtapose hlast)

/-! ### Which operators wait -/

theorem Unfinished.isSome_beforeOr_juxtapose (u : Unfinished) (v : Bool) :
    (u.juxtapose v).beforeOr.isSome = u.beforeOr.isSome := by
  rcases u with ⟨settled, _ | l, _ | ⟨m, joiner⟩, last⟩ <;> rfl

theorem Unfinished.isSome_beforeAnd_juxtapose (u : Unfinished) (v : Bool) :
    (u.juxtapose v).beforeAnd.isSome = u.beforeAnd.isSome := by
  rcases u with ⟨settled, _ | l, _ | ⟨m, joiner⟩, last⟩ <;> rfl

/-- A conjunction changes neither what is settled nor what stands before an `OR`. -/
theorem Conjunction.read_frame (content : List Char) {first : Bool → Unfinished}
    {P : List Bool → Option Bool → Prop} (h : ∀ v, P (first v).settled (first v).beforeOr)
    (c : Conjunction) : P (c.read content first).settled (c.read content first).beforeOr := by
  induction c with
  | one f => exact h (f.holds content)
  | and c joiner f ih => exact ih

/-- An `OR` that is read waits, and so does one that waited before. -/
theorem Disjunction.isSome_beforeOr_read {content : List Char} {first : Bool → Unfinished}
    {d : Disjunction} (h : (∀ v, (first v).beforeOr.isSome) ∨ Operator.orWord ∈ d.operators) :
    (d.read content first).beforeOr.isSome := by
  cases d with
  | one c =>
    rcases h with h | h
    · exact c.read_frame content (P := fun _ beforeOr => beforeOr.isSome) h
    · exact absurd h c.orWord_not_mem_operators
  | or d c => exact c.read_frame content (P := fun _ beforeOr => beforeOr.isSome) fun _ => rfl

theorem isSome_beforeOr_readClauses {content : List Char} {first : Bool → Unfinished}
    {ds : List Disjunction}
    (h : (∀ v, (first v).beforeOr.isSome) ∨ ∃ d ∈ ds, Operator.orWord ∈ d.operators) :
    ∀ v, (readClauses content first ds v).beforeOr.isSome := by
  induction ds generalizing first with
  | nil => exact h.resolve_right (by simp)
  | cons d ds ih =>
    refine ih ?_
    simp only [Unfinished.isSome_beforeOr_juxtapose]
    rcases h with h | ⟨e, he, hor⟩
    · exact .inl fun _ => Disjunction.isSome_beforeOr_read (.inl h)
    · rcases List.mem_cons.mp he with rfl | he
      · exact .inl fun _ => Disjunction.isSome_beforeOr_read (.inr hor)
      · exact .inr ⟨e, he, hor⟩

/-- An `AND` that is read waits, and so does one that waited before. -/
theorem Conjunction.isSome_beforeAnd_read {content : List Char} {first : Bool → Unfinished}
    {c : Conjunction} (h : (∀ v, (first v).beforeAnd.isSome) ∨ c.operators ≠ []) :
    (c.read content first).beforeAnd.isSome := by
  cases c with
  | one f => exact h.resolve_right (fun hne => hne rfl) _
  | and c joiner f => rfl

theorem isSome_beforeAnd_readClauses {content : List Char} {first : Bool → Unfinished}
    {ds : List Disjunction} (hds : ∀ d ∈ ds, Operator.orWord ∉ d.operators)
    (h : (∀ v, (first v).beforeAnd.isSome) ∨ ∃ d ∈ ds, d.operators ≠ []) :
    ∀ v, (readClauses content first ds v).beforeAnd.isSome := by
  induction ds generalizing first with
  | nil => exact h.resolve_right (by simp)
  | cons d ds ih =>
    obtain ⟨c, rfl⟩ := Disjunction.eq_one_of_no_or (hds d (by simp))
    refine ih (fun e he => hds e (List.mem_cons_of_mem _ he)) ?_
    simp only [Unfinished.isSome_beforeAnd_juxtapose]
    rcases h with h | ⟨e, he, hne⟩
    · exact .inl fun _ => Conjunction.isSome_beforeAnd_read (.inl h)
    · rcases List.mem_cons.mp he with rfl | he
      · exact .inl fun _ => Conjunction.isSome_beforeAnd_read (.inr hne)
      · exact .inr ⟨e, he, hne⟩

/-! ### An `OR` before the last clause -/

/-- Once an operand that holds stands before an `OR`, it stays there. -/
theorem Disjunction.read_of_beforeOr (content : List Char) {first : Bool → Unfinished}
    (h : ∀ v, (first v).settled.all id = true ∧ (first v).beforeOr = some true)
    (d : Disjunction) : (d.read content first).settled.all id = true ∧
      (d.read content first).beforeOr = some true := by
  induction d with
  | one c =>
    exact c.read_frame content
      (P := fun settled beforeOr => settled.all id = true ∧ beforeOr = some true) h
  | or d c ih =>
    obtain ⟨hsettled, hor⟩ := ih
    have hnext : ∀ v, ((d.read content first).or v).settled.all id = true ∧
        ((d.read content first).or v).beforeOr = some true := by
      intro v
      rw [Unfinished.or, hor]
      exact ⟨hsettled, rfl⟩
    exact c.read_frame content
      (P := fun settled beforeOr => settled.all id = true ∧ beforeOr = some true) hnext

/-- A waiting `OR` whose left operand holds lets the last clause pass unread. -/
theorem value_of_or_before (content : List Char) {first : Bool → Unfinished} (hsteady : Steady first)
    (hor : ∀ v, (first v).beforeOr.isSome) (e : Disjunction) :
    (e.read content first).value = true := by
  have hfirst : ∀ v, (first v).settled.all id = true ∧ (first v).beforeOr = some true := by
    intro v
    obtain ⟨hbefore, _⟩ := hsteady v
    obtain ⟨l, hl⟩ := Option.isSome_iff_exists.mp (hor v)
    have hl' := hbefore.beforeOr
    rw [hl, Option.getD_some] at hl'
    exact ⟨hbefore.settled, hl.trans (congrArg some hl')⟩
  obtain ⟨hsettled, hor'⟩ := e.read_of_beforeOr content hfirst
  simp [Unfinished.value, hsettled, hor']

/-! ### An `AND` before a last clause with `OR` -/

theorem Conjunction.conjunct_read_sample {first : Bool → Unfinished}
    (h : (first true).conjunct = true) (c : Conjunction) :
    ((c.sample true true).read sampleContent first).conjunct = true := by
  induction c with
  | one f =>
    have hword := holds_sampleWord true
    simp only [Conjunction.sample, Conjunction.read, Factor.holds, hword]
    exact h
  | and c joiner f ih =>
    have hword := holds_sampleWord true
    simp only [Conjunction.sample, Conjunction.read, Unfinished.and, Unfinished.conjunct] at ih ⊢
    simp [ih, Factor.holds, hword]

theorem Disjunction.settled_read (content : List Char) {first : Bool → Unfinished}
    (h : ∀ v, (first v).settled.all id = true) (d : Disjunction) :
    (d.read content first).settled.all id = true := by
  induction d with
  | one c => exact c.read_frame content (P := fun settled _ => settled.all id = true) h
  | or d c ih =>
    have hnext : ∀ v, ((d.read content first).or v).settled.all id = true := fun _ => ih
    exact c.read_frame content (P := fun settled _ => settled.all id = true) hnext

/-- The alternative behind the last `OR` makes up for whatever stands before it. -/
theorem Disjunction.value_of_or_mem {first : Bool → Unfinished}
    (h : ∀ v, (first v).settled.all id = true) {d : Disjunction}
    (hor : Operator.orWord ∈ d.operators) :
    ((d.sample true true).read sampleContent first).value = true := by
  have hsettled := (d.sample true true).settled_read sampleContent h
  cases d with
  | one c => exact absurd hor c.orWord_not_mem_operators
  | or d c =>
    have hfirst : (((d.sample true true).read sampleContent first).or true).conjunct = true := rfl
    have hconjunct := c.conjunct_read_sample hfirst
    simp only [Disjunction.sample, Disjunction.read] at hsettled ⊢
    simp [Unfinished.value, hsettled, hconjunct]

/-- An `AND` that waits draws the false operand before the last clause into it. -/
theorem settled_juxtapose_of_and {first : Bool → Unfinished} (hsteady : Steady first)
    {c : Conjunction} (hor : ∀ v, (first v).beforeOr = none)
    (hand : (∀ v, (first v).beforeAnd.isSome) ∨ c.operators ≠ []) (v : Bool) :
    ((((c.sample true false).read sampleContent first).juxtapose v).settled.all id) = true := by
  obtain ⟨hbefore, _⟩ := c.read_steady hsteady false
  have hor' := (c.sample true false).read_frame sampleContent
    (P := fun _ beforeOr => beforeOr = none) hor
  have hand' : ((c.sample true false).read sampleContent first).beforeAnd.isSome :=
    Conjunction.isSome_beforeAnd_read (by rwa [c.operators_sample])
  obtain ⟨hsettled, _, hm⟩ := hbefore
  rcases hu : (c.sample true false).read sampleContent first with
    ⟨settled, _ | l, _ | ⟨m, joiner⟩, last⟩ <;> rw [hu] at hsettled hor' hand' hm
  · cases hand'
  · simp only [Option.map_some, Option.getD_some] at hm
    simp [Unfinished.juxtapose, hm] at hsettled ⊢
    exact hsettled
  · cases hor'
  · cases hor'

/-! ### When adjacent clauses are a conjunction -/

/-- By the operators of each clause outside parentheses: there is no `OR`, or only
    the last clause has operators. -/
def OperatorsStay (clauses : List (List Operator)) : Prop :=
  (∀ os ∈ clauses, Operator.orWord ∉ os) ∨ ∀ os ∈ clauses.dropLast, os = []

/-- Whether a clause can be typed and has no negation. -/
def Disjunction.Typeable (d : Disjunction) : Prop :=
  d.NegationFree ∧ ∀ t ∈ d.tokens, t.Canonical

theorem Disjunction.typeable_sample (inner final : Bool) (d : Disjunction) :
    (d.sample inner final).Typeable :=
  ⟨d.negationFree_sample inner final, d.canonical_sample inner final⟩

theorem typeable_append {ds : List Disjunction} {e : Disjunction} (hds : ∀ d ∈ ds, d.Typeable)
    (he : e.Typeable) : ∀ d ∈ ds ++ [e], d.Typeable := by
  intro d hd
  rcases List.mem_append.mp hd with hd | hd
  · exact hds d hd
  · rwa [List.mem_singleton.mp hd]

theorem typeable_samples (ds : List Disjunction) :
    ∀ d ∈ ds.map (Disjunction.sample true true), d.Typeable := by
  intro d hd
  obtain ⟨d, _, rfl⟩ := List.mem_map.mp hd
  exact d.typeable_sample true true

/-- Whether negation-free clauses with these operators are a conjunction, whatever
    their operands are. -/
def AskForAll (clauses : List (List Operator)) : Prop :=
  ∀ es : List Disjunction, (∀ e ∈ es, e.NegationFree) →
    es.map Disjunction.operators = clauses →
    ∀ (query : String) (content : List Char), tokens query = es.flatMap Disjunction.tokens →
      (compile query).findsFolded content = es.all (Disjunction.holds content)

/-- For every form of adjacent clauses there is a query, so what holds of all
    queries of a form can be put to the test on the samples. -/
theorem value_of_typeable {clauses : List (List Operator)} (hall : AskForAll clauses)
    {ds : List Disjunction} {e : Disjunction} (htype : ∀ d ∈ ds ++ [e], d.Typeable)
    (hform : (ds ++ [e]).map Disjunction.operators = clauses) (content : List Char) :
    (e.read content (readClauses content .start ds)).value =
      (ds ++ [e]).all (Disjunction.holds content) := by
  have hcanonical : ∀ t ∈ (ds ++ [e]).flatMap Disjunction.tokens, t.Canonical := by
    intro t ht
    obtain ⟨d, hd, ht⟩ := List.mem_flatMap.mp ht
    exact (htype d hd).2 t ht
  have hfree : ∀ d ∈ ds ++ [e], d.NegationFree := fun d hd => (htype d hd).1
  have hquery := tokens_spelling hcanonical
  rw [← compile_clauses hfree hquery content]
  exact hall _ hfree hform _ content hquery

/-- An `OR` before the last clause: a false last clause is not refused. -/
theorem sample_of_or_before {ds : List Disjunction} (e : Disjunction)
    (hor : ∃ d ∈ ds, Operator.orWord ∈ d.operators) :
    ((e.sample false false).read sampleContent
      (readClauses sampleContent .start (ds.map (Disjunction.sample true true)))).value ≠
    (ds.map (Disjunction.sample true true) ++ [e.sample false false]).all
      (Disjunction.holds sampleContent) := by
  have hwaits : ∃ d ∈ ds.map (Disjunction.sample true true), Operator.orWord ∈ d.operators := by
    obtain ⟨d, hd, hmem⟩ := hor
    exact ⟨_, List.mem_map_of_mem hd, by rwa [d.operators_sample]⟩
  have hvalue := value_of_or_before sampleContent (steady_readClauses steady_start ds)
    (isSome_beforeOr_readClauses (.inr hwaits)) (e.sample false false)
  have hlast := e.holds_sample false
  simp [hvalue, hlast]

/-- An `AND` before a last clause with `OR`: a false operand is not refused. -/
theorem sample_of_and_before {ds : List Disjunction} {d e : Disjunction}
    (hno : ∀ d' ∈ ds ++ [d], Operator.orWord ∉ d'.operators)
    (hand : ∃ d' ∈ ds ++ [d], d'.operators ≠ []) (hor : Operator.orWord ∈ e.operators) :
    ((e.sample true true).read sampleContent (readClauses sampleContent .start
      (ds.map (Disjunction.sample true true) ++ [d.sample true false]))).value ≠
    (ds.map (Disjunction.sample true true) ++ [d.sample true false] ++ [e.sample true true]).all
      (Disjunction.holds sampleContent) := by
  have hsteady := steady_readClauses steady_start ds
  obtain ⟨c, rfl⟩ := Disjunction.eq_one_of_no_or (hno d (by simp))
  have hno' : ∀ d' ∈ ds.map (Disjunction.sample true true), Operator.orWord ∉ d'.operators := by
    intro d' hd'
    obtain ⟨d, hd, rfl⟩ := List.mem_map.mp hd'
    rw [d.operators_sample]
    exact hno d (List.mem_append_left _ hd)
  have hwaits : (∀ v, (readClauses sampleContent .start
      (ds.map (Disjunction.sample true true)) v).beforeAnd.isSome) ∨ c.operators ≠ [] := by
    obtain ⟨d', hd', hne⟩ := hand
    rcases List.mem_append.mp hd' with hd' | hd'
    · refine .inl (isSome_beforeAnd_readClauses hno' (.inr ⟨_, List.mem_map_of_mem hd', ?_⟩))
      rwa [d'.operators_sample]
    · rw [List.mem_singleton.mp hd'] at hne
      exact .inr hne
  have hsettled := settled_juxtapose_of_and hsteady (c := c)
    (fun v => (conjoins_readClauses sampleContent conjoins_start hno' v).1) hwaits
  have hvalue : ((e.sample true true).read sampleContent (readClauses sampleContent .start
      (ds.map (Disjunction.sample true true) ++ [Disjunction.sample true false (.one c)]))).value =
        true := by
    rw [readClauses_append]
    exact Disjunction.value_of_or_mem hsettled hor
  have hfalse : (Disjunction.sample true false (.one c)).holds sampleContent = false :=
    c.holds_sample_false true
  intro h
  rw [hvalue] at h
  simp [hfalse] at h

theorem no_or_before {init : List Disjunction} {e : Disjunction}
    (hall : AskForAll ((init ++ [e]).map Disjunction.operators)) :
    ∀ d ∈ init, Operator.orWord ∉ d.operators := by
  intro d hd hor
  have htype := typeable_append (typeable_samples init) (e.typeable_sample false false)
  have hform : (init.map (Disjunction.sample true true) ++ [e.sample false false]).map
      Disjunction.operators = (init ++ [e]).map Disjunction.operators := by
    simp [Function.comp_def, Disjunction.operators_sample]
  exact sample_of_or_before e ⟨d, hd, hor⟩ (value_of_typeable hall htype hform sampleContent)

theorem no_and_before_or {init : List Disjunction} {e : Disjunction}
    (hall : AskForAll ((init ++ [e]).map Disjunction.operators))
    (hor : Operator.orWord ∈ e.operators) : ∀ d ∈ init, d.operators = [] := by
  intro d hd
  apply Classical.byContradiction
  intro hne
  obtain ⟨pre, last, rfl⟩ : ∃ pre last, init = pre ++ [last] :=
    ⟨_, _, (List.dropLast_concat_getLast (List.ne_nil_of_mem hd)).symm⟩
  have htype := typeable_append
    (typeable_append (typeable_samples pre) (last.typeable_sample true false))
    (e.typeable_sample true true)
  have hform : (pre.map (Disjunction.sample true true) ++ [last.sample true false] ++
      [e.sample true true]).map Disjunction.operators =
        (pre ++ [last] ++ [e]).map Disjunction.operators := by
    simp [Function.comp_def, Disjunction.operators_sample]
  exact sample_of_and_before (no_or_before hall) ⟨d, hd, hne⟩ hor
    (value_of_typeable hall htype hform sampleContent)

/-- **When adjacent clauses are a conjunction.**  A query of negation-free clauses
    without an operator between them asks for all of its clauses, whatever their
    operands are, exactly if no clause has an `OR` outside parentheses or only the
    last clause has operators there. -/
theorem compile_adjacent_clauses (ds : List Disjunction) (hds : ds ≠ []) :
    (∀ es : List Disjunction, (∀ e ∈ es, e.NegationFree) →
      es.map Disjunction.operators = ds.map Disjunction.operators →
      ∀ (query : String) (content : List Char), tokens query = es.flatMap Disjunction.tokens →
        (compile query).findsFolded content = es.all (Disjunction.holds content)) ↔
      OperatorsStay (ds.map Disjunction.operators) := by
  constructor
  · intro hall
    obtain ⟨init, e, rfl⟩ : ∃ init e, ds = init ++ [e] :=
      ⟨_, _, (List.dropLast_concat_getLast hds).symm⟩
    by_cases hlast : Operator.orWord ∈ e.operators
    · right
      intro os hos
      rw [List.map_append, List.map_singleton, List.dropLast_concat] at hos
      obtain ⟨d, hd, rfl⟩ := List.mem_map.mp hos
      exact no_and_before_or hall hlast d hd
    · left
      intro os hos
      obtain ⟨d, hd, rfl⟩ := List.mem_map.mp hos
      rcases List.mem_append.mp hd with hd | hd
      · exact no_or_before hall d hd
      · rwa [List.mem_singleton.mp hd]
  · intro hstay es hfree hform query content hquery
    have hes : es ≠ [] := by
      rintro rfl
      exact hds (List.map_eq_nil_iff.mp hform.symm)
    obtain ⟨init, e, rfl⟩ : ∃ init e, es = init ++ [e] :=
      ⟨_, _, (List.dropLast_concat_getLast hes).symm⟩
    rw [← hform] at hstay
    rw [compile_clauses hfree hquery]
    rcases hstay with hno | hbare
    · exact value_of_no_or fun d hd => hno _ (List.mem_map_of_mem hd)
    · refine value_of_bare fun d hd => hbare _ ?_
      rw [List.map_append, List.map_singleton, List.dropLast_concat]
      exact List.mem_map_of_mem hd

/-- The clauses `gato OR cao` and `peixe`. -/
def gatoOrCaoPeixe : List Disjunction :=
  [.or (.one (.one (.plain (.word "gato")))) (.one (.plain (.word "cao"))),
    .one (.one (.plain (.word "peixe")))]

/-- A content that both clauses accept; side by side they require `gato`. -/
theorem or_before_clause_requires_left :
    tokens "gato OR cao peixe" = gatoOrCaoPeixe.flatMap Disjunction.tokens ∧
      gatoOrCaoPeixe.all (Disjunction.holds (fold "cao peixe".toList)) = true ∧
      (compile "gato OR cao peixe").finds "cao peixe" = false := by
  decide +kernel

/-- Clauses of the form of `gato OR cao peixe` are no conjunction. -/
theorem compile_gato_or_cao_peixe :
    gatoOrCaoPeixe ≠ [] ∧
      ¬ ∀ es : List Disjunction, (∀ e ∈ es, e.NegationFree) →
        es.map Disjunction.operators = [[.orWord], []] →
        ∀ (query : String) (content : List Char), tokens query = es.flatMap Disjunction.tokens →
          (compile query).findsFolded content = es.all (Disjunction.holds content) := by
  have hne : gatoOrCaoPeixe ≠ [] := List.cons_ne_nil _ _
  refine ⟨hne, fun h => ?_⟩
  rcases (compile_adjacent_clauses gatoOrCaoPeixe hne).mp h with hno | hbare
  · exact hno [.orWord] List.mem_cons_self List.mem_cons_self
  · exact absurd (hbare [.orWord] List.mem_cons_self) (List.cons_ne_nil _ _)

end Transcripts.Query
