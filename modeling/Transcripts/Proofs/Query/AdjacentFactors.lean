/-
  Transcripts/Proofs/Query/AdjacentFactors.lean
  =============================================
  **What a negation reaches among factors that stand side by side.**

  Factors without an operator between them are meant as a conjunction.  A
  negation is an operator like any other, though: it waits on the stack until
  something releases it, and a plain operand releases nothing.  So a negation
  passes over the operand it is written in front of and takes the last operand
  before the next negation or the end: `-maria joao` asks for `maria` and
  refuses `joao`.

  `carryNegations` moves every negation to where it takes effect, and the value of
  the factors in their new form is the value of the query.  Both forms agree,
  whatever the operands are, exactly if no negated factor stands directly before
  a plain one.
-/
import Transcripts.Proofs.Query.Reordering
import Transcripts.Proofs.Query.Spelling

namespace Transcripts.Query

open Transcripts.Text

/-! ### Where negations take effect -/

def Factor.negator? : Factor → Option Negator
  | .plain _ => none
  | .negated negator _ => some negator

def Factor.operand : Factor → Operand
  | .plain p => p
  | .negated _ p => p

def Factor.isNegated (f : Factor) : Bool := f.negator?.isSome

/-- An operand with a negation in front of it, if there is one. -/
def Factor.ofNegator? : Option Negator → Operand → Factor
  | none, p => .plain p
  | some negator, p => .negated negator p

/-- Whether the next factor lets a negation that waits pass on. -/
def beginsPlain : List Factor → Bool
  | .plain _ :: _ => true
  | _ => false

/-- Factors with each negation at the operand that it takes, given the negation
    that waits in front of them. -/
def carryNegations (waiting : Option Negator) : List Factor → List Factor
  | [] => []
  | f :: fs =>
    let waiting := f.negator? <|> waiting
    if beginsPlain fs then .plain f.operand :: carryNegations waiting fs
    else .ofNegator? waiting f.operand :: carryNegations none fs

theorem carryNegations_cons_of_plain {waiting : Option Negator} {f : Factor} {fs : List Factor}
    (h : beginsPlain fs = true) :
    carryNegations waiting (f :: fs) =
      .plain f.operand :: carryNegations (f.negator? <|> waiting) fs := by
  simp only [carryNegations, h, if_true]

theorem carryNegations_cons_of_not_plain {waiting : Option Negator} {f : Factor}
    {fs : List Factor} (h : beginsPlain fs = false) :
    carryNegations waiting (f :: fs) =
      .ofNegator? (f.negator? <|> waiting) f.operand :: carryNegations none fs := by
  simp only [carryNegations, h, Bool.false_eq_true, if_false]

/-! ### The evaluation order of adjacent factors -/

/-- What is not a plain factor releases a negation that waits. -/
theorem releases_of_not_plain {fs : List Factor} (h : beginsPlain fs = false) :
    Releases 3 (fs.flatMap Factor.tokens) := by
  cases fs with
  | nil => trivial
  | cons f fs =>
    cases f with
    | plain p => simp [beginsPlain] at h
    | negated negator p => exact releases_negator negator _

/-- A negation that waits comes out behind the operand that it takes. -/
theorem reorderFrom_operand_of_releases (waiting : Option Negator) (p : Operand)
    {rest : List Token} (h : Releases 3 rest) :
    reorderFrom (waiting.map Negator.operator).toList (p.tokens ++ rest) =
      (Factor.ofNegator? waiting p).inOrder ++ reorderFrom [] rest := by
  rw [p.reorderFrom_tokens]
  cases waiting with
  | none => rfl
  | some negator =>
    simp only [Option.map_some, Option.toList_some]
    rw [reorderFrom_cons (by simp) (by decide) h]
    simp only [Factor.ofNegator?, Factor.inOrder, List.append_assoc, List.cons_append,
      List.nil_append]

/-- Factors are put into the evaluation order of their carried form.  The
    negation that waits, if there is one, was let pass by the factor that comes
    next. -/
theorem reorderFrom_factors (fs : List Factor) (waiting : Option Negator)
    (hwait : waiting.isSome → beginsPlain fs = true) :
    reorderFrom (waiting.map Negator.operator).toList (fs.flatMap Factor.tokens) =
      (carryNegations waiting fs).flatMap Factor.inOrder := by
  induction fs generalizing waiting with
  | nil =>
    cases waiting with
    | none => rfl
    | some _ => exact absurd (hwait rfl) (by decide)
  | cons f fs ih =>
    have hread : reorderFrom (waiting.map Negator.operator).toList ((f :: fs).flatMap Factor.tokens) =
        reorderFrom ((f.negator? <|> waiting).map Negator.operator).toList
          (f.operand.tokens ++ fs.flatMap Factor.tokens) := by
      cases f with
      | plain p => rfl
      | negated negator p =>
        -- a negation never waits in front of another one
        cases waiting with
        | some _ => exact absurd (hwait rfl) (by simp [beginsPlain])
        | none =>
          have hwait : HeldBack negator.operator.precedence [] := trivial
          exact reorderFrom_op (by simp) hwait _
    rw [hread]
    cases hplain : beginsPlain fs with
    | true =>
      rw [f.operand.reorderFrom_tokens, ih _ fun _ => hplain, carryNegations_cons_of_plain hplain]
      rfl
    | false =>
      have hrest : reorderFrom [] (fs.flatMap Factor.tokens) =
          (carryNegations none fs).flatMap Factor.inOrder :=
        ih none (by simp)
      rw [reorderFrom_operand_of_releases _ _ (releases_of_not_plain hplain), hrest,
        carryNegations_cons_of_not_plain hplain]
      rfl

theorem run_factors (content : List Char) (fs : List Factor) (stack : List Bool) :
    run content stack (fs.flatMap Factor.inOrder) =
      (fs.map (Factor.holds content)).reverse ++ stack := by
  induction fs generalizing stack with
  | nil => rfl
  | cons f fs ih =>
    rw [List.flatMap_cons, run_append, f.run_inOrder, ih]
    simp

theorem carryNegations_ne_nil {waiting : Option Negator} {fs : List Factor} (h : fs ≠ []) :
    carryNegations waiting fs ≠ [] := by
  cases fs with
  | nil => exact absurd rfl h
  | cons f fs => rw [carryNegations]; split <;> exact List.cons_ne_nil _ _

/-- A stack with something on it settles on the conjunction of its values. -/
theorem settles_reverse {bs : List Bool} (h : bs ≠ []) : settles bs.reverse = bs.all id := by
  cases bs with
  | nil => exact absurd rfl h
  | cons b bs => simp [settles, Bool.and_comm]

theorem Factor.tokens_ne_nil (f : Factor) : f.tokens ≠ [] := by
  cases f with
  | plain p => cases p <;> simp [Factor.tokens, Operand.tokens]
  | negated negator p => simp [Factor.tokens]

theorem flatMap_tokens_ne_nil {fs : List Factor} (h : fs ≠ []) :
    fs.flatMap Factor.tokens ≠ [] := by
  cases fs with
  | nil => exact absurd rfl h
  | cons f fs => simp [f.tokens_ne_nil]

/-- The value of adjacent factors is the conjunction of their carried form. -/
theorem compile_factors {fs : List Factor} (hfs : fs ≠ []) {query : String}
    (hquery : tokens query = fs.flatMap Factor.tokens) (content : List Char) :
    (compile query).findsFolded content =
      (carryNegations none fs).all (Factor.holds content) := by
  have horder : reorder (fs.flatMap Factor.tokens) =
      (carryNegations none fs).flatMap Factor.inOrder :=
    reorderFrom_factors fs none (by simp)
  have hne : (carryNegations none fs).map (Factor.holds content) ≠ [] := by
    simpa using carryNegations_ne_nil hfs
  rw [findsFolded_compile hquery (flatMap_tokens_ne_nil hfs), horder, run_factors,
    List.append_nil, settles_reverse hne, List.all_map]
  rfl

/-! ### When negations stay where they are written -/

/-- No negated factor stands directly before a plain one. -/
def NegationsStay : List Factor → Prop
  | [] => True
  | f :: fs => (f.isNegated = true → beginsPlain fs = false) ∧ NegationsStay fs

/-- Whether negations stay is a matter of where negations are written. -/
theorem negationsStay_congr {fs gs : List Factor}
    (h : gs.map Factor.negator? = fs.map Factor.negator?) :
    beginsPlain gs = beginsPlain fs ∧ (NegationsStay gs ↔ NegationsStay fs) := by
  induction fs generalizing gs with
  | nil =>
    rw [List.map_nil, List.map_eq_nil_iff] at h
    subst h
    exact ⟨rfl, Iff.rfl⟩
  | cons f fs ih =>
    cases gs with
    | nil => simp at h
    | cons g gs =>
      simp only [List.map_cons, List.cons.injEq] at h
      obtain ⟨hhead, htail⟩ := h
      obtain ⟨hbegins, hstay⟩ := ih htail
      have hnegated : g.isNegated = f.isNegated := by rw [Factor.isNegated, hhead, Factor.isNegated]
      refine ⟨?_, ?_⟩
      · cases f <;> cases g <;> simp_all [Factor.negator?, beginsPlain]
      · simp only [NegationsStay, hnegated, hbegins, hstay]

theorem Factor.ofNegator?_negator? (f : Factor) : Factor.ofNegator? f.negator? f.operand = f := by
  cases f <;> rfl

/-- Negations that stay are carried nowhere. -/
theorem carryNegations_of_stay {fs : List Factor} (h : NegationsStay fs) :
    carryNegations none fs = fs := by
  induction fs with
  | nil => rfl
  | cons f fs ih =>
    obtain ⟨hnext, hrest⟩ := h
    cases hplain : beginsPlain fs with
    | false =>
      have hnone : (f.negator? <|> none) = f.negator? := by cases f.negator? <;> rfl
      rw [carryNegations_cons_of_not_plain hplain, hnone, f.ofNegator?_negator?, ih hrest]
    | true =>
      cases f with
      | negated negator p => exact absurd (hnext rfl) (by simp [hplain])
      | plain p =>
        rw [carryNegations_cons_of_plain hplain]
        exact congrArg _ (ih hrest)

/-- Operands that make every factor hold betray a negation that does not stay. -/
theorem stay_of_carryNegations_holds {content : List Char} {fs : List Factor}
    (hholds : ∀ f ∈ fs, f.holds content = true)
    (hcarried : (carryNegations none fs).all (Factor.holds content) = true) :
    NegationsStay fs := by
  induction fs with
  | nil => trivial
  | cons f fs ih =>
    have hrest : ∀ g ∈ fs, g.holds content = true := fun g hg =>
      hholds g (List.mem_cons_of_mem _ hg)
    cases hplain : beginsPlain fs with
    | false =>
      rw [carryNegations_cons_of_not_plain hplain, List.all_cons, Bool.and_eq_true] at hcarried
      exact ⟨fun _ => hplain, ih hrest hcarried.2⟩
    | true =>
      rw [carryNegations_cons_of_plain hplain, List.all_cons, Bool.and_eq_true] at hcarried
      cases f with
      | plain p => exact ⟨fun h => absurd h Bool.false_ne_true, ih hrest hcarried.2⟩
      | negated negator p =>
        -- its operand, which is refused, would have to hold
        have hp : (!p.holds content) = true := hholds (.negated negator p) (by simp)
        have hp' : p.holds content = true := hcarried.1
        simp [hp'] at hp

/-! ### Operands of a known value -/

/-- A word that the content `a` has, or one that it has not. -/
def sampleWord (b : Bool) : Operand := .word (if b then "a" else "b")

def sampleContent : List Char := ['a']

theorem holds_sampleWord (b : Bool) : (sampleWord b).holds sampleContent = b := by
  cases b <;> decide +kernel

theorem canonical_sampleWord (b : Bool) : ∀ t ∈ (sampleWord b).tokens, t.Canonical := by
  intro t ht
  rw [List.mem_singleton.mp ht]
  cases b
  · exact ⟨by decide, not_delimiter_of_all rfl, by decide⟩
  · exact ⟨by decide, not_delimiter_of_all rfl, by decide⟩

theorem Negator.canonical_operator (negator : Negator) :
    (Token.op negator.operator).Canonical := by
  cases negator <;> trivial

theorem Joiner.canonical_operator (joiner : Joiner) : (Token.op joiner.operator).Canonical := by
  cases joiner <;> trivial

/-- A factor of the same kind that holds of the content. -/
def Factor.sample (f : Factor) : Factor := .ofNegator? f.negator? (sampleWord (!f.isNegated))

theorem Factor.negator?_sample (f : Factor) : f.sample.negator? = f.negator? := by
  cases f <;> rfl

theorem Factor.holds_sample (f : Factor) : f.sample.holds sampleContent = true := by
  cases f with
  | plain p => exact holds_sampleWord true
  | negated negator p =>
    have h := holds_sampleWord false
    simpa [Factor.sample, Factor.ofNegator?, Factor.negator?, Factor.isNegated, Factor.holds] using h

theorem Factor.canonical_sample (f : Factor) : ∀ t ∈ f.sample.tokens, t.Canonical := by
  cases f with
  | plain p => exact canonical_sampleWord true
  | negated negator p =>
    intro t ht
    rcases List.mem_cons.mp ht with rfl | ht
    · exact negator.canonical_operator
    · exact canonical_sampleWord false t ht

/-! ### The value of adjacent factors -/

/-- **What adjacent factors mean.**  A query of factors without an operator
    between them asks for the factors in their carried form.  It asks for the
    factors as they are written, whatever their operands are, exactly if no
    negated factor stands directly before a plain one. -/
theorem compile_adjacent_factors (fs : List Factor) (hfs : fs ≠ []) :
    (∀ (query : String) (content : List Char), tokens query = fs.flatMap Factor.tokens →
      (compile query).findsFolded content =
        (carryNegations none fs).all (Factor.holds content)) ∧
    ((∀ gs : List Factor, gs.map Factor.negator? = fs.map Factor.negator? →
        ∀ (query : String) (content : List Char), tokens query = gs.flatMap Factor.tokens →
          (compile query).findsFolded content = gs.all (Factor.holds content)) ↔
      NegationsStay fs) := by
  refine ⟨fun query content hquery => compile_factors hfs hquery content, ?_, ?_⟩
  · intro hall
    -- factors of the same kinds that all hold, and a query that spells them
    have hsame : (fs.map Factor.sample).map Factor.negator? = fs.map Factor.negator? := by
      rw [List.map_map]
      exact List.map_congr_left fun f _ => f.negator?_sample
    have hcanonical : ∀ t ∈ (fs.map Factor.sample).flatMap Factor.tokens, t.Canonical := by
      intro t ht
      obtain ⟨g, hg, ht⟩ := List.mem_flatMap.mp ht
      obtain ⟨f, _, rfl⟩ := List.mem_map.mp hg
      exact f.canonical_sample t ht
    have hholds : ∀ g ∈ fs.map Factor.sample, g.holds sampleContent = true := by
      intro g hg
      obtain ⟨f, _, rfl⟩ := List.mem_map.mp hg
      exact f.holds_sample
    have hquery := tokens_spelling hcanonical
    have hvalue := hall _ hsame _ sampleContent hquery
    rw [compile_factors (by simpa using hfs) hquery, List.all_eq_true.mpr hholds] at hvalue
    exact (negationsStay_congr hsame).2.mp (stay_of_carryNegations_holds hholds hvalue)
  · intro hstay gs hsame query content hquery
    have hgs : gs ≠ [] := by
      rintro rfl
      exact hfs (List.map_eq_nil_iff.mp hsame.symm)
    rw [compile_factors hgs hquery,
      carryNegations_of_stay ((negationsStay_congr hsame).2.mpr hstay)]

/-- A content without `maria`, where `-maria joao` would have to hold. -/
theorem minus_passes_plain_word :
    tokens "-maria joao" =
        [Factor.negated .minus (.word "maria"), .plain (.word "joao")].flatMap Factor.tokens ∧
      [Factor.negated .minus (.word "maria"), .plain (.word "joao")].all
        (Factor.holds (fold "o joao ligou".toList)) = true ∧
      (compile "-maria joao").finds "o joao ligou" = false := by
  decide +kernel

/-- The negation of `-maria joao` is carried to `joao`. -/
theorem compile_minus_maria_joao :
    [Factor.negated .minus (.word "maria"), .plain (.word "joao")] ≠ [] ∧
      (compile "-maria joao").findsFolded "maria".toList = true ∧
      ¬ ∀ gs : List Factor, gs.map Factor.negator? = [some .minus, none] →
        ∀ (query : String) (content : List Char), tokens query = gs.flatMap Factor.tokens →
          (compile query).findsFolded content = gs.all (Factor.holds content) := by
  have hne : [Factor.negated .minus (.word "maria"), .plain (.word "joao")] ≠ [] := by simp
  obtain ⟨hvalue, hstay⟩ := compile_adjacent_factors _ hne
  refine ⟨hne, ?_, fun h => ?_⟩
  · rw [hvalue "-maria joao" _ (by decide +kernel)]
    decide +kernel
  · exact absurd ((hstay.mp h).1 rfl) (by decide)

end Transcripts.Query
