/-
  Transcripts/Proofs/Numeral/Literal.lean
  =======================================
  **What is read as a whole number.**

  A whole number is read by cutting off the blanks at both ends, then a sign, and
  taking digits until something else comes.  What is read that way has a form that can
  be said without the reader (`IsLiteral`): blanks, perhaps a sign, digits in groups with
  single low lines between them, blanks.  Nothing else is read (`integer?_eq_some_iff`).
  That cutting off takes just the blanks rests on a fact about the tables, that no
  digit of any script is blank.
-/
import Transcripts.Numeral.Integer
import Transcripts.Proofs.Text.Split

namespace Transcripts.Numeral

open Transcripts.Text

variable {cs : List Char} {c : Char} {n : Int}

/-! ### Groups of digits -/

/-- Groups of decimal digits, with single low lines between them. -/
def InGroups (cs : List Char) : Prop :=
  ∀ group ∈ splitOn '_' cs, group ≠ [] ∧ ∀ c ∈ group, isDigit c = true

theorem not_isDigit_line : isDigit '_' = false := by decide +kernel

theorem not_inGroups_nil : ¬ InGroups [] := by
  intro h
  exact (h [] List.mem_cons_self).1 rfl

theorem inGroups_append_line (front back : List Char) :
    InGroups (front ++ '_' :: back) ↔ InGroups front ∧ InGroups back := by
  have hcut : splitOn '_' (front ++ '_' :: back) = splitOn '_' front ++ splitOn '_' back := by
    apply splitBy_append_cons
    exact beq_self_eq_true '_'
  rw [InGroups, hcut, List.forall_mem_append]
  rfl

theorem inGroups_of_digits (hne : cs ≠ []) (hdigits : ∀ c ∈ cs, isDigit c = true) : InGroups cs := by
  have hfree : ∀ c ∈ cs, (c == '_') = false := by
    intro c hc
    rw [beq_eq_false_iff_ne]
    rintro rfl
    exact absurd (hdigits _ hc) (by rw [not_isDigit_line]; decide)
  intro group hgroup
  rw [splitOn, splitBy_of_free hfree, List.mem_singleton] at hgroup
  rw [hgroup]
  exact ⟨hne, hdigits⟩

theorem inGroups_singleton : InGroups [c] ↔ isDigit c = true := by
  constructor
  · intro h
    by_cases hline : c = '_'
    · subst hline
      exact absurd ((inGroups_append_line [] []).mp h).1 not_inGroups_nil
    · have hfree : ∀ d ∈ [c], (d == '_') = false :=
        List.forall_mem_singleton.mpr (beq_eq_false_iff_ne.mpr hline)
      have hgroup : [c] ∈ splitOn '_' [c] := by
        rw [splitOn, splitBy_of_free hfree]
        exact List.mem_cons_self
      exact (h [c] hgroup).2 c List.mem_cons_self
  · intro h
    exact inGroups_of_digits (List.cons_ne_nil c []) (List.forall_mem_singleton.mpr h)

theorem inGroups_cons_cons {d : Char} (hd : d ≠ '_') :
    InGroups (c :: d :: cs) ↔ isDigit c = true ∧ InGroups (d :: cs) := by
  have hcons {b : Char} {bs : List Char} (hb : b ≠ '_') {part : List Char} {parts : List (List Char)}
      (hparts : splitOn '_' bs = part :: parts) : splitOn '_' (b :: bs) = (b :: part) :: parts := by
    rw [splitOn] at hparts
    rw [splitOn, splitBy, if_neg (by simpa using hb), hparts]
  by_cases hline : c = '_'
  · subst hline
    constructor
    · intro h
      exact absurd ((inGroups_append_line [] (d :: cs)).mp h).1 not_inGroups_nil
    · rintro ⟨h, _⟩
      exact absurd h (by rw [not_isDigit_line]; decide)
  · -- the first group of the rest is not empty, and takes `c` in
    obtain ⟨part, parts, hparts⟩ := List.exists_cons_of_ne_nil (splitBy_ne_nil (· == '_') cs)
    have hrest := hcons hd hparts
    rw [InGroups, InGroups, hcons hline hrest, hrest]
    simp only [List.forall_mem_cons, ne_eq, List.cons_ne_nil, not_false_eq_true, true_and, and_assoc]

/-- The digits of a text. -/
def digitsOf (cs : List Char) : List Nat := cs.filterMap digitValue?

theorem isDigit_iff : isDigit c = true ↔ ∃ d, digitValue? c = some d := Option.isSome_iff_exists

theorem digitsOf_cons {d : Nat} (h : digitValue? c = some d) (cs : List Char) :
    digitsOf (c :: cs) = d :: digitsOf cs := List.filterMap_cons_some h

/-- One more digit in front of a run. -/
theorem cons_run_eq_some_iff {run : Option (List Nat)} {good : Prop} {values : List Nat}
    (h : ∀ {rest}, run = some rest ↔ good ∧ rest = digitsOf cs) :
    (do let d ← digitValue? c; let rest ← run; return d :: rest) = some values ↔
      (isDigit c = true ∧ good) ∧ values = digitsOf (c :: cs) := by
  simp only [Option.bind_eq_bind, Option.pure_def, Option.bind_eq_some_iff, Option.some.injEq, h,
    isDigit_iff]
  constructor
  · rintro ⟨d, hd, rest, ⟨hgood, rfl⟩, rfl⟩
    exact ⟨⟨⟨d, hd⟩, hgood⟩, (digitsOf_cons hd cs).symm⟩
  · rintro ⟨⟨⟨d, hd⟩, hgood⟩, rfl⟩
    exact ⟨d, hd, _, ⟨hgood, rfl⟩, (digitsOf_cons hd cs).symm⟩

theorem digitRun?_eq_some_iff {values : List Nat} :
    digitRun? cs = some values ↔ InGroups cs ∧ values = digitsOf cs := by
  fun_induction digitRun? cs generalizing values with
  | case1 => simp [not_inGroups_nil]
  | case2 c =>
    rw [inGroups_singleton, Option.map_eq_some_iff, isDigit_iff]
    constructor
    · rintro ⟨d, hd, rfl⟩
      exact ⟨⟨d, hd⟩, (digitsOf_cons hd []).symm⟩
    · rintro ⟨⟨d, hd⟩, rfl⟩
      exact ⟨d, hd, (digitsOf_cons hd []).symm⟩
  | case3 c cs ih =>
    have hdigits : digitsOf (c :: '_' :: cs) = digitsOf (c :: cs) := by
      have hline : digitValue? '_' = none := Option.not_isSome_iff_eq_none.mp (by
        rw [← isDigit, not_isDigit_line]
        decide)
      simp only [digitsOf, List.filterMap_cons, hline]
    rw [show c :: '_' :: cs = [c] ++ '_' :: cs from rfl, inGroups_append_line, inGroups_singleton]
    exact hdigits ▸ cons_run_eq_some_iff ih
  | case4 c cs hsome hline ih =>
    cases cs with
    | nil => exact absurd rfl hsome
    | cons d cs =>
      have hd : d ≠ '_' := by
        rintro rfl
        exact hline cs rfl
      rw [inGroups_cons_cons hd]
      exact cons_run_eq_some_iff ih

/-! ### Blanks, a sign, and digits -/

/-- The number of digits in groups, as many as can be read. -/
structure IsUnsigned (cs : List Char) (k : Nat) : Prop where
  groups : InGroups cs
  short : (digitsOf cs).length ≤ maxDigits
  value : k = ofDigits (digitsOf cs)

/-- A number with or without a sign. -/
inductive IsSigned : List Char → Int → Prop where
  | bare {cs : List Char} {k : Nat} (h : IsUnsigned cs k) : IsSigned cs k
  | plus {cs : List Char} {k : Nat} (h : IsUnsigned cs k) : IsSigned ('+' :: cs) k
  | minus {cs : List Char} {k : Nat} (h : IsUnsigned cs k) : IsSigned ('-' :: cs) (-k)

/-- A number with blanks around it. -/
def IsLiteral (cs : List Char) (n : Int) : Prop :=
  ∃ before signed after, cs = before ++ signed ++ after ∧
    (∀ c ∈ before, isNumberBlank c = true) ∧ (∀ c ∈ after, isNumberBlank c = true) ∧ IsSigned signed n

/-- The code points of the blanks. -/
def blankCodes : List Nat :=
  [0x09, 0x0A, 0x0B, 0x0C, 0x0D, 0x1C, 0x1D, 0x1E, 0x1F, 0x20, 0x85, 0xA0, 0x1680, 0x2000, 0x2001, 0x2002,
   0x2003, 0x2004, 0x2005, 0x2006, 0x2007, 0x2008, 0x2009, 0x200A, 0x2028, 0x2029, 0x202F, 0x205F, 0x3000]

theorem mem_blankCodes (h : isBlank c = true) : c.toNat ∈ blankCodes := by
  simp only [isBlank, Bool.or_eq_true, Bool.and_eq_true, decide_eq_true_eq] at h
  simp only [blankCodes, List.mem_cons, List.not_mem_nil, or_false]
  omega

theorem not_isDigit_blankCodes : ∀ n ∈ blankCodes, isDigit (.ofNat n) = false := by decide +kernel

theorem not_isNumberBlank_of_isDigit (h : isDigit c = true) : isNumberBlank c = false := by
  by_contra hblank
  rw [Bool.not_eq_false, isNumberBlank, Bool.and_eq_true] at hblank
  have hnot := not_isDigit_blankCodes _ (mem_blankCodes hblank.1)
  rw [Char.ofNat_toNat, h] at hnot
  cases hnot

theorem mem_of_inGroups (h : InGroups cs) (hc : c ∈ cs) : isDigit c = true ∨ c = '_' := by
  by_cases hline : c = '_'
  · exact .inr hline
  · have hpart : ∃ group ∈ splitOn '_' cs, c ∈ group :=
      mem_part_iff.mpr ⟨hc, beq_eq_false_iff_ne.mpr hline⟩
    obtain ⟨group, hgroup, hmem⟩ := hpart
    exact .inl ((h group hgroup).2 c hmem)

theorem IsUnsigned.not_blank {k : Nat} (h : IsUnsigned cs k) (hc : c ∈ cs) : isNumberBlank c = false := by
  rcases mem_of_inGroups h.groups hc with hdigit | rfl
  · exact not_isNumberBlank_of_isDigit hdigit
  · decide

theorem IsSigned.not_blank (h : IsSigned cs n) (hc : c ∈ cs) : isNumberBlank c = false := by
  cases h with
  | bare h => exact h.not_blank hc
  | plus h =>
    rcases List.mem_cons.mp hc with rfl | hc
    · decide
    · exact h.not_blank hc
  | minus h =>
    rcases List.mem_cons.mp hc with rfl | hc
    · decide
    · exact h.not_blank hc

theorem IsSigned.ne_nil (h : IsSigned cs n) : cs ≠ [] := by
  cases h with
  | bare h =>
    rintro rfl
    exact not_inGroups_nil h.groups
  | plus h => exact List.cons_ne_nil _ _
  | minus h => exact List.cons_ne_nil _ _

/-! ### Cutting off blanks -/

theorem trimNumber_append {before body after : List Char} (hbefore : ∀ c ∈ before, isNumberBlank c = true)
    (hafter : ∀ c ∈ after, isNumberBlank c = true) (hbody : ∀ c ∈ body, isNumberBlank c = false)
    (hne : body ≠ []) : trimNumber (before ++ body ++ after) = body :=
  dropped_ends_append hbefore hafter hne (fun c hc => hbody c (List.mem_of_mem_head? hc))
    fun c hc => hbody c (List.mem_of_mem_getLast? hc)

/-! ### Reading -/

theorem splitSign_of_inGroups (h : InGroups cs) : splitSign cs = (false, cs) := by
  have hhead (sign : Char) (hdigit : isDigit sign = false) (hline : sign ≠ '_') {rest : List Char} :
      cs ≠ sign :: rest := by
    rintro rfl
    rcases mem_of_inGroups h List.mem_cons_self with hsign | hsign
    · rw [hdigit] at hsign
      cases hsign
    · exact hline hsign
  have hminus {rest : List Char} : cs ≠ '-' :: rest := hhead '-' (by decide +kernel) (by decide)
  have hplus {rest : List Char} : cs ≠ '+' :: rest := hhead '+' (by decide +kernel) (by decide)
  rw [splitSign]
  · exact fun rest => hminus
  · exact fun rest => hplus

theorem isSigned_iff : IsSigned cs n ↔
    ∃ k : Nat, IsUnsigned (splitSign cs).2 k ∧ n = if (splitSign cs).1 then -(k : Int) else k := by
  constructor
  · intro h
    cases h with
    | @bare _ k h =>
      rw [splitSign_of_inGroups h.groups]
      exact ⟨k, h, rfl⟩
    | @plus _ k h => exact ⟨k, h, rfl⟩
    | @minus _ k h => exact ⟨k, h, rfl⟩
  · rintro ⟨k, h, rfl⟩
    unfold splitSign at h ⊢
    split at h
    · exact .minus h
    · exact .plus h
    · exact .bare h

theorem integer?_eq_some_iff_isSigned : integer? cs = some n ↔ IsSigned (trimNumber cs) n := by
  rw [isSigned_iff, integer?, readInteger]
  generalize splitSign (trimNumber cs) = split
  obtain ⟨negative, body⟩ := split
  simp only
  cases hrun : digitRun? body with
  | none =>
    constructor
    · intro h
      cases h
    · rintro ⟨k, h, -⟩
      rw [digitRun?_eq_some_iff.mpr ⟨h.groups, rfl⟩] at hrun
      cases hrun
  | some values =>
    obtain ⟨hgroups, rfl⟩ := digitRun?_eq_some_iff.mp hrun
    simp only
    by_cases hlong : maxDigits < (digitsOf body).length
    · rw [if_pos hlong]
      constructor
      · intro h
        cases h
      · rintro ⟨k, h, -⟩
        exact absurd h.short (Nat.not_le.mpr hlong)
    · rw [if_neg hlong, Except.toOption, Option.some.injEq]
      constructor
      · rintro rfl
        exact ⟨_, ⟨hgroups, Nat.not_lt.mp hlong, rfl⟩, rfl⟩
      · rintro ⟨k, h, rfl⟩
        rw [h.value]

/-- **What is read as a whole number is a number with blanks around it, and nothing else.** -/
theorem integer?_eq_some_iff : integer? cs = some n ↔ IsLiteral cs n := by
  rw [integer?_eq_some_iff_isSigned]
  constructor
  · intro h
    obtain ⟨before, after, hcs, hbefore, hafter⟩ := exists_dropped_ends isNumberBlank cs
    exact ⟨before, trimNumber cs, after, hcs, hbefore, hafter, h⟩
  · rintro ⟨before, signed, after, rfl, hbefore, hafter, h⟩
    rwa [trimNumber_append hbefore hafter (fun c hc => h.not_blank hc) h.ne_nil]

theorem IsLiteral.nonneg (h : IsLiteral cs n) (hminus : '-' ∉ cs) : 0 ≤ n := by
  obtain ⟨before, signed, after, rfl, -, -, hsigned⟩ := h
  cases hsigned with
  | bare h => exact Int.natCast_nonneg _
  | plus h => exact Int.natCast_nonneg _
  | minus h => exact absurd (by simp) hminus

/-! ### Bare digits -/

/-- Only decimal digits, at least one and no more than can be read. -/
def isNumeral (cs : List Char) : Bool :=
  !cs.isEmpty && cs.all isDigit && decide (cs.length ≤ maxDigits)

/-- The number that the digits of a text stand for. -/
def numeralValue (cs : List Char) : Nat := ofDigits (digitsOf cs)

theorem isLiteral_of_isNumeral (h : isNumeral cs = true) : IsLiteral cs (numeralValue cs) := by
  rw [isNumeral, Bool.and_eq_true, Bool.and_eq_true, Bool.not_eq_true', List.isEmpty_eq_false_iff,
    List.all_eq_true, decide_eq_true_eq] at h
  obtain ⟨⟨hne, hdigits⟩, hlength⟩ := h
  have hshort : (digitsOf cs).length ≤ maxDigits := (List.length_filterMap_le _ _).trans hlength
  refine ⟨[], cs, [], (List.append_nil cs).symm, ?_, ?_, ?_⟩
  · exact fun c hc => absurd hc List.not_mem_nil
  · exact fun c hc => absurd hc List.not_mem_nil
  · exact .bare ⟨inGroups_of_digits hne hdigits, hshort, rfl⟩

end Transcripts.Numeral
