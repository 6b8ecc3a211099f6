/-
  Transcripts/Proofs/Numeral/Decimal.lean
  =======================================
  **Numbers in decimal, with zeros in front.**

  Zeros in front of a number change nothing of what it is read as, as long as it has no
  more digits than are read.  What is read as a whole number is made of digits, signs, low
  lines and blanks; a dot is none of them, so numbers can be told apart by dots between
  them.
-/
import Transcripts.Proofs.Numeral.Literal

namespace Transcripts.Numeral

open Transcripts.Text

variable {cs : List Char} {c : Char} {n : Int}

/-! ### Digits of ASCII -/

theorem digitValue?_codes : ∀ k ∈ List.range 10, digitValue? (.ofNat (0x30 + k)) = some k := by
  decide +kernel

theorem digitValue?_of_ascii (h : c.isDigit = true) : digitValue? c = some (c.toNat - '0'.toNat) := by
  have hrange : 0x30 ≤ c.toNat ∧ c.toNat ≤ 0x39 := by
    rw [Char.isDigit, Bool.and_eq_true, decide_eq_true_iff, decide_eq_true_iff] at h
    exact ⟨UInt32.le_iff_toNat_le.mp h.1, UInt32.le_iff_toNat_le.mp h.2⟩
  have hcode := digitValue?_codes (c.toNat - 0x30) (List.mem_range.mpr (by omega))
  rwa [Nat.add_sub_cancel' hrange.1, Char.ofNat_toNat] at hcode

theorem isDigit_of_ascii (h : c.isDigit = true) : isDigit c = true := by
  rw [isDigit, digitValue?_of_ascii h]
  rfl

theorem digitsOf_of_ascii (h : ∀ c ∈ cs, c.isDigit = true) :
    digitsOf cs = cs.map fun c => c.toNat - '0'.toNat :=
  List.filterMap_eq_map_iff_forall_eq_some.mpr fun c hc => digitValue?_of_ascii (h c hc)

theorem numeralValue_of_ascii (h : ∀ c ∈ cs, c.isDigit = true) :
    numeralValue cs = Nat.ofDigitChars 10 cs 0 := by
  rw [numeralValue, digitsOf_of_ascii h, ofDigits, List.foldl_map, Nat.ofDigitChars_eq_foldl]
  simp only [Nat.mul_comm]

/-! ### Zeros in front -/

/-- A number in decimal, with zeros in front. -/
def zeroFilled (zeros n : Nat) : List Char := List.replicate zeros '0' ++ Nat.toDigits 10 n

theorem isDigit_zeroFilled (zeros k : Nat) : ∀ c ∈ zeroFilled zeros k, c.isDigit = true := by
  intro c hc
  rcases List.mem_append.mp hc with hzero | hdigit
  · rw [List.eq_of_mem_replicate hzero]
    rfl
  · exact Nat.isDigit_of_mem_toDigits (by decide) (by decide) hdigit

theorem zeroFilled_ne_nil (zeros k : Nat) : zeroFilled zeros k ≠ [] :=
  List.append_ne_nil_of_right_ne_nil _ Nat.toDigits_ne_nil

theorem ofDigitChars_zeroFilled (zeros k : Nat) : Nat.ofDigitChars 10 (zeroFilled zeros k) 0 = k := by
  rw [zeroFilled, Nat.ofDigitChars_append, Nat.ofDigitChars_replicate_zero, Nat.mul_zero,
    Nat.ofDigitChars_ten_toDigits]

theorem isLiteral_zeroFilled {zeros k : Nat} (h : (zeroFilled zeros k).length ≤ maxDigits) :
    IsLiteral (zeroFilled zeros k) k := by
  have hnumeral : isNumeral (zeroFilled zeros k) = true := by
    rw [isNumeral, Bool.and_eq_true, Bool.and_eq_true, Bool.not_eq_true', List.isEmpty_eq_false_iff,
      List.all_eq_true, decide_eq_true_eq]
    refine ⟨⟨zeroFilled_ne_nil zeros k, ?_⟩, h⟩
    exact fun c hc => isDigit_of_ascii (isDigit_zeroFilled zeros k c hc)
  have hliteral := isLiteral_of_isNumeral hnumeral
  rwa [numeralValue_of_ascii (isDigit_zeroFilled zeros k), ofDigitChars_zeroFilled] at hliteral

/-! ### What a number is made of -/

theorem not_isBlank_of_isDigit (h : isDigit c = true) : isBlank c = false := by
  by_contra hblank
  have hnot := not_isDigit_blankCodes _ (mem_blankCodes (Bool.not_eq_false _ ▸ hblank))
  rw [Char.ofNat_toNat, h] at hnot
  cases hnot

theorem not_isBlank_of_ascii (h : c.isDigit = true) : isBlank c = false :=
  not_isBlank_of_isDigit (isDigit_of_ascii h)

theorem IsSigned.mem_cases (h : IsSigned cs n) (hc : c ∈ cs) :
    isDigit c = true ∨ c = '_' ∨ c = '+' ∨ c = '-' := by
  cases h with
  | bare h => exact (mem_of_inGroups h.groups hc).imp_right .inl
  | plus h =>
    rcases List.mem_cons.mp hc with rfl | hc
    · exact .inr (.inr (.inl rfl))
    · exact (mem_of_inGroups h.groups hc).imp_right .inl
  | minus h =>
    rcases List.mem_cons.mp hc with rfl | hc
    · exact .inr (.inr (.inr rfl))
    · exact (mem_of_inGroups h.groups hc).imp_right .inl

theorem IsSigned.not_isBlank (h : IsSigned cs n) (hc : c ∈ cs) : isBlank c = false := by
  rcases h.mem_cases hc with hdigit | rfl | rfl | rfl
  · exact not_isBlank_of_isDigit hdigit
  · decide
  · decide
  · decide

theorem isBlank_of_isNumberBlank (h : isNumberBlank c = true) : isBlank c = true := by
  rw [isNumberBlank, Bool.and_eq_true] at h
  exact h.1

theorem IsLiteral.dot_not_mem (h : IsLiteral cs n) : '.' ∉ cs := by
  obtain ⟨before, signed, after, rfl, hbefore, hafter, hsigned⟩ := h
  have hblank : isNumberBlank '.' = false := by decide
  have hdigit : isDigit '.' = false := by decide +kernel
  intro hdot
  rcases List.mem_append.mp hdot with hdot | hdot
  · rcases List.mem_append.mp hdot with hdot | hdot
    · exact absurd (hbefore _ hdot) (by rw [hblank]; decide)
    · rcases hsigned.mem_cases hdot with hdot | hdot | hdot | hdot
      · rw [hdigit] at hdot
        cases hdot
      · cases hdot
      · cases hdot
      · cases hdot
  · exact absurd (hafter _ hdot) (by rw [hblank]; decide)

/-- A number goes on without the blanks in front of it. -/
theorem IsLiteral.exists_front (h : IsLiteral cs n) :
    ∃ blanks rest, cs = blanks ++ rest ∧ (∀ c ∈ blanks, isBlank c = true) ∧ IsLiteral rest n ∧
      rest ≠ [] ∧ ∀ c ∈ rest.head?, isBlank c = false := by
  obtain ⟨before, signed, after, rfl, hbefore, hafter, hsigned⟩ := h
  obtain ⟨c, rest, rfl⟩ := List.exists_cons_of_ne_nil hsigned.ne_nil
  refine ⟨before, c :: rest ++ after, List.append_assoc .., ?_, ?_, List.cons_ne_nil _ _, ?_⟩
  · exact fun d hd => isBlank_of_isNumberBlank (hbefore d hd)
  · exact ⟨[], c :: rest, after, rfl, fun d hd => absurd hd List.not_mem_nil, hafter, hsigned⟩
  · intro d hd
    cases hd
    exact hsigned.not_isBlank List.mem_cons_self

theorem IsLiteral.exists_back (h : IsLiteral cs n) :
    ∃ rest blanks, cs = rest ++ blanks ∧ (∀ c ∈ blanks, isBlank c = true) ∧ IsLiteral rest n ∧
      rest ≠ [] ∧ ∀ c ∈ rest.getLast?, isBlank c = false := by
  obtain ⟨before, signed, after, rfl, hbefore, hafter, hsigned⟩ := h
  refine ⟨before ++ signed, after, rfl, ?_, ?_, ?_, ?_⟩
  · exact fun c hc => isBlank_of_isNumberBlank (hafter c hc)
  · exact ⟨before, signed, [], (List.append_nil _).symm, hbefore,
      fun c hc => absurd hc List.not_mem_nil, hsigned⟩
  · exact List.append_ne_nil_of_right_ne_nil _ hsigned.ne_nil
  · intro c hc
    rw [List.getLast?_append_of_ne_nil _ hsigned.ne_nil] at hc
    exact hsigned.not_isBlank (List.mem_of_mem_getLast? hc)

end Transcripts.Numeral
