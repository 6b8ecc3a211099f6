/-
  Transcripts/Proofs/Numeral/Magnitude.lean
  =========================================
  **How large the numbers are that are read.**

  A whole number is refused if it has too many digits.  A number of another form
  is rounded to double precision, where rounding moves it by no more than one
  step of the coarsest grid, and whatever is far out of range has become infinite
  before.  So the whole part of every number that is read has fewer digits than
  a whole number may have.
-/
import Transcripts.Numeral.Binary64
import Transcripts.Numeral.Integer

namespace Transcripts.Numeral

open Transcripts.Text

theorem natPow_le_natPow {base n m : Nat} (hbase : 0 < base) (h : n ≤ m) :
    Nat.pow base n ≤ Nat.pow base m :=
  Nat.pow_le_pow_right hbase h

namespace Binary64

/-! ### Rounding -/

theorem roundRatio_le (num den : Nat) : roundRatio num den ≤ num / den + 1 := by
  rw [roundRatio]
  split
  · omega
  · split <;> omega

theorem natAbs_truncate (negative : Bool) (m : Nat) (e : Int) :
    (truncate negative m e).natAbs =
      if 0 ≤ e then m * Nat.pow 2 e.toNat else m / Nat.pow 2 (-e).toNat := by
  rw [truncate]
  cases negative with
  | false => exact Int.natAbs_natCast _
  | true => exact (Int.natAbs_neg _).trans (Int.natAbs_natCast _)

/-- A mantissa that rounding carried over stands for the same number. -/
theorem natAbs_truncate_carry (negative : Bool) (e : Int) :
    (truncate negative 0x10000000000000 (e + 1)).natAbs = (truncate negative 0x20000000000000 e).natAbs := by
  rw [natAbs_truncate, natAbs_truncate]
  have hdouble (k : Nat) : Nat.pow 2 (k + 1) = Nat.pow 2 k * 2 := rfl
  have hcarry : 0x20000000000000 = 0x10000000000000 * 2 := rfl
  by_cases hneg : e < 0
  · rw [if_neg (by omega : ¬ 0 ≤ e)]
    obtain ⟨k, hk⟩ : ∃ k, (-e).toNat = k + 1 := ⟨(-e).toNat - 1, by omega⟩
    rw [hk, hdouble, hcarry, Nat.mul_div_mul_right _ _ (by decide)]
    split
    · -- the step from the last negative exponent to none
      have hzero : (e + 1).toNat = 0 ∧ k = 0 := by omega
      rw [hzero.1, hzero.2]
    · rw [show (-(e + 1)).toNat = k by omega]
  · rw [if_pos (by omega : 0 ≤ e + 1), if_pos (by omega : 0 ≤ e), show (e + 1).toNat = e.toNat + 1 by omega,
      hdouble, hcarry, Nat.mul_assoc, Nat.mul_comm 2]

/-- Rounding on a grid moves a number by at most one step of the grid. -/
theorem natAbs_truncate_le (negative : Bool) {num den m : Nat} {e : Int}
    (hm : m ≤ (scaleDown num den e).1 / (scaleDown num den e).2 + 1) :
    (truncate negative m e).natAbs ≤ num / den + Nat.pow 2 e.toNat := by
  rw [natAbs_truncate]
  rw [scaleDown] at hm
  have hpow (k : Nat) : 0 < Nat.pow 2 k := Nat.two_pow_pos k
  split
  · next he =>
    rw [if_pos he, ← Nat.div_div_eq_div_mul] at hm
    calc m * Nat.pow 2 e.toNat
      _ ≤ (num / den / Nat.pow 2 e.toNat + 1) * Nat.pow 2 e.toNat := Nat.mul_le_mul_right _ hm
      _ = num / den / Nat.pow 2 e.toNat * Nat.pow 2 e.toNat + Nat.pow 2 e.toNat := Nat.succ_mul _ _
      _ ≤ num / den + Nat.pow 2 e.toNat := Nat.add_le_add_right (Nat.div_mul_le_self _ _) _
  · next he =>
    rw [if_neg he] at hm
    calc m / Nat.pow 2 (-e).toNat
      _ ≤ (num * Nat.pow 2 (-e).toNat / den + 1) / Nat.pow 2 (-e).toNat := Nat.div_le_div_right hm
      _ ≤ (num * Nat.pow 2 (-e).toNat / den + Nat.pow 2 (-e).toNat) / Nat.pow 2 (-e).toNat :=
        Nat.div_le_div_right (Nat.add_le_add_left (hpow _) _)
      _ = num * Nat.pow 2 (-e).toNat / den / Nat.pow 2 (-e).toNat + 1 := Nat.add_div_right _ (hpow _)
      _ = num / den + 1 := by
        rw [Nat.div_div_eq_div_mul, Nat.mul_div_mul_right _ _ (hpow _)]
      _ ≤ num / den + Nat.pow 2 e.toNat := Nat.add_le_add_left (hpow _) _

/-- A finite number that a fraction is rounded to lies within a step of the
    coarsest grid. -/
theorem natAbs_truncate_ofRatio {negative s : Bool} {num den m : Nat} {e : Int}
    (h : ofRatio negative num den = .finite s m e) :
    (truncate s m e).natAbs ≤ num / den + Nat.pow 2 maxExponent.toNat := by
  rw [ofRatio] at h
  split at h
  · simp only [zero, finite.injEq] at h
    obtain ⟨rfl, rfl, rfl⟩ := h
    rw [natAbs_truncate, if_neg (by decide), Nat.zero_div]
    exact Nat.zero_le _
  · have hround (e : Int) := roundRatio_le (scaleDown num den e).1 (scaleDown num den e).2
    have hstep {e : Int} (he : ¬ maxExponent < e) : Nat.pow 2 e.toNat ≤ Nat.pow 2 maxExponent.toNat :=
      natPow_le_natPow (by decide) (by omega)
    simp only at h
    split at h
    · next hcarry =>
      split at h
      · exact absurd h (by simp)
      · next he =>
        simp only [finite.injEq] at h
        obtain ⟨rfl, rfl, rfl⟩ := h
        have hle := natAbs_truncate_le negative (hcarry ▸ hround _)
        rw [natAbs_truncate_carry]
        exact Nat.le_trans hle (Nat.add_le_add_left (hstep (by simp only at he; omega)) _)
    · split at h
      · exact absurd h (by simp)
      · next he =>
        simp only [finite.injEq] at h
        obtain ⟨rfl, rfl, rfl⟩ := h
        exact Nat.le_trans (natAbs_truncate_le negative (hround _))
          (Nat.add_le_add_left (hstep he) _)

/-! ### Decimals -/

theorem mul_pow_le_of_length {digits k p : Nat} (h : (Nat.toDigits 10 digits).length + k ≤ p) :
    digits * Nat.pow 10 k ≤ Nat.pow 10 p := by
  have hdigits : digits < Nat.pow 10 (Nat.toDigits 10 digits).length :=
    (Nat.length_toDigits_le_iff (by decide) Nat.length_toDigits_pos).mp (Nat.le_refl _)
  calc digits * Nat.pow 10 k
    _ ≤ Nat.pow 10 (Nat.toDigits 10 digits).length * Nat.pow 10 k :=
      Nat.mul_le_mul_right _ (Nat.le_of_lt hdigits)
    _ = Nat.pow 10 ((Nat.toDigits 10 digits).length + k) := (Nat.pow_add ..).symm
    _ ≤ Nat.pow 10 p := natPow_le_natPow (by decide) h

theorem div_pow_le_of_length {digits k p : Nat} (h : (Nat.toDigits 10 digits).length ≤ p + k) :
    digits / Nat.pow 10 k ≤ Nat.pow 10 p := by
  apply Nat.div_le_of_le_mul
  calc digits
    _ = digits * Nat.pow 10 0 := (Nat.mul_one digits).symm
    _ ≤ Nat.pow 10 (p + k) := mul_pow_le_of_length h
    _ = Nat.pow 10 p * Nat.pow 10 k := Nat.pow_add ..
    _ = Nat.pow 10 k * Nat.pow 10 p := Nat.mul_comm ..

/-- A decimal that is not infinite has its leading digit in range. -/
theorem natAbs_truncate_ofDecimal {negative s : Bool} {digits m : Nat} {exponent e : Int}
    (h : ofDecimal negative digits exponent = .finite s m e) :
    (truncate s m e).natAbs ≤ Nat.pow 10 maxExponent.toNat + Nat.pow 2 maxExponent.toNat := by
  have hrange : maxExponent.toNat = 971 := rfl
  have hzero : (truncate s 0 minExponent).natAbs ≤ Nat.pow 10 maxExponent.toNat + Nat.pow 2 maxExponent.toNat := by
    rw [natAbs_truncate, if_neg (by decide), Nat.zero_div]
    exact Nat.zero_le _
  rw [ofDecimal] at h
  split at h
  · simp only [zero, finite.injEq] at h
    obtain ⟨rfl, rfl, rfl⟩ := h
    exact hzero
  · simp only at h
    split at h
    · exact absurd h (by simp)
    · split at h
      · simp only [zero, finite.injEq] at h
        obtain ⟨rfl, rfl, rfl⟩ := h
        exact hzero
      · split at h
        · refine Nat.le_trans (natAbs_truncate_ofRatio h) (Nat.add_le_add_right ?_ _)
          rw [Nat.div_one]
          exact mul_pow_le_of_length (by omega)
        · refine Nat.le_trans (natAbs_truncate_ofRatio h) (Nat.add_le_add_right ?_ _)
          exact div_pow_le_of_length (by omega)

/-- Whether the whole part of a number has no more digits than a whole number may
    have. -/
def TruncatesInLimits (x : Binary64) : Prop :=
  ∀ s m e, x = .finite s m e → (truncate s m e).natAbs < Nat.pow 10 maxDigits

theorem ofDecimal_truncatesInLimits (negative : Bool) (digits : Nat) (exponent : Int) :
    (ofDecimal negative digits exponent).TruncatesInLimits := by
  intro s m e h
  have hle := natAbs_truncate_ofDecimal h
  have hlimit : maxExponent.toNat + 1 ≤ maxDigits := by decide
  generalize maxExponent.toNat = p at hle hlimit
  have hpow : 0 < Nat.pow 10 p := Nat.pow_pos (by decide)
  calc (truncate s m e).natAbs
    _ ≤ Nat.pow 10 p + Nat.pow 2 p := hle
    _ ≤ Nat.pow 10 p + Nat.pow 10 p := Nat.add_le_add_left (Nat.pow_le_pow_left (by decide) _) _
    _ < Nat.pow 10 p * 10 := by omega
    _ = Nat.pow 10 (p + 1) := (Nat.pow_succ ..).symm
    _ ≤ Nat.pow 10 maxDigits := natPow_le_natPow (by decide) hlimit

end Binary64

/-! ### Whole numbers -/

theorem foldl_digits_lt {ds : List Nat} (h : ∀ d ∈ ds, d < 10) (n : Nat) :
    ds.foldl (fun n d => n * 10 + d) n < (n + 1) * Nat.pow 10 ds.length := by
  induction ds generalizing n with
  | nil => simp
  | cons d ds ih =>
    obtain ⟨hd, hds⟩ := List.forall_mem_cons.mp h
    calc ds.foldl (fun n d => n * 10 + d) (n * 10 + d)
      _ < (n * 10 + d + 1) * Nat.pow 10 ds.length := ih hds _
      _ ≤ ((n + 1) * 10) * Nat.pow 10 ds.length := Nat.mul_le_mul_right _ (by omega)
      _ = (n + 1) * (Nat.pow 10 ds.length * 10) := by rw [Nat.mul_assoc, Nat.mul_comm 10]

theorem ofDigits_lt {ds : List Nat} (h : ∀ d ∈ ds, d < 10) : ofDigits ds < Nat.pow 10 ds.length := by
  have hlt := foldl_digits_lt h 0
  rwa [Nat.zero_add, Nat.one_mul] at hlt

theorem digitValue?_lt {c : Char} {d : Nat} (h : digitValue? c = some d) : d < 10 := by
  rw [digitValue?] at h
  split at h
  · split at h
    · next hlt => exact Option.some.inj h ▸ hlt
    · exact absurd h (by simp)
  · exact absurd h (by simp)

theorem digitRun?_lt {cs : List Char} {ds : List Nat} (h : digitRun? cs = some ds) :
    ∀ d ∈ ds, d < 10 := by
  have hcons {c : Char} {run : Option (List Nat)} {ds : List Nat}
      (ih : ∀ {ds}, run = some ds → ∀ d ∈ ds, d < 10)
      (h : (do let d ← digitValue? c; let ds ← run; return d :: ds) = some ds) :
      ∀ d ∈ ds, d < 10 := by
    simp only [Option.bind_eq_bind, Option.pure_def, Option.bind_eq_some_iff,
      Option.some.injEq] at h
    obtain ⟨d, hd, rest, hrest, rfl⟩ := h
    exact List.forall_mem_cons.mpr ⟨digitValue?_lt hd, ih hrest⟩
  fun_induction digitRun? cs generalizing ds with
  | case1 => exact absurd h (by simp)
  | case2 c =>
    obtain ⟨d, hd, rfl⟩ := Option.map_eq_some_iff.mp h
    exact List.forall_mem_cons.mpr ⟨digitValue?_lt hd, fun _ hmem => absurd hmem List.not_mem_nil⟩
  | case3 c cs ih => exact hcons ih h
  | case4 c cs _ _ ih => exact hcons ih h

/-- A text that is read as a whole number gives one of at most `maxDigits` digits. -/
theorem natAbs_integer?_lt {cs : List Char} {n : Int} (h : integer? cs = some n) :
    n.natAbs < Nat.pow 10 maxDigits := by
  rw [integer?, readInteger] at h
  simp only at h
  split at h
  · exact absurd h (by simp [Except.toOption])
  · next ds hds =>
    split at h
    · exact absurd h (by simp [Except.toOption])
    · next hlength =>
      have hlt := ofDigits_lt (digitRun?_lt hds)
      have hpow : Nat.pow 10 ds.length ≤ Nat.pow 10 maxDigits :=
        natPow_le_natPow (by decide) (Nat.le_of_not_lt hlength)
      simp only [Except.toOption, Option.some.injEq] at h
      rw [← h]
      split <;> simp only [Int.natAbs_neg, Int.natAbs_natCast] <;> omega

end Transcripts.Numeral
