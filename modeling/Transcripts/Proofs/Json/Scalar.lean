/-
  Transcripts/Proofs/Json/Scalar.lean
  ===================================
  **Texts and whole numbers are read as they were written.**

  A text ends at its closing quote, whatever stands behind it, because the
  writer escapes every quote inside.  A whole number has no end of its own: it is
  read back only if what stands behind it does not continue it as a number.
-/
import Transcripts.Json.Reader
import Transcripts.Json.Writer
import Transcripts.Proofs.Text.RawText

namespace Transcripts.Json

open Transcripts.Numeral
open Transcripts.Text

/-! ### Texts -/

theorem hexNumber?_hexDigits : ∀ n < 0x20, hexNumber? (hexDigits 4 n) = some n := by decide

theorem length_hexDigits (width n : Nat) : (hexDigits width n).length = width := by
  induction width generalizing n with
  | zero => rfl
  | succ width ih => rw [hexDigits, List.length_append, ih, List.length_singleton]

theorem codeUnit?_hexDigits {n : Nat} (hn : n < 0x20) (d : Char) (rest : List Char) :
    codeUnit? (hexDigits 4 n ++ d :: rest) = some (n, d :: rest) := by
  have hlength := length_hexDigits 4 n
  rw [codeUnit?, if_neg (by simp [hlength]), List.take_left' hlength, List.drop_left' hlength,
    hexNumber?_hexDigits n hn]
  rfl

theorem readEscape_code (start : Nat) {n : Nat} (hn : n < 0x20) (d : Char) (rest : List Char) :
    readEscape start ('u' :: hexDigits 4 n ++ d :: rest) = .ok (.char (.ofNat n), d :: rest) := by
  rw [List.cons_append, readEscape, if_pos rfl, readCodeEscape, codeUnit?_hexDigits hn]
  simp only
  rw [if_neg (by omega), unitPoint, if_neg (by omega)]

theorem readEscape_simple {start : Nat} {c d : Char} (hcode : c ≠ 'u')
    (hd : simpleEscape? c = some d) (rest : List Char) :
    readEscape start (c :: rest) = .ok (.char d, rest) := by
  rw [readEscape, if_neg hcode, hd]

theorem readPoints_escape {start : Nat} {cs rest rest' : List Char} {p : CodePoint}
    {ps : List CodePoint} (hescape : readEscape start cs = .ok (p, rest))
    (hrest : readPoints start rest = .ok (ps, rest')) :
    readPoints start ('\\' :: cs) = .ok (p :: ps, rest') := by
  rw [readPoints, if_neg (by decide), if_pos rfl]
  split
  · next h => simp [hescape] at h
  · next h =>
    obtain ⟨rfl, rfl⟩ : _ ∧ _ := by simpa [hescape] using h.symm
    rw [hrest]
    rfl

theorem readPoints_plain {start : Nat} {c : Char} {cs rest : List Char} {ps : List CodePoint}
    (hquote : c ≠ '"') (hescape : c ≠ '\\') (hcontrol : ¬ c.toNat < 0x20)
    (hrest : readPoints start cs = .ok (ps, rest)) :
    readPoints start (c :: cs) = .ok (.char c :: ps, rest) := by
  rw [readPoints, if_neg hquote, if_neg hescape, if_neg hcontrol, hrest]
  rfl

/-- A character is read as it was written if something stands behind it. -/
theorem readPoints_escapeChar {start : Nat} (c : Char) {d : Char} {cs rest : List Char}
    {ps : List CodePoint} (hrest : readPoints start (d :: cs) = .ok (ps, rest)) :
    readPoints start (escapeChar c ++ d :: cs) = .ok (.char c :: ps, rest) := by
  have simple {e : Char} (he : e ≠ 'u') (hc : simpleEscape? e = some c) :
      readPoints start (['\\', e] ++ d :: cs) = .ok (.char c :: ps, rest) :=
    readPoints_escape (readEscape_simple he hc _) hrest
  rw [escapeChar]
  -- the seven characters that have an escape of their own
  iterate 7
    split
    · next h => subst h; exact simple (by decide) (by decide)
  split
  · next h =>
    have hescape := readEscape_code start h d cs
    rw [Char.ofNat_toNat] at hescape
    exact readPoints_escape hescape hrest
  · next hquote hescape _ _ _ _ _ hcontrol => exact readPoints_plain hquote hescape hcontrol hrest

/-- The characters of a text are read as they were written. -/
theorem readPoints_written (start : Nat) (cs rest : List Char) :
    readPoints start (cs.flatMap escapeChar ++ '"' :: rest) = .ok (cs.map .char, rest) := by
  induction cs with
  | nil => rw [List.flatMap_nil, List.nil_append, readPoints, if_pos rfl, List.map_nil]
  | cons c cs ih =>
    obtain ⟨d, tail, htail⟩ : ∃ d tail, cs.flatMap escapeChar ++ '"' :: rest = d :: tail :=
      List.exists_cons_of_ne_nil (by simp)
    rw [List.flatMap_cons, List.append_assoc, htail]
    exact readPoints_escapeChar c (htail ▸ ih)

variable {τ : Type}

theorem readString_writeString [LT τ] [Textual τ] [LawfulTextual τ] (s : String) (rest : List Char) :
    readString (s.toList.flatMap escapeChar ++ '"' :: rest) =
      .ok ((Textual.literal s : τ), rest) := by
  rw [readString, readPoints_written]
  simp [bind, Except.bind, pure, Except.pure, LawfulTextual.ofPoints_char]

theorem return_not_mem_escapeChar (c : Char) : '\r' ∉ escapeChar c := by
  have hhex : ∀ n < 0x20, '\r' ∉ hexDigits 4 n := by decide
  rw [escapeChar]
  iterate 7
    split
    · decide
  split
  · next h => simpa using hhex _ h
  · next hreturn _ _ _ _ => simpa using Ne.symm hreturn

/-! ### Whole numbers -/

/-- Whether a whole number has no more digits than the reader takes. -/
def FitsDigits (n : Int) : Prop := (Nat.toDigits 10 n.natAbs).length ≤ maxDigits

instance (n : Int) : Decidable (FitsDigits n) :=
  inferInstanceAs (Decidable ((Nat.toDigits 10 n.natAbs).length ≤ maxDigits))

theorem fitsDigits_iff {n : Int} : FitsDigits n ↔ n.natAbs < Nat.pow 10 maxDigits := by
  have hpos : 0 < maxDigits := by decide
  rw [FitsDigits, Nat.length_toDigits_le_iff (by decide) hpos, Nat.pow_eq]

/-- Whether a text does not continue a number that stands in front of it. -/
def EndsNumber (rest : List Char) : Prop :=
  ∀ c ∈ rest.head?, isDigitChar c = false ∧ c ≠ '.' ∧ c ≠ 'e' ∧ c ≠ 'E'

theorem endsNumber_cons {c : Char} (hc : isDigitChar c = false ∧ c ≠ '.' ∧ c ≠ 'e' ∧ c ≠ 'E')
    (rest : List Char) : EndsNumber (c :: rest) := by
  intro d hd
  obtain rfl : c = d := by simpa using hd
  exact hc

theorem isDigitChar_of_mem_toDigits {n : Nat} {c : Char} (h : c ∈ Nat.toDigits 10 n) :
    isDigitChar c = true := by
  have hdigit : c.isDigit = true := Nat.isDigit_of_mem_toDigits (by decide) (by decide) h
  simpa [isDigitChar, Char.isDigit, Char.le_def] using hdigit

theorem toDigits_head (n : Nat) :
    ∃ c cs, Nat.toDigits 10 n = c :: cs ∧ isDigitChar c = true := by
  obtain ⟨c, cs, hdigits⟩ : ∃ c cs, Nat.toDigits 10 n = c :: cs :=
    List.exists_cons_of_ne_nil Nat.toDigits_ne_nil
  refine ⟨c, cs, hdigits, isDigitChar_of_mem_toDigits (n := n) ?_⟩
  rw [hdigits]
  exact List.mem_cons_self

theorem digitsValue_toDigits (n : Nat) : digitsValue (Nat.toDigits 10 n) = n := by
  have h := Nat.ofDigitChars_ten_toDigits (n := n)
  rw [Nat.ofDigitChars_eq_foldl] at h
  rw [digitsValue, ofDigits, List.foldl_map]
  simp only [Nat.mul_comm _ 10]
  exact h

/-- Only zero is written with a zero in front. -/
theorem toDigits_zero_or_head (n : Nat) :
    Nat.toDigits 10 n = ['0'] ∨ ∃ c cs, Nat.toDigits 10 n = c :: cs ∧ c ≠ '0' := by
  induction n using Nat.strongRecOn with
  | ind n ih =>
    by_cases hlt : n < 10
    · rw [Nat.toDigits_of_lt_base hlt]
      by_cases hzero : n = 0
      · exact .inl (by rw [hzero]; rfl)
      · have hhead : ∀ k < 10, k ≠ 0 → Nat.digitChar k ≠ '0' := by decide
        exact .inr ⟨_, _, rfl, hhead n hlt hzero⟩
    · right
      rw [Nat.toDigits_of_base_le (by decide) (by omega)]
      rcases ih (n / 10) (by omega) with h | ⟨c, cs, h, hc⟩
      · have hzero : n / 10 = 0 := by
          rw [← digitsValue_toDigits (n / 10), h]
          rfl
        omega
      · exact ⟨c, _, by rw [h, List.cons_append], hc⟩

theorem spanDigits_append {ds rest : List Char} (hds : ∀ c ∈ ds, isDigitChar c = true)
    (hrest : ∀ c ∈ rest.head?, isDigitChar c = false) : spanDigits (ds ++ rest) = (ds, rest) := by
  rw [spanDigits, List.takeWhile_append_of_pos hds, List.dropWhile_append_of_pos hds]
  cases rest with
  | nil => simp
  | cons c cs =>
    have hc : ¬ isDigitChar c = true := by simpa using hrest c rfl
    rw [List.takeWhile_cons_of_neg hc, List.dropWhile_cons_of_neg hc, List.append_nil]

theorem wholePart?_toDigits {n : Nat} {rest : List Char}
    (hrest : ∀ c ∈ rest.head?, isDigitChar c = false) :
    wholePart? (Nat.toDigits 10 n ++ rest) = some (Nat.toDigits 10 n, rest) := by
  have hspan := spanDigits_append (fun _ h => isDigitChar_of_mem_toDigits (n := n) h) hrest
  -- the leading zero is a case of its own
  rcases toDigits_zero_or_head n with h | ⟨c, cs, h, hc⟩
  · rw [h]; rfl
  · rw [h, List.cons_append] at hspan ⊢
    rw [wholePart?.eq_2 _ (by simpa using hc), hspan]
    
theorem fractionPart?_none {rest : List Char} (h : ∀ c ∈ rest.head?, c ≠ '.') :
    fractionPart? rest = none := by
  cases rest with
  | nil => rfl
  | cons c cs =>
    have hc : c ≠ '.' := h c rfl
    rw [fractionPart?]
    simpa using hc

theorem exponentPart?_none {rest : List Char} (h : ∀ c ∈ rest.head?, c ≠ 'e' ∧ c ≠ 'E') :
    exponentPart? rest = none := by
  cases rest with
  | nil => rfl
  | cons c cs =>
    have hc : ¬ (c = 'e' ∨ c = 'E') := not_or.mpr (h c rfl)
    rw [exponentPart?, if_neg hc]

theorem readNumber_toDigits (negative : Bool) {n : Nat} {rest : List Char}
    (hn : (Nat.toDigits 10 n).length ≤ maxDigits) (hrest : EndsNumber rest) :
    readNumber negative (Nat.toDigits 10 n ++ rest) =
      some (.ok (.int (if negative then -(n : Int) else n) : Json τ), rest) := by
  have hwhole := wholePart?_toDigits (n := n) (fun c hc => (hrest c hc).1)
  have hfraction := fractionPart?_none fun c hc => (hrest c hc).2.1
  have hexponent := exponentPart?_none fun c hc => (hrest c hc).2.2
  rw [readNumber, hwhole]
  simp [hfraction, hexponent, Nat.not_lt.mpr hn, digitsValue_toDigits]

/-- No name of a value begins with a digit, nor with a minus and a digit. -/
theorem namedValues_find?_digit {c : Char} (hc : isDigitChar c = true) (cs : List Char) :
    ((namedValues (τ := τ)).find? fun (name, _) => begins name (c :: cs)) = none ∧
      ((namedValues (τ := τ)).find? fun (name, _) => begins name ('-' :: c :: cs)) = none := by
  have hne : ∀ d, isDigitChar d = false → (d == c) = false := by
    intro d hd
    rw [beq_eq_false_iff_ne]
    rintro rfl
    rw [hc] at hd
    contradiction
  constructor
  · simp [namedValues, begins, hne 'n' rfl, hne 't' rfl, hne 'f' rfl, hne 'N' rfl, hne 'I' rfl,
      hne '-' rfl]
  · simp [namedValues, begins, hne 'I' rfl]

theorem toList_toString (n : Int) :
    (toString n).toList = (if n < 0 then ['-'] else []) ++ Nat.toDigits 10 n.natAbs := by
  cases n with
  | ofNat k =>
    rw [if_neg (Int.not_lt.mpr (Int.natCast_nonneg k) : ¬ Int.ofNat k < 0), List.nil_append]
    exact Nat.toList_repr
  | negSucc k =>
    rw [if_pos (Int.negSucc_lt_zero k), Int.toString_eq_repr, Int.repr, String.toList_append,
      Nat.toList_repr]
    rfl

/-- A whole number is read as it was written, up to its end. -/
theorem readScalar_int {n : Int} {rest : List Char} (hn : FitsDigits n) (hrest : EndsNumber rest) :
    readScalar ((toString n).toList ++ rest) = .ok ((.int n : Json τ), rest) := by
  obtain ⟨c, cs, hdigits, hc⟩ := toDigits_head n.natAbs
  have hname := namedValues_find?_digit (τ := τ) hc (cs ++ rest)
  have hnumber := fun negative => readNumber_toDigits (τ := τ) negative hn hrest
  rw [toList_toString]
  rw [hdigits, List.cons_append] at hnumber
  split
  · next hneg =>
    have hvalue : -(n.natAbs : Int) = n := by omega
    rw [hdigits, List.append_assoc, List.singleton_append, List.cons_append, readScalar, hname.2]
    simp only [hnumber, if_true, hvalue]
    rfl
  · next hpos =>
    have hvalue : (n.natAbs : Int) = n := by omega
    have hminus : c ≠ '-' := by
      rintro rfl
      exact absurd hc (by decide)
    rw [hdigits, List.nil_append, List.cons_append, readScalar, hname.1]
    · simp only [hnumber, Bool.false_eq_true, if_false, hvalue]
      rfl
    · intro _ h
      exact hminus (List.cons.inj h).1

end Transcripts.Json
