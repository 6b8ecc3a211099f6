/-
  Transcripts/Proofs/Json/Reading.lean
  ====================================
  **What the reader gives.**

  Whatever text is read, the value that comes out is nested no deeper than
  allowed, its objects have distinct names, and its numbers are no larger than a
  whole number may be.  None of this depends on the text being written by the
  writer.
-/
import Transcripts.Proofs.Collection.Fallible
import Transcripts.Proofs.Json.RoundTrip
import Transcripts.Proofs.Numeral.Magnitude

namespace Transcripts

namespace Json

open Transcripts.Numeral
open Transcripts.Text

variable {τ : Type}

/-- A value as the reader gives it. -/
abbrev Regular (depth : Nat) (v : Json τ) : Prop := v.Within Binary64.TruncatesInLimits depth

/-! ### Scalars -/

theorem regular_int {n : Int} (hn : FitsDigits n) (depth : Nat) :
    (Json.int n : Json τ).Regular depth := by
  cases depth <;> exact hn

theorem regular_number {x : Binary64} (hx : x.TruncatesInLimits) (depth : Nat) :
    (Json.number x : Json τ).Regular depth := by
  cases depth <;> exact hx

theorem fitsDigits_of_regular {n : Int} {depth : Nat} (h : (Json.int n : Json τ).Regular depth) :
    FitsDigits n := by
  cases depth <;> exact h

theorem truncatesInLimits_of_regular {x : Binary64} {depth : Nat}
    (h : (Json.number x : Json τ).Regular depth) : x.TruncatesInLimits := by
  cases depth <;> exact h

theorem regular_items {items : List (Json τ)} {depth : Nat} (h : (Json.array items).Regular depth) :
    ∃ depth, ∀ v ∈ items, v.Regular depth := by
  cases depth with
  | zero => exact h.elim
  | succ depth => exact ⟨depth, h⟩

theorem regular_fields {fields : List (τ × Json τ)} {depth : Nat}
    (h : (Json.object fields).Regular depth) :
    ∃ depth, (fields.map Prod.fst).Nodup ∧ ∀ field ∈ fields, field.2.Regular depth := by
  cases depth with
  | zero => exact h.elim
  | succ depth => exact ⟨depth, h⟩

theorem digitsValue_lt {ds : List Char} (h : ∀ c ∈ ds, isDigitChar c = true) :
    digitsValue ds < Nat.pow 10 ds.length := by
  have hvalue : ∀ d ∈ ds.map (fun c => c.toNat - 0x30), d < 10 := by
    intro d hd
    obtain ⟨c, hc, rfl⟩ := List.mem_map.mp hd
    have hdigit := h c hc
    simp only [isDigitChar, Bool.and_eq_true, decide_eq_true_eq] at hdigit
    have hle : c.toNat ≤ 0x39 := Char.le_def.mp hdigit.2
    omega
  simpa [digitsValue] using ofDigits_lt hvalue

theorem wholePart?_digits {cs whole rest : List Char} (h : wholePart? cs = some (whole, rest)) :
    ∀ c ∈ whole, isDigitChar c = true := by
  unfold wholePart? at h
  split at h
  · simp only [Option.some.injEq, Prod.mk.injEq] at h
    rw [← h.1]
    exact List.all_eq_true.mp (by decide)
  · split at h
    · exact absurd h (by simp)
    · simp only [spanDigits, Option.some.injEq, Prod.mk.injEq] at h
      rw [← h.1]
      exact List.all_eq_true.mp List.all_takeWhile

theorem readNumber_regular {negative : Bool} {cs rest : List Char} {v : Json τ}
    (h : readNumber negative cs = some (.ok v, rest)) (depth : Nat) : v.Regular depth := by
  simp only [readNumber, Option.bind_eq_bind, Option.pure_def, Option.bind_eq_some_iff,
    Option.some.injEq, Prod.mk.injEq] at h
  obtain ⟨⟨whole, rest⟩, hwhole, hvalue, -⟩ := h
  split at hvalue
  · split at hvalue
    · exact absurd hvalue (by simp)
    · next hlength =>
      have hlt := digitsValue_lt (wholePart?_digits hwhole)
      have hpow : Nat.pow 10 whole.length ≤ Nat.pow 10 maxDigits :=
        natPow_le_natPow (by decide) (Nat.le_of_not_lt hlength)
      rw [← Except.ok.inj hvalue]
      refine regular_int (fitsDigits_iff.mpr ?_) depth
      split <;> simp only [Int.natAbs_neg, Int.natAbs_natCast] <;> omega
  · rw [← Except.ok.inj hvalue]
    exact regular_number (Binary64.ofDecimal_truncatesInLimits _ _ _) depth

theorem namedValue_regular {entry : List Char × Json τ} (h : entry ∈ namedValues) (depth : Nat) :
    entry.2.Regular depth := by
  simp only [namedValues, List.mem_cons, List.not_mem_nil, or_false] at h
  rcases h with rfl | rfl | rfl | rfl | rfl | rfl
  · cases depth <;> trivial
  · cases depth <;> trivial
  · cases depth <;> trivial
  all_goals exact regular_number (fun _ _ _ h => by simp at h) depth

theorem readScalar_regular {cs rest : List Char} {v : Json τ} (h : readScalar cs = .ok (v, rest))
    (depth : Nat) : v.Regular depth := by
  unfold readScalar at h
  split at h
  · next name v' hfound =>
    obtain ⟨rfl, -⟩ := Prod.mk.inj (Except.ok.inj h)
    exact namedValue_regular (List.mem_of_find?_eq_some hfound) depth
  · simp only at h
    split at h
    · next value rest' hnumber =>
      cases value with
      | error halt => exact absurd h (by simp [Except.map])
      | ok v' =>
        simp only [Except.map, Except.ok.injEq, Prod.mk.injEq] at h
        rw [← h.1]
        split at hnumber <;> exact readNumber_regular hnumber depth
    · exact absurd h (by simp)

/-! ### Containers -/

section Parts

variable {one : List Char → Except Halt (Json τ × List Char)} {P : Json τ → Prop}

theorem readItems_all (hone : ∀ {cs v rest}, one cs = .ok (v, rest) → P v) {limit : Nat}
    {cs rest : List Char} {vs : List (Json τ)} (h : readItems one limit cs = .ok (vs, rest)) :
    ∀ v ∈ vs, P v := by
  induction limit generalizing cs vs rest with
  | zero => exact absurd h (by simp [readItems])
  | succ limit ih =>
    rw [readItems] at h
    obtain ⟨⟨v, rest'⟩, hv, h⟩ := exists_of_bind_eq_ok h
    simp only at h
    split at h
    · obtain ⟨rfl, -⟩ := Prod.mk.inj (Except.ok.inj h)
      exact List.forall_mem_singleton.mpr (hone hv)
    · obtain ⟨⟨vs', rest''⟩, hvs, h⟩ := exists_of_bind_eq_ok h
      obtain ⟨rfl, -⟩ := Prod.mk.inj (Except.ok.inj h)
      exact List.forall_mem_cons.mpr ⟨hone hv, ih hvs⟩
    · exact absurd h (by simp [throw, throwThe, MonadExceptOf.throw])

theorem readField_all [Textual τ] (hone : ∀ {cs v rest}, one cs = .ok (v, rest) → P v)
    {cs rest : List Char} {field : τ × Json τ} (h : readField one cs = .ok (field, rest)) :
    P field.2 := by
  unfold readField at h
  split at h
  · obtain ⟨⟨name, rest'⟩, _, h⟩ := exists_of_bind_eq_ok h
    simp only at h
    split at h
    · obtain ⟨⟨v, rest''⟩, hv, h⟩ := exists_of_bind_eq_ok h
      obtain ⟨rfl, -⟩ := Prod.mk.inj (Except.ok.inj h)
      exact hone hv
    · exact absurd h (by simp [throw, throwThe, MonadExceptOf.throw])
  · exact absurd h (by simp)

theorem readFields_all [Textual τ] (hone : ∀ {cs v rest}, one cs = .ok (v, rest) → P v) {limit : Nat}
    {cs rest : List Char} {fields : List (τ × Json τ)}
    (h : readFields one limit cs = .ok (fields, rest)) : ∀ field ∈ fields, P field.2 := by
  induction limit generalizing cs fields rest with
  | zero => exact absurd h (by simp [readFields])
  | succ limit ih =>
    rw [readFields] at h
    obtain ⟨⟨field, rest'⟩, hfield, h⟩ := exists_of_bind_eq_ok h
    simp only at h
    split at h
    · obtain ⟨rfl, -⟩ := Prod.mk.inj (Except.ok.inj h)
      exact List.forall_mem_singleton.mpr (readField_all hone hfield)
    · obtain ⟨⟨fields', rest''⟩, hfields, h⟩ := exists_of_bind_eq_ok h
      obtain ⟨rfl, -⟩ := Prod.mk.inj (Except.ok.inj h)
      exact List.forall_mem_cons.mpr ⟨readField_all hone hfield, ih hfields⟩
    · exact absurd h (by simp [throw, throwThe, MonadExceptOf.throw])

end Parts

variable [DecidableEq τ] [Textual τ]

theorem readValue_regular {depth : Nat} {cs rest : List Char} {v : Json τ}
    (h : readValue depth cs = .ok (v, rest)) : v.Regular depth := by
  induction depth using Nat.strongRecOn generalizing cs v rest with
  | ind depth ih =>
    -- the cases are those of the reader, which reads what is inside with less depth
    fun_induction readValue (τ := τ) depth cs with
    | case1 depth cs =>
      obtain ⟨⟨s, rest'⟩, _, h⟩ := exists_of_bind_eq_ok h
      obtain ⟨rfl, -⟩ := Prod.mk.inj (Except.ok.inj h)
      cases depth <;> trivial
    | case2 | case3 => exact absurd h (by simp)
    | case4 depth cs rest' hclose =>
      obtain ⟨rfl, -⟩ := Prod.mk.inj (Except.ok.inj h)
      exact fun _ hmem => absurd hmem List.not_mem_nil
    | case5 depth cs hopen =>
      obtain ⟨⟨items, rest'⟩, hitems, h⟩ := exists_of_bind_eq_ok h
      obtain ⟨rfl, -⟩ := Prod.mk.inj (Except.ok.inj h)
      exact readItems_all (ih depth (Nat.lt_succ_self depth)) hitems
    | case6 depth cs rest' hclose =>
      obtain ⟨rfl, -⟩ := Prod.mk.inj (Except.ok.inj h)
      exact ⟨List.nodup_nil, fun _ hmem => absurd hmem List.not_mem_nil⟩
    | case7 depth cs hopen =>
      obtain ⟨⟨fields, rest'⟩, hfields, h⟩ := exists_of_bind_eq_ok h
      obtain ⟨rfl, -⟩ := Prod.mk.inj (Except.ok.inj h)
      exact ⟨Keyed.nodup_keys_ofPairs fields,
        Keyed.values_ofPairs (readFields_all (ih depth (Nat.lt_succ_self depth)) hfields)⟩
    | case8 => exact readScalar_regular h _

/-- **What the reader gives.**  Whatever text is read, its value is regular. -/
theorem read_regular {cs : List Char} {v : Json τ} (h : read cs = .ok v) : v.Regular maxNesting := by
  have hdocument : readDocument cs = .ok v := by
    rw [read] at h
    cases hread : (readDocument cs : Except Halt (Json τ)) with
    | error halt =>
      rw [hread] at h
      cases h
    | ok w =>
      rw [hread] at h
      rw [Except.ok.inj h]
  rw [readDocument] at hdocument
  split at hdocument
  · exact absurd hdocument (by simp [throw, throwThe, MonadExceptOf.throw, bind, Except.bind])
  · obtain ⟨⟨w, rest⟩, hvalue, hrest⟩ := exists_of_bind_eq_ok hdocument
    simp only at hrest
    split at hrest
    · rw [← Except.ok.inj hrest]
      exact readValue_regular hvalue
    · exact absurd hrest (by simp [throw, throwThe, MonadExceptOf.throw])

end Json

end Transcripts
