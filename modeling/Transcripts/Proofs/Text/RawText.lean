/-
  Transcripts/Proofs/Text/RawText.lean
  ====================================
  **What all kinds of texts have in common.**

  Every kind of texts holds the plain ones: they come from the same code points,
  are shown as themselves and stand in the same order.  Raw texts are in a linear
  order, as plain ones are, so sets of them have a normal form too.
-/
import Mathlib.Data.List.Basic
import Transcripts.Text.RawText

namespace Transcripts.Text

/-! ### The order of raw texts -/

/-- No character has the value of a surrogate. -/
theorem CodePoint.value_injective : Function.Injective CodePoint.value := by
  have hne (c : Char) (place : Fin 0x800) : c.toNat ≠ firstSurrogate + place.val := by
    have hvalid : c.toNat < 0xD800 ∨ 0xDFFF < c.toNat ∧ c.toNat < 0x110000 := c.valid
    have hplace := place.isLt
    rw [firstSurrogate]
    omega
  intro p q h
  cases p with
  | char c =>
    cases q with
    | char d => exact congrArg CodePoint.char (Char.toNat_inj.mp h)
    | surrogate place => exact absurd h (hne c place)
  | surrogate place =>
    cases q with
    | char d => exact absurd h.symm (hne d place)
    | surrogate place' => exact congrArg CodePoint.surrogate (Fin.ext (Nat.add_left_cancel h))

namespace RawText

theorem lt_iff {s t : RawText} :
    s < t ↔ s.points.map CodePoint.value < t.points.map CodePoint.value := Iff.rfl

instance instAsymm : Std.Asymm ((· < ·) : RawText → RawText → Prop) where
  asymm _ _ h := List.lt_asymm (lt_iff.mp h)

instance instTrans : Trans ((· < ·) : RawText → RawText → Prop) (· < ·) (· < ·) where
  trans h h' := lt_iff.mpr (List.lt_trans (lt_iff.mp h) (lt_iff.mp h'))

instance instTrichotomous : Std.Trichotomous ((· < ·) : RawText → RawText → Prop) where
  trichotomous s t hst hts := by
    have hvalues : s.points.map CodePoint.value = t.points.map CodePoint.value :=
      Std.Trichotomous.trichotomous (r := (· < ·)) _ _ hst hts
    cases s
    cases t
    exact congrArg RawText.mk (CodePoint.value_injective.list_map hvalues)

end RawText

/-! ### Plain texts of each kind -/

/-- A kind of texts that holds the plain ones as what they are. -/
class LawfulTextual (τ : Type) [LT τ] [Textual τ] : Prop where
  ofPoints_char (cs : List Char) :
    Textual.ofPoints (cs.map .char) = (Textual.literal (.ofList cs) : τ)
  shown_literal (s : String) : Textual.shown (Textual.literal s : τ) = s
  isEmpty_iff (t : τ) : Textual.isEmpty t = true ↔ t = Textual.literal ""
  literal_lt_iff (s t : String) : (Textual.literal s : τ) < Textual.literal t ↔ s < t

namespace Textual

instance instLawfulString : LawfulTextual String where
  ofPoints_char cs := by simp [ofPoints, List.map_map, Function.comp_def, CodePoint.shown]
  shown_literal _ := rfl
  isEmpty_iff t := by simp
  literal_lt_iff _ _ := Iff.rfl

theorem literal_eq_id : (literal : String → String) = id := rfl

theorem map_char_lt_iff (cs ds : List Char) :
    (cs.map CodePoint.char).map CodePoint.value < (ds.map CodePoint.char).map CodePoint.value ↔
      cs < ds := by
  induction cs generalizing ds with
  | nil => cases ds <;> simp
  | cons c cs ih =>
    cases ds with
    | nil => simp
    | cons d ds =>
      simp only [List.map_cons, List.cons_lt_cons_iff, ih, CodePoint.value, Char.toNat_inj]
      rfl

instance instLawfulRawText : LawfulTextual RawText where
  ofPoints_char cs := by simp [ofPoints, literal]
  shown_literal s := by simp [shown, literal, List.map_map, Function.comp_def, CodePoint.shown]
  isEmpty_iff t := by
    cases t
    simp [isEmpty, literal]
  literal_lt_iff s t := RawText.lt_iff.trans (map_char_lt_iff s.toList t.toList)

section Laws

variable {τ : Type} [LT τ] [Textual τ] [LawfulTextual τ]

theorem literal_injective : Function.Injective (literal : String → τ) :=
  Function.LeftInverse.injective (g := shown) LawfulTextual.shown_literal

@[simp] theorem literal_inj {s t : String} : (literal s : τ) = literal t ↔ s = t :=
  literal_injective.eq_iff

@[simp] theorem literal_beq [DecidableEq τ] (s t : String) :
    ((literal s : τ) == literal t) = (s == t) := by
  rw [Bool.eq_iff_iff, beq_iff_eq, beq_iff_eq, literal_inj]

@[simp] theorem isEmpty_literal (s : String) : isEmpty (literal s : τ) = s.isEmpty := by
  rw [Bool.eq_iff_iff, LawfulTextual.isEmpty_iff, literal_inj, String.isEmpty_iff]

end Laws

end Textual

end Transcripts.Text
