/-
  Transcripts/Proofs/Json/Plain.lean
  ==================================
  **Values of plain texts.**

  A value of plain texts is also one of texts of any other kind.  Among the values
  of raw texts these are the ones that can be written: no surrogate stops the
  encoding, and where it is not stopped there is none.
-/
import Mathlib.Data.Set.Operations
import Transcripts.Json.Writer
import Transcripts.Proofs.Collection.Fallible
import Transcripts.Proofs.Text.RawText

namespace Transcripts.Json

open Transcripts.Text

section Lift

variable {τ : Type} [Textual τ]

mutual

/-- A value of plain texts as one of texts of another kind. -/
def lift : Json → Json τ
  | .null => .null
  | .bool b => .bool b
  | .int n => .int n
  | .number x => .number x
  | .string s => .string (Textual.literal s)
  | .array items => .array (liftItems items)
  | .object fields => .object (liftFields fields)

def liftItems : List Json → List (Json τ)
  | [] => []
  | v :: vs => lift v :: liftItems vs

def liftFields : List (String × Json) → List (τ × Json τ)
  | [] => []
  | (name, v) :: fields => (Textual.literal name, lift v) :: liftFields fields

end

theorem liftItems_eq_map (vs : List Json) : liftItems vs = vs.map (lift : Json → Json τ) := by
  induction vs with
  | nil => rfl
  | cons v vs ih => rw [liftItems, ih, List.map_cons]

theorem liftFields_eq_map (fields : List (String × Json)) :
    liftFields fields =
      fields.map fun field => ((Textual.literal field.1 : τ), (lift field.2 : Json τ)) := by
  induction fields with
  | nil => rfl
  | cons field fields ih => rw [liftFields, ih, List.map_cons]

theorem liftFields_append (fields fields' : List (String × Json)) :
    liftFields (fields ++ fields') =
      (liftFields fields ++ liftFields fields' : List (τ × Json τ)) := by
  simp only [liftFields_eq_map, List.map_append]

/-! ### What a value of plain texts is made of -/

theorem mem_range_literal_of_string {t : τ} (h : Json.string t ∈ Set.range (lift : Json → Json τ)) :
    t ∈ Set.range (Textual.literal : String → τ) := by
  obtain ⟨w, hw⟩ := h
  cases w with
  | string s => exact ⟨s, Json.string.inj hw⟩
  | null | bool | int | number | array | object => exact absurd hw nofun

theorem mem_range_lift_of_array {items : List (Json τ)}
    (h : Json.array items ∈ Set.range (lift : Json → Json τ)) :
    ∀ v ∈ items, v ∈ Set.range (lift : Json → Json τ) := by
  obtain ⟨w, hw⟩ := h
  cases w with
  | array ws =>
    rw [← Json.array.inj hw, liftItems_eq_map]
    exact List.forall_mem_map.mpr fun w _ => ⟨w, rfl⟩
  | null | bool | int | number | string | object => exact absurd hw nofun

theorem mem_range_lift_of_object {fields : List (τ × Json τ)}
    (h : Json.object fields ∈ Set.range (lift : Json → Json τ)) :
    ∀ field ∈ fields, field.1 ∈ Set.range (Textual.literal : String → τ) ∧
      field.2 ∈ Set.range (lift : Json → Json τ) := by
  obtain ⟨w, hw⟩ := h
  cases w with
  | object ws =>
    rw [← Json.object.inj hw, liftFields_eq_map]
    exact List.forall_mem_map.mpr fun w _ => ⟨⟨w.1, rfl⟩, w.2, rfl⟩
  | null | bool | int | number | string | array => exact absurd hw nofun

end Lift

/-! ### Values of plain texts stay as they are -/

mutual

@[simp] theorem lift_plain : ∀ v : Json, (lift v : Json) = v
  | .null | .bool _ | .int _ | .number _ | .string _ => rfl
  | .array items => by rw [lift, liftItems_plain]
  | .object fields => by rw [lift, liftFields_plain]

theorem liftItems_plain : ∀ vs : List Json, (liftItems vs : List Json) = vs
  | [] => rfl
  | v :: vs => by rw [liftItems, lift_plain, liftItems_plain]

theorem liftFields_plain : ∀ fields : List (String × Json),
    (liftFields fields : List (String × Json)) = fields
  | [] => rfl
  | (name, v) :: fields => by rw [liftFields, lift_plain, liftFields_plain, Textual.literal_string]

end

/-! ### They can be written -/

theorem encodePoints_char (position : Nat) (cs : List Char) :
    encodePoints position (cs.map .char) = .ok cs := by
  induction cs generalizing position with
  | nil => rfl
  | cons c cs ih =>
    rw [List.map_cons, encodePoints, ih]
    rfl

theorem encodeText_literal (position : Nat) (s : String) :
    encodeText position (Textual.literal s) = .ok s := by
  rw [encodeText, show (Textual.literal s : RawText).points = s.toList.map .char from rfl,
    encodePoints_char]
  exact congrArg Except.ok String.ofList_toList

mutual

/-- A value of plain texts is written as it is. -/
theorem encodeAt_lift (indent position : Nat) : ∀ v : Json, encodeAt indent position v.lift = .ok v
  | .null | .bool _ | .int _ | .number _ => rfl
  | .string s => by
    rw [lift, encodeAt, encodeText_literal]
    rfl
  | .array items => by
    rw [lift, encodeAt, encodeItems_lift]
    rfl
  | .object fields => by
    rw [lift, encodeAt, encodeFields_lift]
    rfl

theorem encodeItems_lift (indent : Nat) : ∀ vs : List Json, encodeItems indent (liftItems vs) = .ok vs
  | [] => rfl
  | v :: vs => by
    rw [liftItems, encodeItems, encodeAt_lift, encodeItems_lift]
    rfl

theorem encodeFields_lift (indent : Nat) : ∀ fields : List (String × Json),
    encodeFields indent (liftFields fields) = .ok fields
  | [] => rfl
  | (name, v) :: fields => by
    rw [liftFields, encodeFields, encodeText_literal, encodeAt_lift, encodeFields_lift]
    rfl

end

theorem encode_lift (v : Json) : encode v.lift = .ok v := encodeAt_lift 0 0 v

/-! ### Nothing else can -/

theorem eq_map_char_of_encodePoints {position : Nat} {ps : List CodePoint} {cs : List Char}
    (h : encodePoints position ps = .ok cs) : ps = cs.map .char := by
  induction ps generalizing position cs with
  | nil => rw [← Except.ok.inj h, List.map_nil]
  | cons p ps ih =>
    cases p with
    | char c =>
      obtain ⟨ds, hrest, h⟩ := exists_of_bind_eq_ok h
      rw [← Except.ok.inj h, List.map_cons, ← ih hrest]
    | surrogate place => exact absurd h nofun

theorem eq_literal_of_encodeText {position : Nat} {t : RawText} {s : String}
    (h : encodeText position t = .ok s) : t = Textual.literal s := by
  obtain ⟨cs, hpoints, h⟩ := exists_of_bind_eq_ok h
  have hpoints' : t.points = (String.ofList cs).toList.map .char := by
    rw [String.toList_ofList]
    exact eq_map_char_of_encodePoints hpoints
  rw [← Except.ok.inj h]
  exact congrArg RawText.mk hpoints'

mutual

theorem eq_lift_of_encodeAt {indent position : Nat} : ∀ {v : Json RawText} {w : Json},
    encodeAt indent position v = .ok w → v = w.lift
  | .null, _, h | .bool _, _, h | .int _, _, h | .number _, _, h => by
    rw [← Except.ok.inj h]
    rfl
  | .string t, w, h => by
    obtain ⟨s, htext, h⟩ := exists_of_bind_eq_ok h
    rw [← Except.ok.inj h, lift, ← eq_literal_of_encodeText htext]
  | .array items, w, h => by
    obtain ⟨ws, hitems, h⟩ := exists_of_bind_eq_ok h
    rw [← Except.ok.inj h, lift, ← eq_liftItems_of_encodeItems hitems]
  | .object fields, w, h => by
    obtain ⟨ws, hfields, h⟩ := exists_of_bind_eq_ok h
    rw [← Except.ok.inj h, lift, ← eq_liftFields_of_encodeFields hfields]

theorem eq_liftItems_of_encodeItems {indent : Nat} : ∀ {vs : List (Json RawText)} {ws : List Json},
    encodeItems indent vs = .ok ws → vs = liftItems ws
  | [], _, h => by
    rw [← Except.ok.inj h, liftItems]
  | v :: vs, _, h => by
    obtain ⟨w, hfirst, h⟩ := exists_of_bind_eq_ok h
    obtain ⟨ws, hrest, h⟩ := exists_of_bind_eq_ok h
    rw [← Except.ok.inj h, liftItems, ← eq_lift_of_encodeAt hfirst,
      ← eq_liftItems_of_encodeItems hrest]

theorem eq_liftFields_of_encodeFields {indent : Nat} :
    ∀ {fields : List (RawText × Json RawText)} {ws : List (String × Json)},
      encodeFields indent fields = .ok ws → fields = liftFields ws
  | [], _, h => by
    rw [← Except.ok.inj h, liftFields]
  | (name, v) :: fields, _, h => by
    obtain ⟨name', hname, h⟩ := exists_of_bind_eq_ok h
    obtain ⟨w, hfirst, h⟩ := exists_of_bind_eq_ok h
    obtain ⟨ws, hrest, h⟩ := exists_of_bind_eq_ok h
    rw [← Except.ok.inj h, liftFields, ← eq_literal_of_encodeText hname,
      ← eq_lift_of_encodeAt hfirst, ← eq_liftFields_of_encodeFields hrest]

end

/-- The values that can be written are those of plain texts. -/
theorem encode_eq_ok_iff {v : Json RawText} {w : Json} : encode v = .ok w ↔ v = w.lift :=
  ⟨eq_lift_of_encodeAt, fun h => h ▸ encode_lift w⟩

end Transcripts.Json
