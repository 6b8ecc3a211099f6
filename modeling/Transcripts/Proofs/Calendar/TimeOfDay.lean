/-
  Transcripts/Proofs/Calendar/TimeOfDay.lean
  ==========================================
  **A range of times is an arc of the clock.**

  Times are compared as text, and a range whose start is later than its end is taken
  to run past midnight.  Written with both digits, texts are ordered as minutes of the
  day are (`text_le_iff`): the first digit in which two times differ decides, and the
  colons, at the same place in both, decide nothing.  So both kinds of ranges are one,
  the arc that the clock goes through from the start to the end.
-/
import Transcripts.Calendar.Clock
import Transcripts.Calendar.Date

namespace Transcripts.Calendar

/-- A minute of the day. -/
structure TimeOfDay where
  hour : Fin 24
  minute : Fin 60
deriving DecidableEq, Repr

namespace TimeOfDay

/-- The minutes since midnight. -/
def minutes (t : TimeOfDay) : Nat := t.hour * 60 + t.minute

/-- A time as `HH:MM`. -/
def text (t : TimeOfDay) : String := Date.padded 2 t.hour ++ ":" ++ Date.padded 2 t.minute

/-- A time as `HH:MM`, or as `HH:MM:SS` if it has seconds. -/
def textWith (t : TimeOfDay) : Option (Fin 60) → String
  | none => t.text
  | some second => t.text ++ ":" ++ Date.padded 2 second

/-- A clock that is started at one time comes to another no later than to a third. -/
def OnArc (start stop t : TimeOfDay) : Prop :=
  ((t.minutes : Int) - start.minutes) % 1440 ≤ ((stop.minutes : Int) - start.minutes) % 1440

theorem minutes_lt (t : TimeOfDay) : t.minutes < 1440 := by
  have hhour := t.hour.isLt
  have hminute := t.minute.isLt
  rw [minutes]
  omega

/-! ### Times as texts -/

theorem digitChar_lt_iff : ∀ a < 10, ∀ b < 10, a.digitChar < b.digitChar ↔ a < b := by decide

theorem digitChar_eq_iff : ∀ a < 10, ∀ b < 10, a.digitChar = b.digitChar ↔ a = b := by decide

theorem toList_padded {n : Nat} (h : n < 100) :
    (Date.padded 2 n).toList = [(n / 10).digitChar, (n % 10).digitChar] := by
  rw [Date.padded, String.toList_ofList]
  by_cases hone : n < 10
  · rw [Nat.toDigits_of_lt_base hone, Nat.div_eq_of_lt hone, Nat.mod_eq_of_lt hone]
    rfl
  · have hten : n / 10 < 10 := by omega
    rw [Nat.toDigits_of_base_le (by decide) (by omega), Nat.toDigits_of_lt_base hten]
    rfl

theorem toList_text (t : TimeOfDay) :
    t.text.toList = [(t.hour / 10 : Nat).digitChar, (t.hour % 10 : Nat).digitChar, ':',
      (t.minute / 10 : Nat).digitChar, (t.minute % 10 : Nat).digitChar] := by
  have hhour := t.hour.isLt
  have hminute := t.minute.isLt
  rw [text, String.toList_append, String.toList_append, toList_padded (by omega),
    toList_padded (by omega)]
  rfl

/-- Of two times the one with the smaller digit, where they first differ, is the earlier. -/
theorem text_lt_iff (s t : TimeOfDay) : s.text < t.text ↔ s.minutes < t.minutes := by
  have hs := s.hour.isLt
  have hs' := s.minute.isLt
  have ht := t.hour.isLt
  have ht' := t.minute.isLt
  show List.Lex (fun a b : Char => a < b) s.text.toList t.text.toList ↔ _
  rw [toList_text, toList_text]
  simp only [List.cons_lex_cons_iff, List.not_lex_nil, Char.lt_irrefl, true_and, false_or, and_false,
    or_false, minutes]
  rw [digitChar_lt_iff _ (by omega) _ (by omega), digitChar_lt_iff _ (by omega) _ (by omega),
    digitChar_lt_iff _ (by omega) _ (by omega), digitChar_lt_iff _ (by omega) _ (by omega),
    digitChar_eq_iff _ (by omega) _ (by omega), digitChar_eq_iff _ (by omega) _ (by omega),
    digitChar_eq_iff _ (by omega) _ (by omega)]
  omega

theorem text_le_iff (s t : TimeOfDay) : s.text ≤ t.text ↔ s.minutes ≤ t.minutes := by
  rw [← String.not_lt, text_lt_iff, Nat.not_lt]

theorem length_text (t : TimeOfDay) : t.text.toList.length = 5 := by
  rw [toList_text]
  rfl

theorem minuteText_textWith (t : TimeOfDay) (second : Option (Fin 60)) :
    minuteText (t.textWith second) = t.text := by
  cases second with
  | none => rw [textWith, minuteText, ← length_text t, List.take_length, String.ofList_toList]
  | some second =>
    rw [textWith, minuteText, String.toList_append, String.toList_append, List.append_assoc,
      List.take_left' (length_text t), String.ofList_toList]

theorem ne_empty_of_minuteText {time : String} {t : TimeOfDay} (h : minuteText time = t.text) :
    time.isEmpty = false := by
  rw [String.isEmpty_eq_false_iff]
  rintro rfl
  have hlength := length_text t
  rw [← h] at hlength
  simp [minuteText] at hlength

/-! ### Ranges -/

/-- The arc from an earlier time to a later one lies between them; the arc from a later
    time to an earlier one goes past midnight. -/
theorem onArc_iff (start stop t : TimeOfDay) :
    OnArc start stop t ↔
      if start.minutes ≤ stop.minutes then start.minutes ≤ t.minutes ∧ t.minutes ≤ stop.minutes
      else start.minutes ≤ t.minutes ∨ t.minutes ≤ stop.minutes := by
  have hstart := start.minutes_lt
  have hstop := stop.minutes_lt
  have ht := t.minutes_lt
  rw [OnArc]
  split <;> omega

/-- **A time lies in a range exactly if it is on the arc from its start to its end.**
    Both ends are on the arc, and the seconds of the time, if it has any, play no part. -/
theorem isWithin_iff_onArc (start stop t : TimeOfDay) (second : Option (Fin 60)) :
    isWithin (t.textWith second) start.text stop.text = true ↔ OnArc start stop t := by
  have htext (u : TimeOfDay) : minuteText u.text = u.text := minuteText_textWith u none
  have hsome := ne_empty_of_minuteText (minuteText_textWith t second)
  have hstart := ne_empty_of_minuteText (htext start)
  have hstop := ne_empty_of_minuteText (htext stop)
  rw [isWithin, minuteText_textWith, htext, htext, onArc_iff]
  simp only [hsome, hstart, hstop, Bool.false_eq_true, if_false, text_le_iff]
  by_cases hplain : start.minutes ≤ stop.minutes
  · rw [if_pos hplain, if_pos hplain, Bool.and_eq_true, decide_eq_true_iff, decide_eq_true_iff]
  · rw [if_neg hplain, if_neg hplain, Bool.or_eq_true, decide_eq_true_iff, decide_eq_true_iff]

example : (⟨1, 5⟩ : TimeOfDay).textWith (some 9) = "01:05:09" := by decide +kernel

example : isWithin "01:05:09" "22:00" "02:00" = true := by decide +kernel

end TimeOfDay

end Transcripts.Calendar
