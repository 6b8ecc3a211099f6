/-
  Transcripts/Proofs/Calendar/Duration.lean
  =========================================
  **What counts as a duration.**

  A duration is two or three runs of digits with colons between them, and anything
  else lasts no time.  That is what is meant, but each part is read as a whole number
  is, and such a number may have a sign, low lines and blanks.  So there are other texts
  that last some time, and even a negative one; which they are is said here for every
  text, from the forms that a whole number has.
-/
import Mathlib.Data.List.Forall2
import Transcripts.Calendar.Clock
import Transcripts.Proofs.Numeral.Literal

namespace Transcripts.Calendar

open Transcripts.Numeral
open Transcripts.Text

/-- The parts of a text between its colons, without the blanks at its ends. -/
def durationParts (text : String) : List (List Char) := splitOn ':' (trim text.toList)

/-- The seconds of hours, minutes and seconds, or of minutes and seconds. -/
def sexagesimal : List Int → Int
  | [hours, minutes, seconds] => hours * 3600 + minutes * 60 + seconds
  | [minutes, seconds] => minutes * 60 + seconds
  | _ => 0

/-- The seconds of a text if it is a duration as it should be written. -/
def documentedSeconds (text : String) : Int :=
  if (durationParts text).all isNumeral then
    sexagesimal ((durationParts text).map fun part => (numeralValue part : Int))
  else 0

variable {text : String} {numbers : List Int}

/-! ### Reading the parts -/

theorem map_integer?_eq_iff {parts : List (List Char)} :
    parts.map integer? = numbers.map some ↔ List.Forall₂ IsLiteral parts numbers := by
  rw [← List.forall₂_eq_eq_eq, List.forall₂_map_left_iff, List.forall₂_map_right_iff]
  simp only [integer?_eq_some_iff]

theorem exists_literals {parts : List (List Char)} (h : ∀ part ∈ parts, ∃ n, IsLiteral part n) :
    ∃ numbers, List.Forall₂ IsLiteral parts numbers := by
  refine ⟨parts.map fun part => (integer? part).getD 0, ?_⟩
  rw [List.forall₂_map_right_iff, List.forall₂_same]
  intro part hpart
  obtain ⟨n, hn⟩ := h part hpart
  rwa [integer?_eq_some_iff.mpr hn]

theorem exists_part {parts : List (List Char)} {n : Int} (h : List.Forall₂ IsLiteral parts numbers)
    (hn : n ∈ numbers) : ∃ part ∈ parts, IsLiteral part n := by
  have hread : some n ∈ parts.map integer? := by
    rw [map_integer?_eq_iff.mpr h]
    exact List.mem_map_of_mem hn
  obtain ⟨part, hpart, hread⟩ := List.mem_map.mp hread
  exact ⟨part, hpart, integer?_eq_some_iff.mp hread⟩

theorem durationSeconds_of_literals (h : List.Forall₂ IsLiteral (durationParts text) numbers) :
    durationSeconds text = sexagesimal numbers := by
  rw [durationSeconds, ← durationParts, map_integer?_eq_iff.mpr h]
  rcases numbers with _ | ⟨a, _ | ⟨b, _ | ⟨c, _ | ⟨d, numbers⟩⟩⟩⟩
  · rfl
  · rfl
  · rfl
  · rfl
  · rfl

theorem durationSeconds_of_not_literal {part : List Char} (hpart : part ∈ durationParts text)
    (h : ∀ n, ¬ IsLiteral part n) : durationSeconds text = 0 := by
  have hnone : none ∈ (durationParts text).map integer? := by
    refine List.mem_map.mpr ⟨part, hpart, ?_⟩
    rw [Option.eq_none_iff_forall_ne_some]
    intro n hn
    exact h n (integer?_eq_some_iff.mp hn)
  rw [durationSeconds, ← durationParts]
  split
  · next heq =>
    rw [heq] at hnone
    simp at hnone
  · next heq =>
    rw [heq] at hnone
    simp at hnone
  · rfl

theorem durationSeconds_cases (text : String) :
    (∃ numbers, List.Forall₂ IsLiteral (durationParts text) numbers ∧
      durationSeconds text = sexagesimal numbers) ∨ durationSeconds text = 0 := by
  by_cases hread : ∀ part ∈ durationParts text, ∃ n, IsLiteral part n
  · obtain ⟨numbers, hnumbers⟩ := exists_literals hread
    exact .inl ⟨numbers, hnumbers, durationSeconds_of_literals hnumbers⟩
  · simp only [not_forall, not_exists] at hread
    obtain ⟨part, hpart, hnot⟩ := hread
    exact .inr (durationSeconds_of_not_literal hpart hnot)

/-! ### What is meant and what is read -/

theorem literals_of_numerals (h : (durationParts text).all isNumeral = true) :
    List.Forall₂ IsLiteral (durationParts text)
      ((durationParts text).map fun part => (numeralValue part : Int)) := by
  rw [List.forall₂_map_right_iff, List.forall₂_same]
  intro part hpart
  exact isLiteral_of_isNumeral (List.all_eq_true.mp h part hpart)

theorem documentedSeconds_of_numerals (h : (durationParts text).all isNumeral = true) :
    documentedSeconds text = durationSeconds text := by
  rw [documentedSeconds, if_pos h, durationSeconds_of_literals (literals_of_numerals h)]

theorem documentedSeconds_of_not_numerals (h : ¬ (durationParts text).all isNumeral = true) :
    documentedSeconds text = 0 := if_neg h

/-- A text is taken as it is meant exactly if it is no number that is written otherwise,
    or if the signs in it come to nothing. -/
theorem durationSeconds_eq_documented_iff :
    durationSeconds text = documentedSeconds text ↔
      ∀ numbers, List.Forall₂ IsLiteral (durationParts text) numbers →
        (durationParts text).all isNumeral = true ∨ sexagesimal numbers = 0 := by
  by_cases hmeant : (durationParts text).all isNumeral = true
  · rw [documentedSeconds_of_numerals hmeant]
    exact iff_of_true rfl fun _ _ => .inl hmeant
  · rw [documentedSeconds_of_not_numerals hmeant]
    constructor
    · intro hzero numbers hnumbers
      exact .inr (durationSeconds_of_literals hnumbers ▸ hzero)
    · intro h
      rcases durationSeconds_cases text with ⟨numbers, hnumbers, hsum⟩ | hzero
      · rw [hsum]
        exact (h numbers hnumbers).resolve_left hmeant
      · exact hzero

/-! ### Signs -/

theorem mem_of_mem_durationParts {part : List Char} (hpart : part ∈ durationParts text) {c : Char}
    (hc : c ∈ part) : c ∈ text.toList := by
  have htrim := (mem_part_iff.mp ⟨part, hpart, hc⟩).1
  rw [trim, trimEnd, List.mem_reverse] at htrim
  have hend := (List.dropWhile_sublist _).subset htrim
  exact (List.dropWhile_sublist _).subset (List.mem_reverse.mp hend)

theorem sexagesimal_nonneg (h : ∀ n ∈ numbers, 0 ≤ n) : 0 ≤ sexagesimal numbers := by
  rw [sexagesimal.eq_def]
  split
  · simp only [List.forall_mem_cons] at h
    omega
  · simp only [List.forall_mem_cons] at h
    omega
  · exact Int.le_refl 0

theorem durationSeconds_nonneg (h : '-' ∉ text.toList) : 0 ≤ durationSeconds text := by
  rcases durationSeconds_cases text with ⟨numbers, hnumbers, hsum⟩ | hzero
  · rw [hsum]
    apply sexagesimal_nonneg
    intro n hn
    obtain ⟨part, hpart, hliteral⟩ := exists_part hnumbers hn
    exact hliteral.nonneg fun hminus => h (mem_of_mem_durationParts hpart hminus)
  · exact Int.le_of_eq hzero.symm

/-- **Which texts last how long.**  Numbers of any written form between the colons count;
    if a part is no number, the text lasts no time.  That is what is meant, digits alone
    between the colons and no time for anything else, exactly if the digits stand alone
    or the numbers come to nothing.  Without a minus sign no text lasts less than no
    time. -/
theorem durationSeconds_documented_iff (text : String) :
    (∀ numbers, List.Forall₂ IsLiteral (durationParts text) numbers →
      durationSeconds text = sexagesimal numbers) ∧
    ((∃ part ∈ durationParts text, ∀ n, ¬ IsLiteral part n) → durationSeconds text = 0) ∧
    (durationSeconds text = documentedSeconds text ↔
      ∀ numbers, List.Forall₂ IsLiteral (durationParts text) numbers →
        (durationParts text).all isNumeral = true ∨ sexagesimal numbers = 0) ∧
    ('-' ∉ text.toList → 0 ≤ durationSeconds text) := by
  refine ⟨fun numbers => durationSeconds_of_literals, ?_, durationSeconds_eq_documented_iff,
    durationSeconds_nonneg⟩
  rintro ⟨part, hpart, hnot⟩
  exact durationSeconds_of_not_literal hpart hnot

/-- A sign before the minutes is read, though it belongs to no duration. -/
theorem signed_minutes_last_less_than_no_time :
    documentedSeconds "-1:00" = 0 ∧ durationSeconds "-1:00" = -60 := by
  decide +kernel

end Transcripts.Calendar
