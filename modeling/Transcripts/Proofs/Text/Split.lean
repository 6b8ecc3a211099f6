/-
  Transcripts/Proofs/Text/Split.lean
  ==================================
  **What occurs in a text, and the pieces of a text.**

  To occur in a text is to be one of its infixes.  A separator cuts a text in two
  whose pieces have nothing to do with each other, and what has no separator in it
  occurs on one side of each.  So the pieces are the runs of other characters that
  nothing extends (`mem_pieces_iff`): a text is cut at its first separator, and so on.
-/
import Mathlib.Data.List.Infix
import Transcripts.Text.Split

namespace Transcripts.Text

variable {α : Type}

/-- What is dropped from the two ends of a text meets the condition. -/
theorem exists_dropped_ends (dropped : α → Bool) (text : List α) :
    ∃ front back, text = front ++ ((text.dropWhile dropped).reverse.dropWhile dropped).reverse ++ back ∧
      (∀ a ∈ front, dropped a = true) ∧ ∀ a ∈ back, dropped a = true := by
  have hback := List.takeWhile_append_dropWhile (p := dropped) (l := (text.dropWhile dropped).reverse)
  refine ⟨text.takeWhile dropped, ((text.dropWhile dropped).reverse.takeWhile dropped).reverse, ?_, ?_, ?_⟩
  · rw [List.append_assoc, ← List.reverse_append, hback, List.reverse_reverse,
      List.takeWhile_append_dropWhile]
  · exact fun a ha => List.all_eq_true.mp List.all_takeWhile a ha
  · exact fun a ha => List.all_eq_true.mp List.all_takeWhile a (List.mem_reverse.mp ha)

section DroppedEnds

variable {dropped : α → Bool} {front body back : List α}

theorem dropWhile_append_of_head (hfront : ∀ a ∈ front, dropped a = true) (hne : body ≠ [])
    (hhead : ∀ a ∈ body.head?, dropped a = false) :
    (front ++ (body ++ back)).dropWhile dropped = body ++ back := by
  obtain ⟨a, body, rfl⟩ := List.exists_cons_of_ne_nil hne
  rw [List.dropWhile_append_of_pos hfront, List.cons_append, List.dropWhile_cons_of_neg]
  rw [hhead a rfl]
  decide

/-- A text without anything to be dropped at its ends is what is left of it between ends
    that are dropped. -/
theorem dropped_ends_append (hfront : ∀ a ∈ front, dropped a = true) (hback : ∀ a ∈ back, dropped a = true)
    (hne : body ≠ []) (hhead : ∀ a ∈ body.head?, dropped a = false)
    (hlast : ∀ a ∈ body.getLast?, dropped a = false) :
    (((front ++ body ++ back).dropWhile dropped).reverse.dropWhile dropped).reverse = body := by
  have hcut : (back.reverse ++ (body.reverse ++ [])).dropWhile dropped = body.reverse ++ [] :=
    dropWhile_append_of_head (by simpa using hback) (by simpa using hne) (by simpa using hlast)
  rw [List.append_assoc, dropWhile_append_of_head hfront hne hhead, List.reverse_append]
  rw [List.append_nil] at hcut
  rw [hcut, List.reverse_reverse]

end DroppedEnds

section Occurrence

variable [BEq α] [LawfulBEq α]

theorem begins_iff_isPrefix {part text : List α} : begins part text = true ↔ part <+: text := by
  induction part generalizing text with
  | nil => simp [begins]
  | cons a part ih =>
    cases text with
    | nil => simp [begins]
    | cons b text => simp [begins, ih, List.cons_prefix_cons]

theorem occursIn_iff_isInfix {part text : List α} : occursIn part text = true ↔ part <:+: text := by
  induction text with
  | nil => simp [occursIn]
  | cons b text ih => simp [occursIn, ih, begins_iff_isPrefix, List.infix_cons_iff]

end Occurrence

/-! ### What occurs beside a separator -/

section Beside

variable {part : List α} {c : α}

theorem prefix_append_cons_iff (hc : c ∉ part) (front back : List α) :
    part <+: front ++ c :: back ↔ part <+: front := by
  constructor
  · intro h
    induction part generalizing front with
    | nil => exact List.nil_prefix
    | cons a part ih =>
      rw [List.mem_cons, not_or] at hc
      cases front with
      | nil =>
        obtain ⟨rfl, _⟩ := List.cons_prefix_cons.mp h
        exact absurd rfl hc.1
      | cons b front =>
        obtain ⟨rfl, hrest⟩ := List.cons_prefix_cons.mp h
        exact List.cons_prefix_cons.mpr ⟨rfl, ih hc.2 front hrest⟩
  · intro h
    exact h.trans (List.prefix_append front (c :: back))

/-- What does not contain the separator occurs on one side of it. -/
theorem infix_append_cons_iff (hc : c ∉ part) (front back : List α) :
    part <:+: front ++ c :: back ↔ part <:+: front ∨ part <:+: back := by
  induction front with
  | nil =>
    have hprefix : part <+: c :: back ↔ part <+: [] := prefix_append_cons_iff hc [] back
    rw [List.nil_append, List.infix_cons_iff, hprefix, List.prefix_nil, List.infix_nil]
  | cons b front ih =>
    have hprefix : part <+: b :: (front ++ c :: back) ↔ part <+: b :: front :=
      prefix_append_cons_iff hc (b :: front) back
    rw [List.cons_append, List.infix_cons_iff, hprefix, ih, ← or_assoc, ← List.infix_cons_iff]

end Beside

section Pieces

variable {sep : α → Bool}

theorem splitBy_ne_nil (sep : α → Bool) (text : List α) : splitBy sep text ≠ [] := by
  cases text with
  | nil => simp [splitBy]
  | cons b text =>
    rw [splitBy]
    split
    · simp
    · split <;> simp

/-- The first part goes up to the first separator. -/
theorem takeWhile_mem_splitBy (sep : α → Bool) (text : List α) :
    text.takeWhile (fun c => !sep c) ∈ splitBy sep text := by
  suffices h : (splitBy sep text).head? = some (text.takeWhile fun c => !sep c) from
    List.mem_of_mem_head? h
  induction text with
  | nil => rfl
  | cons b text ih =>
    rw [splitBy]
    by_cases hb : sep b = true
    · simp [hb]
    · obtain ⟨part, parts, hparts⟩ := List.exists_cons_of_ne_nil (splitBy_ne_nil sep text)
      rw [hparts, List.head?_cons, Option.some.injEq] at ih
      simp [hb, hparts, ih]

theorem splitBy_append_cons {c : α} (hc : sep c = true) (front back : List α) :
    splitBy sep (front ++ c :: back) = splitBy sep front ++ splitBy sep back := by
  induction front with
  | nil => simp [splitBy, hc]
  | cons b front ih =>
    rw [List.cons_append, splitBy, splitBy]
    by_cases hb : sep b = true
    · simp [hb, ih]
    · obtain ⟨part, parts, hparts⟩ := List.exists_cons_of_ne_nil (splitBy_ne_nil sep front)
      simp [hb, ih, hparts]

/-- The pieces in front of a separator, then those behind it. -/
theorem pieces_append_cons {c : α} (hc : sep c = true) (front back : List α) :
    pieces sep (front ++ c :: back) = pieces sep front ++ pieces sep back := by
  rw [pieces, splitBy_append_cons hc, List.filter_append]
  rfl

theorem splitBy_of_free {run : List α} (hrun : ∀ c ∈ run, sep c = false) : splitBy sep run = [run] := by
  induction run with
  | nil => rfl
  | cons b run ih =>
    obtain ⟨hb, hrest⟩ := List.forall_mem_cons.mp hrun
    simp [splitBy, hb, ih hrest]

/-- The parts have all that is no separator, in order. -/
theorem flatten_splitBy (sep : α → Bool) (text : List α) :
    (splitBy sep text).flatten = text.filter fun c => !sep c := by
  induction text with
  | nil => rfl
  | cons b text ih =>
    rw [splitBy]
    by_cases hb : sep b = true
    · simp [hb, ih]
    · obtain ⟨part, parts, hparts⟩ := List.exists_cons_of_ne_nil (splitBy_ne_nil sep text)
      rw [hparts, List.flatten_cons] at ih
      simp [hb, hparts, ← ih]

theorem mem_part_iff {text : List α} {c : α} :
    (∃ part ∈ splitBy sep text, c ∈ part) ↔ c ∈ text ∧ sep c = false := by
  rw [← List.mem_flatten, flatten_splitBy, List.mem_filter, Bool.not_eq_true']

theorem mem_pieces_of_free {run piece : List α} (hrun : ∀ c ∈ run, sep c = false) :
    piece ∈ pieces sep run ↔ piece ≠ [] ∧ piece = run := by
  simp [pieces, splitBy_of_free hrun, and_comm]

end Pieces

/-! ### Pieces as runs -/

/-- A run of characters of one kind that cannot be extended on either side. -/
structure IsRun (p : α → Bool) (run text : List α) : Prop where
  ne_nil : run ≠ []
  all : ∀ c ∈ run, p c = true
  maximal : ∃ front back, text = front ++ run ++ back ∧ (∀ c ∈ front.getLast?, p c = false) ∧
    ∀ c ∈ back.head?, p c = false

section Runs

variable {p : α → Bool} {run text : List α}

theorem IsRun.behind {c : α} (hc : p c = false) (front : List α) (h : IsRun p run text) :
    IsRun p run (front ++ c :: text) where
  ne_nil := h.ne_nil
  all := h.all
  maximal := by
    obtain ⟨before, behind, rfl, hbefore, hbehind⟩ := h.maximal
    refine ⟨front ++ c :: before, behind, by simp, ?_, hbehind⟩
    cases before with
    | nil => simpa using hc
    | cons b before => simpa [List.getLast?_append, List.getLast?_cons_cons] using hbefore

/-- Induction from one separator to the next. -/
@[elab_as_elim]
theorem cut_induction {motive : List α → Prop} (p : α → Bool)
    (free : ∀ run, (∀ c ∈ run, p c = true) → motive run)
    (cut : ∀ run c rest, (∀ d ∈ run, p d = true) → p c = false → motive rest →
      motive (run ++ c :: rest))
    (text : List α) : motive text := by
  suffices h : ∀ run, (∀ c ∈ run, p c = true) → motive (run ++ text) from h [] (by simp)
  induction text with
  | nil =>
    intro run hrun
    rw [List.append_nil]
    exact free run hrun
  | cons b text ih =>
    intro run hrun
    by_cases hb : p b = true
    · rw [List.append_cons]
      apply ih
      simpa [or_imp, forall_and] using ⟨hrun, hb⟩
    · exact cut run b text hrun (by simpa using hb) (ih [] (by simp))

theorem isRun_of_mem_pieces (h : run ∈ pieces (fun c => !p c) text) : IsRun p run text := by
  induction text using cut_induction p with
  | free word hword =>
    rw [mem_pieces_of_free (by simpa using hword)] at h
    obtain ⟨hne, rfl⟩ := h
    exact ⟨hne, hword, [], [], by simp, by simp, by simp⟩
  | cut word c rest hword hc ih =>
    rw [pieces_append_cons (by simpa using hc), List.mem_append,
      mem_pieces_of_free (by simpa using hword)] at h
    rcases h with ⟨hne, rfl⟩ | hrest
    · exact ⟨hne, hword, [], c :: rest, rfl, by simp, by simpa using hc⟩
    · exact (ih hrest).behind hc word

theorem mem_pieces_of_isRun (h : IsRun p run text) : run ∈ pieces (fun c => !p c) text := by
  obtain ⟨front, back, rfl, hfront, hback⟩ := h.maximal
  have hrun : run ∈ pieces (fun c => !p c) run :=
    (mem_pieces_of_free (by simpa using h.all)).mpr ⟨h.ne_nil, rfl⟩
  have hfirst : run ∈ pieces (fun c => !p c) (run ++ back) := by
    cases back with
    | nil => rwa [List.append_nil]
    | cons d back =>
      rw [pieces_append_cons (by simpa using hback)]
      exact List.mem_append_left _ hrun
  rcases front.eq_nil_or_concat with rfl | ⟨front, c, rfl⟩
  · exact hfirst
  · rw [List.concat_eq_append, List.append_assoc, List.append_assoc, List.singleton_append,
      pieces_append_cons (by simpa using hfront)]
    exact List.mem_append_right _ hfirst

theorem mem_pieces_iff : run ∈ pieces (fun c => !p c) text ↔ IsRun p run text :=
  ⟨isRun_of_mem_pieces, mem_pieces_of_isRun⟩

end Runs

end Transcripts.Text
