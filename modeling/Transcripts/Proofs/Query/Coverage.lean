/-
  Transcripts/Proofs/Query/Coverage.lean
  ======================================
  **Reading a query loses none of its text and makes none up.**

  Whatever begins no token is passed over without a fault, so text could go missing
  unnoticed.  It does not: a query is covered by the pieces that its tokens are read
  from, in their order, and what lies beside the pieces are blanks and double quotes,
  however the quotes are placed (`covers_tokenize`).  A quote is passed over in two ways,
  beside a phrase and where it opens none; a blank also where it is part of no phrase.

  A word or a phrase is its piece.  An operator shows its piece in capitals, and that is
  the one difference between the tokens and the query.
-/
import Mathlib.Data.List.Forall2
import Transcripts.Proofs.Query.Canonical

namespace Transcripts.Query

open Transcripts.Text

/-- Whether a character is more than a blank or a double quote. -/
def isQueryText (c : Char) : Bool := !isBlank c && c ≠ '"'

/-- Whether a token shows a piece of a query: as it is, or raised for an operator. -/
def Token.Shows (piece : List Char) : Token → Prop
  | .op o => raise piece = o.text.toList
  | .word text | .phrase text => piece = text.toList

/-- Tokens show pieces of a text, and all beside the pieces is blanks and quotes. -/
inductive Covers : List Token → List Char → Prop
  | nil : Covers [] []
  | pass {c : Char} {ts : List Token} {cs : List Char} (hc : isQueryText c = false)
      (rest : Covers ts cs) : Covers ts (c :: cs)
  | piece {t : Token} {piece : List Char} {ts : List Token} {cs : List Char} (ht : t.Shows piece)
      (rest : Covers ts cs) : Covers (t :: ts) (piece ++ cs)

/-! ### The piece of each token -/

theorem shows_of_sign? {c : Char} {o : Operator} (h : sign? c = some o) : (Token.op o).Shows [c] := by
  rw [Token.Shows]
  rcases eq_of_sign? h with rfl | rfl | rfl | rfl <;> cases h <;> decide +kernel

theorem letters_of_keyword? {word : List Char} {o : Operator} (h : keyword? word = some o) :
    word.map asciiCapital = o.text.toList ∧ ∀ c ∈ o.text.toList, c ∈ operatorLetters := by
  unfold keyword? at h
  split at h
  · next hword => cases h; exact ⟨hword, by simp [Operator.text, operatorLetters]⟩
  · next hword => cases h; exact ⟨hword, by simp [Operator.text, operatorLetters]⟩
  · next hword => cases h; exact ⟨hword, by simp [Operator.text, operatorLetters]⟩
  · cases h

theorem shows_wordToken (word : List Char) : (wordToken word).Shows word := by
  rw [wordToken]
  split
  · next o hkeyword =>
    obtain ⟨hword, hletters⟩ := letters_of_keyword? hkeyword
    exact (raise_eq_iff hletters).mpr hword
  · exact String.toList_ofList.symm

/-- What is left behind a run begins with what ends the run. -/
theorem ends_of_dropWhile {p : Char → Bool} (cs : List Char) :
    ∀ c ∈ (cs.dropWhile p).head?, p c = false := by
  intro c hc
  have hhead := List.head?_dropWhile_not p cs
  rwa [Option.mem_def.mp hc] at hhead

/-- A phrase and its closing quote stand in front of what is read behind it. -/
theorem eq_of_phrase? {cs inner rest : List Char} (h : phrase? cs = some (inner, rest)) :
    cs = inner ++ '"' :: rest := by
  have hcut : cs.takeWhile (· ≠ '"') ++ cs.dropWhile (· ≠ '"') = cs := List.takeWhile_append_dropWhile
  have hstop : ∀ c ∈ (cs.dropWhile (· ≠ '"')).head?, c = '"' := by
    intro c hc
    simpa using ends_of_dropWhile cs c hc
  unfold phrase? at h
  generalize cs.takeWhile (· ≠ '"') = front at h hcut
  generalize cs.dropWhile (· ≠ '"') = back at h hcut hstop
  cases front with
  | nil => cases h
  | cons c front =>
    cases back with
    | nil => cases h
    | cons q back =>
      cases h
      rw [← hcut, hstop q rfl]

theorem isBlank_of_isDelimiter {c : Char} (hdelimiter : isDelimiter c = true) (hquote : c ≠ '"')
    (hsign : sign? c = none) : isBlank c = true := by
  simp only [isDelimiter, Bool.or_eq_true, decide_eq_true_eq] at hdelimiter
  rcases hdelimiter with ((((hblank | rfl) | rfl) | rfl) | rfl) | rfl
  · exact hblank
  · cases hsign
  · cases hsign
  · exact absurd rfl hquote
  · cases hsign
  · cases hsign

/-! ### The whole query -/

/-- What is read covers the query. -/
theorem covers_tokenize (cs : List Char) : Covers (tokenize cs) cs := by
  fun_induction tokenize cs with
  | case1 => exact .nil
  | case2 cs inner rest hphrase _ ih =>
    rw [eq_of_phrase? hphrase]
    have hrest : Covers (tokenize rest) ('"' :: rest) := .pass rfl ih
    exact .pass rfl (.piece String.toList_ofList.symm hrest)
  | case3 cs _ ih => exact .pass rfl ih
  | case4 c cs _ o hsign ih => exact .piece (shows_of_sign? hsign) ih
  | case5 c cs hquote hsign hdelimiter ih =>
    have hblank := isBlank_of_isDelimiter hdelimiter hquote hsign
    exact .pass (by simp [isQueryText, hblank]) ih
  | case6 c cs _ _ _ _ ih =>
    have hword : Covers _ ((c :: cs.takeWhile (!isDelimiter ·)) ++ cs.dropWhile (!isDelimiter ·)) :=
      .piece (shows_wordToken _) ih
    rwa [List.cons_append, List.takeWhile_append_dropWhile] at hword

/-- Blanks and quotes apart, the pieces one after another are the text. -/
theorem Covers.exists_pieces {ts : List Token} {cs : List Char} (h : Covers ts cs) :
    ∃ pieces : List (List Char), List.Forall₂ (fun t piece => t.Shows piece) ts pieces ∧
      pieces.flatten.filter isQueryText = cs.filter isQueryText := by
  induction h with
  | nil => exact ⟨[], .nil, rfl⟩
  | pass hc _ ih =>
    obtain ⟨pieces, hshows, htext⟩ := ih
    exact ⟨pieces, hshows, by rw [htext, List.filter_cons_of_neg (by simp [hc])]⟩
  | piece ht _ ih =>
    obtain ⟨pieces, hshows, htext⟩ := ih
    refine ⟨_ :: pieces, .cons ht hshows, ?_⟩
    rw [List.flatten_cons, List.filter_append, htext, List.filter_append]

/-- **Nothing of a query is lost and nothing is made up.**  Put one after another, the
    tokens of a query are the query, up to blanks, double quotes and the capitals of
    operators: a word and a phrase are a piece of the query, an operator is one in
    capitals, and the pieces hold all the text that the query has, in its order. -/
theorem tokens_keep_text (query : String) :
    ∃ pieces : List (List Char), List.Forall₂ (fun t piece => t.Shows piece) (tokens query) pieces ∧
      pieces.flatten.filter isQueryText = query.toList.filter isQueryText :=
  (covers_tokenize query.toList).exists_pieces

end Transcripts.Query
