/-
  Transcripts/Proofs/Query/Canonical.lean
  =======================================
  **Reading gives canonical tokens, and every list of them.**

  Some text reads as a list of tokens exactly if all of them are canonical.  The text
  that spells canonical tokens reads as them; and whatever the query, each of its tokens
  is canonical: a phrase ends at the first quote, a word ends before the first
  delimiter, and a run that spells an operator is no word.

  Operators are told from words by capitals of ASCII only.  That is enough for all of
  Unicode: no other character is raised to a letter of an operator without being raised
  to something else besides (`keyword?_eq_none_iff`).
-/
import Mathlib.Data.List.Basic
import Mathlib.Data.List.TakeWhile
import Transcripts.Proofs.Query.Spelling
import Transcripts.Proofs.Text.Tables

namespace Transcripts.Query

open Transcripts.Text

/-! ### Operators in any case -/

/-- The letters of `OR`, `AND` and `NOT`. -/
def operatorLetters : List Char := ['O', 'R', 'A', 'N', 'D', 'T']

theorem raised_codes : ∀ run ∈ raisingRuns, ∀ n ∈ run.codes,
    Char.ofNat (n + run.offset).toNat ∈ operatorLetters →
      asciiCapital (.ofNat n) = .ofNat (n + run.offset).toNat := by
  decide +kernel

theorem expanded_codes : ∀ e ∈ raisingExpansions, ∃ n ∈ e.2, Char.ofNat n ∉ operatorLetters := by
  decide +kernel

theorem ascii_of_letter {c : Char} (h : c ∈ operatorLetters) : c.toNat < 128 ∧ asciiCapital c = c := by
  simp only [operatorLetters, List.mem_cons, List.not_mem_nil, or_false] at h
  rcases h with rfl | rfl | rfl | rfl | rfl | rfl <;> decide

/-- What is raised to letters of operators only is one of their letters, capital or small. -/
theorem raiseChar_eq_of_letters {c : Char} (h : ∀ d ∈ raiseChar c, d ∈ operatorLetters) :
    raiseChar c = [asciiCapital c] := by
  rw [raiseChar] at h ⊢
  split at h
  · next ns hfound =>
    have hmem := CodeTree.mem_of_mem_ofAscending (CodeTree.mem_of_lookup hfound)
    obtain ⟨n, hn, hother⟩ := expanded_codes _ hmem
    exact absurd (h _ (List.mem_map_of_mem hn)) hother
  · have hletter := h _ List.mem_cons_self
    rcases mapByRuns_raisingTree c with hsame | ⟨run, hrun, hcode, hraised⟩
    · rw [hsame] at hletter ⊢
      rw [(ascii_of_letter hletter).2]
    · rw [hraised] at hletter ⊢
      have hcapital := raised_codes run hrun _ hcode hletter
      rw [Char.ofNat_toNat] at hcapital
      rw [hcapital]

theorem ascii_letter_codes : ∀ n ∈ List.range 128, asciiCapital (.ofNat n) ∈ operatorLetters →
    raiseChar (.ofNat n) = [asciiCapital (.ofNat n)] := by
  decide +kernel

theorem raiseChar_of_letter {c : Char} (h : asciiCapital c ∈ operatorLetters) :
    raiseChar c = [asciiCapital c] := by
  have hascii : c.toNat < 128 := by
    rw [asciiCapital] at h
    split at h
    · next hsmall => exact Nat.lt_of_le_of_lt hsmall.2 (by decide)
    · exact (ascii_of_letter h).1
  have hcode := ascii_letter_codes c.toNat (List.mem_range.mpr hascii)
  rw [Char.ofNat_toNat] at hcode
  exact hcode h

theorem raise_eq_map {word : List Char} (h : ∀ c ∈ word, raiseChar c = [asciiCapital c]) :
    raise word = word.map asciiCapital := by
  rw [raise, List.flatMap_congr h]
  exact List.flatMap_pure_eq_map asciiCapital word

theorem raise_eq_iff {word operator : List Char} (hletters : ∀ c ∈ operator, c ∈ operatorLetters) :
    raise word = operator ↔ word.map asciiCapital = operator := by
  constructor
  · rintro rfl
    symm
    apply raise_eq_map
    intro c hc
    exact raiseChar_eq_of_letters fun d hd => hletters d (List.mem_flatMap.mpr ⟨c, hc, hd⟩)
  · rintro rfl
    apply raise_eq_map
    intro c hc
    exact raiseChar_of_letter (hletters _ (List.mem_map_of_mem hc))

/-- A word is no operator exactly if raising it gives none, whatever letters it has. -/
theorem keyword?_eq_none_iff (word : List Char) :
    keyword? word = none ↔ raise word ≠ "OR".toList ∧ raise word ≠ "AND".toList ∧
      raise word ≠ "NOT".toList := by
  have hor : ∀ c ∈ "OR".toList, c ∈ operatorLetters := by simp [operatorLetters]
  have hand : ∀ c ∈ "AND".toList, c ∈ operatorLetters := by simp [operatorLetters]
  have hnot : ∀ c ∈ "NOT".toList, c ∈ operatorLetters := by simp [operatorLetters]
  rw [ne_eq, ne_eq, ne_eq, raise_eq_iff hor, raise_eq_iff hand, raise_eq_iff hnot, keyword?]
  split <;> simp_all

/-! ### Canonical tokens -/

theorem canonical_of_sign? {c : Char} {o : Operator} (h : sign? c = some o) : (Token.op o).Canonical := by
  rcases eq_of_sign? h with rfl | rfl | rfl | rfl <;> cases h <;> trivial

theorem canonical_of_keyword? {word : List Char} {o : Operator} (h : keyword? word = some o) :
    (Token.op o).Canonical := by
  unfold keyword? at h
  split at h <;> cases h <;> trivial

theorem canonical_of_phrase? {cs inner rest : List Char} (h : phrase? cs = some (inner, rest)) :
    (Token.phrase (.ofList inner)).Canonical := by
  have hquote : '"' ∉ cs.takeWhile (· ≠ '"') := by
    intro hmem
    simpa using List.mem_takeWhile_imp hmem
  rw [Token.Canonical, String.toList_ofList]
  unfold phrase? at h
  split at h
  · cases h
  · cases h
  · next hne =>
    cases h
    exact ⟨hne, hquote⟩

theorem canonical_wordToken {word : List Char} (hne : word ≠ [])
    (hword : ∀ c ∈ word, isDelimiter c = false) : (wordToken word).Canonical := by
  rw [wordToken]
  split
  · next o hkeyword => exact canonical_of_keyword? hkeyword
  · next hkeyword =>
    rw [Token.Canonical, String.toList_ofList]
    exact ⟨hne, hword, hkeyword⟩

theorem canonical_tokenize (cs : List Char) : ∀ t ∈ tokenize cs, t.Canonical := by
  fun_induction tokenize cs with
  | case1 => simp
  | case2 cs inner rest hphrase _ ih =>
    exact List.forall_mem_cons.mpr ⟨canonical_of_phrase? hphrase, ih⟩
  | case3 cs _ ih => exact ih
  | case4 c cs _ o hsign ih => exact List.forall_mem_cons.mpr ⟨canonical_of_sign? hsign, ih⟩
  | case5 c cs _ _ _ ih => exact ih
  | case6 c cs _ _ hword _ ih =>
    refine List.forall_mem_cons.mpr ⟨canonical_wordToken (List.cons_ne_nil _ _) ?_, ih⟩
    refine List.forall_mem_cons.mpr ⟨by simpa using hword, ?_⟩
    intro d hd
    simpa using List.mem_takeWhile_imp hd

theorem not_isDelimiter_iff (c : Char) :
    isDelimiter c = false ↔ isBlank c = false ∧ c ∉ ['(', ')', '"', '+', '-'] := by
  simp [isDelimiter, and_assoc]

theorem raised_ne_iff (text operator : String) :
    raised text ≠ operator ↔ raise text.toList ≠ operator.toList := by
  rw [ne_eq, ne_eq, raised, ← String.toList_inj, String.toList_ofList]

theorem canonical_word_iff (text : String) :
    (Token.word text).Canonical ↔ text ≠ "" ∧
      (∀ c ∈ text.toList, isBlank c = false ∧ c ∉ ['(', ')', '"', '+', '-']) ∧
      raised text ≠ "OR" ∧ raised text ≠ "AND" ∧ raised text ≠ "NOT" := by
  have hempty : text.toList ≠ [] ↔ text ≠ "" := by simp
  simp only [Token.Canonical, keyword?_eq_none_iff, not_isDelimiter_iff, raised_ne_iff, hempty]

instance (t : Token) : Decidable t.Canonical :=
  match t with
  | .phrase _ => inferInstanceAs (Decidable (_ ∧ _))
  | .word text =>
    -- by going through the word, not through all characters there are
    have : Decidable (∀ c ∈ text.toList, isDelimiter c = false) := List.decidableBAll _ _
    inferInstanceAs (Decidable (_ ∧ _ ∧ _))
  | .op (.unknown _) => .isFalse id
  | .op .openParen | .op .closeParen | .op .orWord | .op .andWord | .op .plus | .op .notWord
  | .op .minus => .isTrue trivial

/-- **The token lists that can be read are those of canonical tokens.**  Each of them is
    read from its spelling, and no query has other tokens.  A canonical word has no
    character that would end it and is no operator in any case. -/
theorem tokens_canonical :
    (∀ ts : List Token, (∀ t ∈ ts, t.Canonical) → tokens (.ofList (spelling ts)) = ts) ∧
      (∀ query : String, ∀ t ∈ tokens query, t.Canonical) ∧
      ∀ text : String, (Token.word text).Canonical ↔ text ≠ "" ∧
        (∀ c ∈ text.toList, isBlank c = false ∧ c ∉ ['(', ')', '"', '+', '-']) ∧
        raised text ≠ "OR" ∧ raised text ≠ "AND" ∧ raised text ≠ "NOT" :=
  ⟨fun _ => tokens_spelling, fun query => canonical_tokenize query.toList, canonical_word_iff⟩

/-- A phrase with an operator in it, and words that begin like an operator or differ from
    one by a Greek letter. -/
def lookalikes : List Token :=
  [.phrase "a (OR", .op .notWord, .word "nothing", .op .closeParen, .word "\u03BFr", .op .minus,
    .op .minus, .op .andWord, .word "and_"]

theorem tokens_canonical_lookalikes :
    (∀ t ∈ lookalikes, t.Canonical) ∧ tokens (.ofList (spelling lookalikes)) = lookalikes := by
  have hcanonical : ∀ t ∈ lookalikes, t.Canonical := by decide +kernel
  exact ⟨hcanonical, tokens_canonical.1 lookalikes hcanonical⟩

end Transcripts.Query
