/-
  Transcripts/Proofs/Query/Spelling.lean
  ======================================
  **Token lists and the texts that spell them.**

  Every list of canonical tokens is spelled by a text: the tokens one after
  another with a blank between neighbours, phrases in quotes.  Reading that text
  gives the list back (`tokens_spelling`), so what is said about the tokens of a
  query is said about texts that somebody can type.

  A text that has tokens is not blank, so compiling it keeps its tokens and only
  puts them into evaluation order (`compile_of_tokens`).
-/
import Transcripts.Query.Compiled

namespace Transcripts.Query

open Transcripts.Text

/-! ### Reading one token -/

theorem isDelimiter_of_isBlank {c : Char} (h : isBlank c = true) : isDelimiter c = true := by
  simp [isDelimiter, h]

theorem ne_quote_of_sign? {c : Char} {o : Operator} (h : sign? c = some o) : c ≠ '"' := by
  rintro rfl
  simp [sign?] at h

theorem tokenize_sign {c : Char} {o : Operator} (h : sign? c = some o) (cs : List Char) :
    tokenize (c :: cs) = .op o :: tokenize cs := by
  rw [tokenize, if_neg (ne_quote_of_sign? h)]
  split
  · next o' h' =>
    rw [h] at h'
    rw [Option.some.inj h']
  · next h' => rw [h] at h'; cases h'

theorem eq_of_sign? {c : Char} {o : Operator} (h : sign? c = some o) :
    c = '(' ∨ c = ')' ∨ c = '+' ∨ c = '-' := by
  unfold sign? at h
  split at h <;> simp_all

theorem sign?_of_isDelimiter {c : Char} (h : isDelimiter c = false) : sign? c = none := by
  cases hs : sign? c with
  | none => rfl
  | some o => rcases eq_of_sign? hs with rfl | rfl | rfl | rfl <;> simp [isDelimiter] at h

theorem sign?_of_isBlank {c : Char} (h : isBlank c = true) : sign? c = none := by
  cases hs : sign? c with
  | none => rfl
  | some o => rcases eq_of_sign? hs with rfl | rfl | rfl | rfl <;> simp [isBlank] at h

theorem ne_quote_of_isBlank {c : Char} (h : isBlank c = true) : c ≠ '"' := by
  rintro rfl
  simp [isBlank] at h

theorem tokenize_blank {c : Char} (h : isBlank c = true) (cs : List Char) :
    tokenize (c :: cs) = tokenize cs := by
  rw [tokenize, if_neg (ne_quote_of_isBlank h)]
  split
  · next o h' => rw [sign?_of_isBlank h] at h'; cases h'
  · rw [if_pos (isDelimiter_of_isBlank h)]

theorem phrase?_append_quote {text : List Char} (hne : text ≠ []) (hquote : '"' ∉ text)
    (cs : List Char) : phrase? (text ++ '"' :: cs) = some (text, cs) := by
  have hall : ∀ a ∈ text, decide (a ≠ '"') = true := by
    intro a ha
    simp only [ne_eq, decide_eq_true_eq]
    rintro rfl
    exact hquote ha
  unfold phrase?
  rw [List.takeWhile_append_of_pos hall, List.dropWhile_append_of_pos hall]
  simp only [ne_eq, decide_not, decide_true, Bool.not_true, Bool.false_eq_true, not_false_eq_true,
    List.takeWhile_cons_of_neg, List.dropWhile_cons_of_neg, List.append_nil]

/-- What stands between two double quotes is a phrase. -/
theorem tokenize_phrase {text : List Char} (hne : text ≠ []) (hquote : '"' ∉ text)
    (cs : List Char) :
    tokenize ('"' :: (text ++ '"' :: cs)) = .phrase (.ofList text) :: tokenize cs := by
  have hphrase := phrase?_append_quote hne hquote cs
  rw [tokenize, if_pos rfl]
  split
  · next inner rest h =>
    rw [hphrase] at h
    cases h
    rfl
  · next h => rw [hphrase] at h; cases h

theorem not_delimiter_of_all {w : List Char} (h : w.all (!isDelimiter ·) = true) :
    ∀ c ∈ w, isDelimiter c = false := by
  simpa using h

/-- A run of word characters is one token, if no word character follows it. -/
theorem tokenize_run {w : List Char} (hne : w ≠ []) (hw : ∀ c ∈ w, isDelimiter c = false)
    {cs : List Char} (hcs : ∀ c ∈ cs.head?, isDelimiter c = true) :
    tokenize (w ++ cs) = wordToken w :: tokenize cs := by
  cases w with
  | nil => exact absurd rfl hne
  | cons c w =>
    have hc : isDelimiter c = false := hw c (by simp)
    have hcq : c ≠ '"' := by
      rintro rfl
      simp [isDelimiter] at hc
    have hall : ∀ a ∈ w, (!isDelimiter a) = true := by
      intro a ha
      rw [hw a (List.mem_cons_of_mem _ ha)]
      rfl
    have htake : cs.takeWhile (!isDelimiter ·) = [] ∧ cs.dropWhile (!isDelimiter ·) = cs := by
      cases cs with
      | nil => exact ⟨rfl, rfl⟩
      | cons d cs => simp [hcs d (by simp)]
    rw [List.cons_append, tokenize, if_neg hcq]
    split
    · next o h' => rw [sign?_of_isDelimiter hc] at h'; cases h'
    · simp only [hc, Bool.false_eq_true, if_false, List.takeWhile_append_of_pos hall,
        List.dropWhile_append_of_pos hall, htake.1, htake.2, List.append_nil]

/-! ### Spelling token lists -/

/-- Whether a token is one that reading can give: no unknown operator, a phrase
    without quotes, a word that is neither cut by a delimiter nor an operator. -/
def Token.Canonical : Token → Prop
  | .phrase text => text.toList ≠ [] ∧ '"' ∉ text.toList
  | .word text =>
    text.toList ≠ [] ∧ (∀ c ∈ text.toList, isDelimiter c = false) ∧ keyword? text.toList = none
  | .op (.unknown _) => False
  | .op _ => True

theorem canonical_binary {o : Operator} {ts us : List Token} (hts : ∀ t ∈ ts, t.Canonical)
    (ho : (Token.op o).Canonical) (hus : ∀ t ∈ us, t.Canonical) :
    ∀ t ∈ ts ++ .op o :: us, t.Canonical := by
  intro t ht
  rcases List.mem_append.mp ht with ht | ht
  · exact hts t ht
  · rcases List.mem_cons.mp ht with rfl | ht
    · exact ho
    · exact hus t ht

/-- A token as it is typed. -/
def Token.spelled : Token → List Char
  | .phrase text => '"' :: (text.toList ++ ['"'])
  | .word text => text.toList
  | .op o => o.text.toList

/-- Tokens as they are typed, with a blank between neighbours. -/
def spelling : List Token → List Char
  | [] => []
  | [t] => t.spelled
  | t :: u :: ts => t.spelled ++ ' ' :: spelling (u :: ts)

theorem tokenize_spelled {t : Token} (ht : t.Canonical) {cs : List Char}
    (hcs : ∀ c ∈ cs.head?, isDelimiter c = true) :
    tokenize (t.spelled ++ cs) = t :: tokenize cs := by
  cases t with
  | phrase text =>
    have h := tokenize_phrase ht.1 ht.2 cs
    simpa [Token.spelled] using h
  | word text =>
    obtain ⟨hne, hw, hkey⟩ := ht
    have h := tokenize_run hne hw hcs
    simpa [Token.spelled, wordToken, hkey] using h
  | op o =>
    cases o with
    | unknown _ => exact ht.elim
    | openParen => exact tokenize_sign rfl cs
    | closeParen => exact tokenize_sign rfl cs
    | plus => exact tokenize_sign rfl cs
    | minus => exact tokenize_sign rfl cs
    | orWord => exact tokenize_run (w := ['O', 'R']) (by simp) (not_delimiter_of_all rfl) hcs
    | andWord => exact tokenize_run (w := ['A', 'N', 'D']) (by simp) (not_delimiter_of_all rfl) hcs
    | notWord => exact tokenize_run (w := ['N', 'O', 'T']) (by simp) (not_delimiter_of_all rfl) hcs

/-- **Reading what spells a token list gives the list back.** -/
theorem tokenize_spelling : ∀ {ts : List Token}, (∀ t ∈ ts, t.Canonical) →
    tokenize (spelling ts) = ts
  | [], _ => by rw [spelling, tokenize]
  | [t], h => by
    have hone : tokenize (t.spelled ++ []) = t :: tokenize [] :=
      tokenize_spelled (h t (by simp)) (by simp)
    rw [List.append_nil, tokenize] at hone
    exact hone
  | t :: u :: ts, h => by
    have hrest : tokenize (spelling (u :: ts)) = u :: ts :=
      tokenize_spelling fun v hv => h v (List.mem_cons_of_mem _ hv)
    have hblank : isDelimiter ' ' = true := by decide
    rw [spelling, tokenize_spelled (h t (by simp)) (by simpa using hblank),
      tokenize_blank (by decide), hrest]

theorem tokens_spelling {ts : List Token} (h : ∀ t ∈ ts, t.Canonical) :
    tokens (.ofList (spelling ts)) = ts := by
  rw [tokens, String.toList_ofList, tokenize_spelling h]

/-! ### Compiling -/

theorem tokenize_of_blank {cs : List Char} (h : ∀ c ∈ cs, isBlank c = true) : tokenize cs = [] := by
  induction cs with
  | nil => rw [tokenize]
  | cons c cs ih =>
    rw [tokenize_blank (h c (by simp))]
    exact ih fun d hd => h d (List.mem_cons_of_mem _ hd)

/-- A query that has tokens is compiled to their evaluation order. -/
theorem compile_of_tokens {query : String} {ts : List Token} (hts : tokens query = ts)
    (hne : ts ≠ []) : compile query = ⟨query, reorder ts, false⟩ := by
  have hblank : isBlankText query = false := by
    cases hb : isBlankText query with
    | false => rfl
    | true =>
      rw [isBlankText, List.all_eq_true] at hb
      exact absurd (hts.symm.trans (tokenize_of_blank hb)) hne
  simp [compile, hblank, hts]

/-- A compiled query finds a content if evaluation settles on it. -/
theorem findsFolded_compile {query : String} {ts : List Token} (hts : tokens query = ts)
    (hne : ts ≠ []) (content : List Char) :
    (compile query).findsFolded content = settles (run content [] (reorder ts)) := by
  simp [compile_of_tokens hts hne, Compiled.findsFolded]

end Transcripts.Query
