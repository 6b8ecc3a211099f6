/-
  Transcripts/Proofs/Query/EditScripts.lean
  =========================================
  **The edit distance is the length of a shortest edit script.**

  A script is a sequence of edits, each of which inserts, deletes or replaces one
  character anywhere in the text.  That there is a script as short as the distance is
  seen by writing it down.  That none is shorter is the harder half: scripts may put
  in what they take out later, or change one place many times.  But a single edit
  changes the distance to any fixed text by at most one (`frontDistance_le_of_edit`),
  so no script gets there faster.

  Both are shown for the distance by first characters, a recursion on the two texts.
  The rows hold distances of beginnings, which grow at the end.  Written backwards they
  grow at the front, so a row holds the distances by first characters of beginnings
  written backwards (`nextRow_wholeRow`); and scripts can be written backwards too.
-/
import Mathlib.Order.Bounds.Defs
import Transcripts.Query.Match

namespace Transcripts.Query

variable {α : Type} {as bs cs : List α} {n : Nat}

/-! ### Edits and scripts -/

/-- One character is inserted, deleted or replaced, at any place. -/
inductive Edit : List α → List α → Prop where
  | insert (front : List α) (c : α) (back : List α) : Edit (front ++ back) (front ++ c :: back)
  | delete (front : List α) (c : α) (back : List α) : Edit (front ++ c :: back) (front ++ back)
  | replace (front : List α) (c d : α) (back : List α) :
      Edit (front ++ c :: back) (front ++ d :: back)

/-- A script of so many edits turns one text into another. -/
inductive EditScript : Nat → List α → List α → Prop where
  | done (as : List α) : EditScript 0 as as
  | step {as bs cs : List α} {n : Nat} (first : Edit as bs) (rest : EditScript n bs cs) :
      EditScript (n + 1) as cs

theorem Edit.symm (h : Edit as bs) : Edit bs as := by
  cases h with
  | insert front c back => exact .delete front c back
  | delete front c back => exact .insert front c back
  | replace front c d back => exact .replace front d c back

theorem Edit.cons (c : α) (h : Edit as bs) : Edit (c :: as) (c :: bs) := by
  cases h with
  | insert front d back => exact .insert (c :: front) d back
  | delete front d back => exact .delete (c :: front) d back
  | replace front d e back => exact .replace (c :: front) d e back

theorem Edit.reverse (h : Edit as bs) : Edit as.reverse bs.reverse := by
  cases h with
  | insert front c back => simpa using Edit.insert back.reverse c front.reverse
  | delete front c back => simpa using Edit.delete back.reverse c front.reverse
  | replace front c d back => simpa using Edit.replace back.reverse c d front.reverse

theorem Edit.length_le (h : Edit as bs) : bs.length ≤ as.length + 1 := by
  cases h with
  | insert | delete | replace => simp only [List.length_append, List.length_cons]; omega

namespace EditScript

theorem trans {m n : Nat} (h : EditScript m as bs) (h' : EditScript n bs cs) :
    EditScript (m + n) as cs := by
  induction h with
  | done _ => simpa using h'
  | step first _ ih =>
    rw [Nat.add_right_comm]
    exact .step first (ih h')

theorem single (h : Edit as bs) : EditScript 1 as bs := .step h (.done bs)

theorem symm (h : EditScript n as bs) : EditScript n bs as := by
  induction h with
  | done as => exact .done as
  | step first _ ih => exact ih.trans (single first.symm)

/-- The edits of a script can be made elsewhere if each of them can. -/
theorem map {f : List α → List α} (hf : ∀ {as bs}, Edit as bs → Edit (f as) (f bs))
    (h : EditScript n as bs) : EditScript n (f as) (f bs) := by
  induction h with
  | done as => exact .done (f as)
  | step first _ ih => exact .step (hf first) ih

theorem cons (c : α) (h : EditScript n as bs) : EditScript n (c :: as) (c :: bs) :=
  h.map (f := List.cons c) (Edit.cons c)

theorem reverse (h : EditScript n as bs) : EditScript n as.reverse bs.reverse := h.map Edit.reverse

theorem insertAll (bs : List α) : EditScript bs.length [] bs := by
  induction bs with
  | nil => exact .done []
  | cons b bs ih => exact ih.trans (single (.insert [] b bs))

theorem shorter {m n : Nat} (h : EditScript m as bs) (h' : EditScript n as bs) :
    EditScript (min m n) as bs := by
  rw [Nat.min_def]
  split
  · exact h
  · exact h'

theorem length_le (h : EditScript n as bs) : bs.length ≤ as.length + n := by
  induction h with
  | done _ => exact Nat.le_refl _
  | step first _ ih =>
    have hfirst := first.length_le
    omega

theorem eq_of_zero (h : EditScript 0 as bs) : as = bs := by
  cases h
  rfl

end EditScript

section Distance

variable [BEq α]

/-! ### The distance by first characters -/

def frontDistance : List α → List α → Nat
  | [], bs => bs.length
  | a :: as, [] => (a :: as).length
  | a :: as, b :: bs =>
    min (min (frontDistance as (b :: bs) + 1) (frontDistance (a :: as) bs + 1))
      (frontDistance as bs + if a == b then 0 else 1)
termination_by as bs => as.length + bs.length

theorem frontDistance_nil_left (bs : List α) : frontDistance [] bs = bs.length := by
  rw [frontDistance]

theorem frontDistance_nil_right (as : List α) : frontDistance as [] = as.length := by
  cases as <;> rw [frontDistance]

theorem frontDistance_cons (a : α) (as : List α) (b : α) (bs : List α) :
    frontDistance (a :: as) (b :: bs) =
      min (min (frontDistance as (b :: bs) + 1) (frontDistance (a :: as) bs + 1))
        (frontDistance as bs + if a == b then 0 else 1) := by
  rw [frontDistance]

/-! ### Rows hold distances of beginnings -/

/-- What the beginnings of `as`, written backwards in front of `before`, are apart from
    `cs`; all but the empty beginning. -/
def distanceRow (cs before : List α) : List α → List Nat
  | [] => []
  | a :: as => frontDistance (a :: before) cs :: distanceRow cs (a :: before) as

/-- The same for the empty beginning and all others. -/
def wholeRow (as cs : List α) : List Nat := frontDistance [] cs :: distanceRow cs [] as

theorem distanceRow_nil (before as : List α) :
    distanceRow [] before as = List.range' (before.length + 1) as.length := by
  induction as generalizing before with
  | nil => rfl
  | cons a as ih =>
    rw [distanceRow, ih, frontDistance_nil_right]
    rfl

theorem firstRow_eq (as : List α) : firstRow as = wholeRow as [] := by
  rw [firstRow, wholeRow, frontDistance_nil_left, distanceRow_nil, List.range_eq_range']
  rfl

theorem extendRow_distanceRow (b : α) (cs before as : List α) :
    extendRow b (frontDistance before (b :: cs)) (frontDistance before cs) as
      (distanceRow cs before as) = distanceRow (b :: cs) before as := by
  induction as generalizing before with
  | nil => rfl
  | cons a as ih => simp only [distanceRow, extendRow, ← frontDistance_cons, ih]

/-- A row is right if the row before is. -/
theorem nextRow_wholeRow (as cs : List α) (b : α) :
    nextRow as b (wholeRow as cs) = wholeRow as (b :: cs) := by
  have hfirst : frontDistance [] (b :: cs) = frontDistance [] cs + 1 := by
    rw [frontDistance_nil_left, frontDistance_nil_left, List.length_cons]
  rw [wholeRow, nextRow, ← hfirst, extendRow_distanceRow, wholeRow]

theorem foldl_nextRow (as bs cs : List α) :
    bs.foldl (fun row b => nextRow as b row) (wholeRow as cs) = wholeRow as (bs.reverse ++ cs) := by
  induction bs generalizing cs with
  | nil => rfl
  | cons b bs ih => simp [nextRow_wholeRow, ih]

theorem getLastD_distanceRow (cs before as : List α) :
    (distanceRow cs before as).getLastD (frontDistance before cs) =
      frontDistance (as.reverse ++ before) cs := by
  induction as generalizing before with
  | nil => rfl
  | cons a as ih => rw [distanceRow, List.getLastD_cons, ih]; simp

theorem editDistance_eq (as bs : List α) :
    editDistance as bs = frontDistance as.reverse bs.reverse := by
  rw [editDistance, firstRow_eq, foldl_nextRow, wholeRow, List.getLastD_cons, getLastD_distanceRow,
    List.append_nil, List.append_nil]

/-! ### One edit gains at most one -/

theorem frontDistance_cons_left_le (a : α) (as bs : List α) :
    frontDistance (a :: as) bs ≤ frontDistance as bs + 1 := by
  cases bs with
  | nil => simp only [frontDistance_nil_right, List.length_cons, Nat.le_refl]
  | cons b bs => rw [frontDistance_cons]; omega

theorem frontDistance_cons_right_le (as : List α) (b : α) (bs : List α) :
    frontDistance as (b :: bs) ≤ frontDistance as bs + 1 := by
  cases as with
  | nil => simp only [frontDistance_nil_left, List.length_cons, Nat.le_refl]
  | cons a as => rw [frontDistance_cons]; omega

theorem frontDistance_le_cons_left (a : α) (as bs : List α) :
    frontDistance as bs ≤ frontDistance (a :: as) bs + 1 := by
  induction bs with
  | nil => simp only [frontDistance_nil_right, List.length_cons]; omega
  | cons b bs ih =>
    have hskip := frontDistance_cons_right_le as b bs
    rw [frontDistance_cons]
    omega

theorem frontDistance_replace_le (a c : α) (as bs : List α) :
    frontDistance (a :: as) bs ≤ frontDistance (c :: as) bs + 1 := by
  induction bs with
  | nil => simp only [frontDistance_nil_right, List.length_cons]; omega
  | cons b bs ih =>
    rw [frontDistance_cons, frontDistance_cons]
    split <;> split <;> omega

/-- An edit behind a character gains no more than without the character. -/
theorem frontDistance_cons_le (c : α) (h : ∀ cs, frontDistance as cs ≤ frontDistance bs cs + 1)
    (cs : List α) : frontDistance (c :: as) cs ≤ frontDistance (c :: bs) cs + 1 := by
  induction cs with
  | nil =>
    have hlength := h []
    simp only [frontDistance_nil_right, List.length_cons] at hlength ⊢
    omega
  | cons d cs ih =>
    have hwhole := h (d :: cs)
    have hrest := h cs
    rw [frontDistance_cons, frontDistance_cons]
    omega

theorem frontDistance_append_le (front : List α)
    (h : ∀ cs, frontDistance as cs ≤ frontDistance bs cs + 1) (cs : List α) :
    frontDistance (front ++ as) cs ≤ frontDistance (front ++ bs) cs + 1 := by
  induction front generalizing cs with
  | nil => exact h cs
  | cons c front ih => exact frontDistance_cons_le c ih cs

theorem frontDistance_le_of_edit (h : Edit as bs) (cs : List α) :
    frontDistance as cs ≤ frontDistance bs cs + 1 := by
  cases h with
  | insert front c back =>
    exact frontDistance_append_le front (frontDistance_le_cons_left c back) cs
  | delete front c back =>
    exact frontDistance_append_le front (frontDistance_cons_left_le c back) cs
  | replace front c d back =>
    exact frontDistance_append_le front (frontDistance_replace_le c d back) cs

/-! ### Shortest scripts -/

variable [LawfulBEq α]

theorem frontDistance_self (as : List α) : frontDistance as as = 0 := by
  induction as with
  | nil => exact frontDistance_nil_left []
  | cons a as ih => simp [frontDistance_cons, ih]

theorem frontDistance_le_of_script (h : EditScript n as bs) : frontDistance as bs ≤ n := by
  induction h with
  | done as => exact Nat.le_of_eq (frontDistance_self as)
  | @step as bs cs n first _ ih =>
    have hfirst := frontDistance_le_of_edit first cs
    omega

theorem script_frontDistance (as bs : List α) : EditScript (frontDistance as bs) as bs := by
  fun_induction frontDistance as bs with
  | case1 bs => exact .insertAll bs
  | case2 a as => exact (EditScript.insertAll (a :: as)).symm
  | case3 a as b bs ihdelete ihinsert ihkeep =>
    have hdelete : EditScript (frontDistance as (b :: bs) + 1) (a :: as) (b :: bs) :=
      .step (.delete [] a as) ihdelete
    have hinsert : EditScript (frontDistance (a :: as) bs + 1) (a :: as) (b :: bs) :=
      ihinsert.trans (.single (.insert [] b bs))
    have hkeep : EditScript (frontDistance as bs + if a == b then 0 else 1) (a :: as) (b :: bs) := by
      split
      · next heq =>
        rw [eq_of_beq heq]
        exact ihkeep.cons b
      · exact (ihkeep.cons a).trans (.single (.replace [] a b bs))
    exact (hdelete.shorter hinsert).shorter hkeep

theorem script_editDistance (as bs : List α) : EditScript (editDistance as bs) as bs := by
  have hscript := (script_frontDistance as.reverse bs.reverse).reverse
  rwa [List.reverse_reverse, List.reverse_reverse, ← editDistance_eq] at hscript

theorem editDistance_le_of_script (h : EditScript n as bs) : editDistance as bs ≤ n := by
  rw [editDistance_eq]
  exact frontDistance_le_of_script h.reverse

/-- A text is within so many edits of another exactly if their distance is no greater. -/
theorem editDistance_le_iff : editDistance as bs ≤ n ↔ ∃ m ≤ n, EditScript m as bs := by
  constructor
  · intro h
    exact ⟨editDistance as bs, h, script_editDistance as bs⟩
  · rintro ⟨m, hm, hscript⟩
    exact Nat.le_trans (editDistance_le_of_script hscript) hm

end Distance

/-- **The edit distance is the least number of edits.**  So it is zero for equal texts
    only, the same in both directions, and no detour is shorter. -/
theorem editDistance_isLeast (as bs : List Char) :
    IsLeast {n | EditScript n as bs} (editDistance as bs) ∧
      (editDistance as bs = 0 ↔ as = bs) ∧
      editDistance as bs = editDistance bs as ∧
      ∀ cs, editDistance as cs ≤ editDistance as bs + editDistance bs cs := by
  have hleast : ∀ as bs : List Char, IsLeast {n | EditScript n as bs} (editDistance as bs) :=
    fun as bs => ⟨script_editDistance as bs, fun _ => editDistance_le_of_script⟩
  refine ⟨hleast as bs, ?_, ?_, ?_⟩
  · constructor
    · intro hzero
      have hscript := script_editDistance as bs
      rw [hzero] at hscript
      exact hscript.eq_of_zero
    · rintro rfl
      exact Nat.le_zero.mp (editDistance_le_of_script (.done as))
  · apply Nat.le_antisymm
    · exact editDistance_le_of_script (script_editDistance bs as).symm
    · exact editDistance_le_of_script (script_editDistance as bs).symm
  · intro cs
    exact editDistance_le_of_script ((script_editDistance as bs).trans (script_editDistance bs cs))

/-- Two letters that changed places count twice. -/
example : editDistance "lisbao".toList "lisboa".toList = 2 := by decide

end Transcripts.Query
