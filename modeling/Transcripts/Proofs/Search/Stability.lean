/-
  Transcripts/Proofs/Search/Stability.lean
  ========================================
  **Sorting keeps the order of what it does not have to move.**

  The same session may be given more than once, and sessions may have equal keys, so
  where a session stands is not settled by its key.  Stability settles it.  One
  more session in front of a list goes to one place in the sorted list: behind those
  that must come before it, before all others (`mergeSort_cons_cases`).  From this one
  fact it follows, session by session, that a part of a list is sorted as it stands in
  the sorted whole (`sublist_mergeSort_of_sublist`), and then what stability says of
  equal keys: their sessions are a part that has no need to be sorted.

  A descending order turns the comparison round and not the list, so none of this looks
  at the direction.  Nor does it look at the keys; by what text two identities are
  compared is said on its own (`ComparedAs`).
-/
import Transcripts.Proofs.Search.Ordering

namespace Transcripts

open Transcripts.Calendar
open Transcripts.Identity
open Transcripts.Text

/-! ### Parts of a sorted list -/

/-- A cut by a question, between those that say no and those that say yes. -/
theorem filter_of_cut {α : Type} {p : α → Bool} {front back : List α} (hfront : ∀ a ∈ front, p a = false)
    (hback : ∀ a ∈ back, p a = true) :
    (front ++ back).filter (!p ·) = front ∧ (front ++ back).filter p = back := by
  have hno : front.filter (!p ·) = front ∧ front.filter p = [] := by
    refine ⟨List.filter_eq_self.mpr ?_, List.filter_eq_nil_iff.mpr ?_⟩ <;> simpa using hfront
  have hyes : back.filter (!p ·) = [] ∧ back.filter p = back := by
    refine ⟨List.filter_eq_nil_iff.mpr ?_, List.filter_eq_self.mpr ?_⟩ <;> simpa using hback
  rw [List.filter_append, List.filter_append, hno.1, hno.2, hyes.1, hyes.2, List.append_nil]
  exact ⟨rfl, rfl⟩

section Parts

variable {α : Type} {le : α → α → Bool}
  (trans : ∀ a b c, le a b = true → le b c = true → le a c = true)
  (total : ∀ a b, (le a b || le b a) = true)

include trans total

/-- One more element in front: those before it in the sorted list must come before it,
    those behind it need not. -/
theorem mergeSort_cons_cases (a : α) (l : List α) :
    ∃ before behind, (a :: l).mergeSort le = before ++ a :: behind ∧
      l.mergeSort le = before ++ behind ∧
      (∀ b ∈ before, le a b = false) ∧ ∀ b ∈ behind, le a b = true := by
  obtain ⟨before, behind, hwith, hwithout, hbefore⟩ := List.mergeSort_cons trans total a l
  have hsorted := List.pairwise_mergeSort trans total (a :: l)
  rw [hwith] at hsorted
  obtain ⟨_, hrest, _⟩ := List.pairwise_append.mp hsorted
  refine ⟨before, behind, hwith, hwithout, ?_, (List.pairwise_cons.mp hrest).1⟩
  intro b hb
  simpa using hbefore b hb

/-- A part of a list is sorted as it stands in the whole when that is sorted. -/
theorem sublist_mergeSort_of_sublist {part whole : List α} (h : part.Sublist whole) :
    (part.mergeSort le).Sublist (whole.mergeSort le) := by
  induction h with
  | slnil => exact List.Sublist.refl _
  | @cons part whole a _ ih =>
    obtain ⟨before, behind, hwith, hwithout, _, _⟩ := mergeSort_cons_cases trans total a whole
    rw [hwith]
    rw [hwithout] at ih
    exact ih.trans ((List.sublist_cons_self a behind).append_left before)
  | @cons_cons part whole a _ ih =>
    obtain ⟨before, behind, hwith, hwithout, hbefore, hbehind⟩ :=
      mergeSort_cons_cases trans total a part
    obtain ⟨before', behind', hwith', hwithout', hbefore', hbehind'⟩ :=
      mergeSort_cons_cases trans total a whole
    rw [hwithout, hwithout'] at ih
    rw [hwith, hwith']
    -- the element cuts both lists at the same question, whether it may come before
    obtain ⟨hfront, hback⟩ := filter_of_cut hbefore hbehind
    obtain ⟨hfront', hback'⟩ := filter_of_cut hbefore' hbehind'
    have hbeforeSub := ih.filter (!le a ·)
    rw [hfront, hfront'] at hbeforeSub
    have hbehindSub := ih.filter (le a)
    rw [hback, hback'] at hbehindSub
    exact hbeforeSub.append (hbehindSub.cons_cons a)

/-- Leaving out before sorting is leaving out behind it. -/
theorem mergeSort_filter (kept : α → Bool) (l : List α) :
    (l.filter kept).mergeSort le = (l.mergeSort le).filter kept := by
  have hpart : (l.filter kept).Sublist l := List.filter_sublist
  have hsub := (sublist_mergeSort_of_sublist trans total hpart).filter kept
  have hself : ((l.filter kept).mergeSort le).filter kept = (l.filter kept).mergeSort le := by
    rw [List.filter_eq_self]
    intro a ha
    exact (List.mem_filter.mp ((List.mergeSort_perm _ le).mem_iff.mp ha)).2
  rw [hself] at hsub
  apply hsub.eq_of_length
  rw [(List.mergeSort_perm _ le).length_eq, ((List.mergeSort_perm l le).filter kept).length_eq]

end Parts

/-- Elements with one key keep their order, in either direction. -/
theorem filter_mergeSort_of_eq {α : Type} {cmp : α → α → Ordering} [Std.TransCmp cmp]
    (descending : Bool) (a : α) (l : List α) :
    (l.mergeSort (inOrder cmp descending)).filter (cmp a · = .eq) = l.filter (cmp a · = .eq) := by
  rw [← mergeSort_filter (inOrder_trans cmp descending) (inOrder_total cmp descending)]
  apply List.mergeSort_of_pairwise
  apply List.pairwise_of_forall_mem_list
  intro b hb c hc
  have hab : cmp a b = .eq := by simpa using (List.mem_filter.mp hb).2
  have hac : cmp a c = .eq := by simpa using (List.mem_filter.mp hc).2
  have hcb : cmp c b = .eq := Std.TransCmp.eq_trans (Std.OrientedCmp.eq_symm hac) hab
  exact inOrder_of_eq cmp descending hcb

namespace Search

/-! ### Dates that cannot be read -/

/-- No date is before the first one. -/
theorem isLE_compare_first (d : Date) : (Date.compare .first d).isLE = true := by
  obtain ⟨year, month, day, h⟩ := d
  simp only [isDate, Bool.and_eq_true, decide_eq_true_eq] at h
  obtain ⟨⟨⟨hyear, _⟩, hday⟩, hlast⟩ := h
  have hmonth : 1 ≤ month := by
    cases month with
    | zero => exact absurd (Nat.le_trans hday hlast) (Nat.not_succ_le_zero 0)
    | succ month => exact Nat.le_add_left 1 month
  have hthen {a b : Ordering} (ha : a.isLE = true) (hb : b.isLE = true) : (a.then b).isLE = true := by
    cases a <;> first | exact hb | exact ha
  exact hthen (Nat.isLE_compare.mpr hyear)
    (hthen (Nat.isLE_compare.mpr hmonth) (Nat.isLE_compare.mpr hday))

/-! ### Sessions -/

variable {option : SortOption} {aliases : AliasMap} {sessions sorted : List Session}

theorem sortSessions_sublist (h : sortSessions option aliases sessions = .ok sorted)
    {part : List Session} (hpart : part.Sublist sessions) :
    ∃ found, sortSessions option aliases part = .ok found ∧ found.Sublist sorted := by
  have hreturns : ∃ found, sortSessions option aliases part = .ok found := by
    rw [sortSessions_returns_iff]
    intro hdate s hs
    exact sortSessions_returns_iff.mp ⟨sorted, h⟩ hdate s (hpart.subset hs)
  obtain ⟨found, hfound⟩ := hreturns
  refine ⟨found, hfound, ?_⟩
  rw [sortSessions_eq hfound, sortSessions_eq h]
  exact sublist_mergeSort_of_sublist (inOrder_trans _ _) (inOrder_total _ _) hpart

/-- A part is sorted as it stands in the whole when that is sorted. -/
theorem sortSessions_filter (h : sortSessions option aliases sessions = .ok sorted)
    (kept : Session → Bool) :
    sortSessions option aliases (sessions.filter kept) = .ok (sorted.filter kept) := by
  obtain ⟨found, hfound, _⟩ := sortSessions_sublist h List.filter_sublist
  rw [hfound, sortSessions_eq hfound, sortSessions_eq h,
    mergeSort_filter (inOrder_trans _ _) (inOrder_total _ _)]

theorem pairwise_inOrder (h : sortSessions option aliases sessions = .ok sorted) :
    sorted.Pairwise fun s t => inOrder (option.compare aliases) option.descends s t = true := by
  rw [sortSessions_eq h]
  exact List.pairwise_mergeSort (inOrder_trans _ _) (inOrder_total _ _) sessions

/-! ### Identities -/

/-- What an option by an identity looks at, first of all the name where it is one by
    name; nothing for the other options. -/
def SortOption.identities : SortOption → Session → List (Option String)
  | .sourceNumber, s => [s.sourceNumber]
  | .destinationNumber, s => [s.destinationNumber]
  | .sourceName, s => [s.sourceName, s.sourceNumber]
  | .destinationName, s => [s.destinationName, s.destinationNumber]
  | _, _ => []

/-- The text by which identities are ordered: the first of them that is not empty when it
    is shown through the aliases, folded. -/
inductive ComparedAs (aliases : AliasMap) : List (Option String) → String → Prop where
  | unknown : ComparedAs aliases [] ""
  | known {identity : Option String} {name : String} {others : List (Option String)} :
      aliases.resolve identity = some name → name ≠ "" →
        ComparedAs aliases (identity :: others) (folded name)
  | passed {identity : Option String} {others : List (Option String)} {text : String} :
      aliases.resolve identity = none ∨ aliases.resolve identity = some "" →
        ComparedAs aliases others text → ComparedAs aliases (identity :: others) text

theorem comparedAs_identityKey (aliases : AliasMap) (identities : List (Option String)) :
    ComparedAs aliases identities (identityKey (identities.map aliases.resolve)) := by
  induction identities with
  | nil =>
    have hnone : identityKey [] = "" := by decide +kernel
    rw [List.map_nil, hnone]
    exact .unknown
  | cons identity others ih =>
    rw [List.map_cons]
    cases hshown : aliases.resolve identity with
    | none => exact .passed (.inl hshown) ih
    | some name =>
      by_cases hname : name = ""
      · subst hname
        exact .passed (.inr hshown) ih
      · have hkey : identityKey (some name :: others.map aliases.resolve) = folded name := by
          have hnonempty : name.isEmpty = false := by simpa using hname
          simp [identityKey, hnonempty]
        rw [hkey]
        exact .known hshown hname

/-- The text by which identities are ordered is settled by them. -/
theorem ComparedAs.eq {identities : List (Option String)} {text text' : String}
    (h : ComparedAs aliases identities text) (h' : ComparedAs aliases identities text') :
    text = text' := by
  induction h with
  | unknown => cases h'; rfl
  | known hshown hname =>
    cases h' with
    | known hshown' _ => rw [Option.some.inj (hshown.symm.trans hshown')]
    | passed hpassed _ => simp [hshown, hname] at hpassed
  | passed hpassed _ ih =>
    cases h' with
    | known hshown hname => simp [hshown, hname] at hpassed
    | passed _ hothers => exact ih hothers

theorem compare_of_comparedAs {s t : Session} {x y : String} (hoption : option.identities s ≠ [])
    (hs : ComparedAs aliases (option.identities s) x)
    (ht : ComparedAs aliases (option.identities t) y) :
    option.compare aliases s t = Ord.compare x y := by
  rw [hs.eq (comparedAs_identityKey aliases _), ht.eq (comparedAs_identityKey aliases _)]
  cases option with
  | dateDescending | dateAscending | durationDescending => exact absurd rfl hoption
  | sourceNumber | destinationNumber | sourceName | destinationName => rfl

/-- **What sorting gives.**  Wherever sorting comes to an end, it keeps all sessions, puts
    each before those that come later by the key of the option, in its direction, and keeps
    the order in which sessions with one key were given.  A session without a date that
    can be read is put where the first of all dates is, and identities are compared as
    they are shown and folded.  So it makes no difference whether sessions are left out
    before or behind, by what they are or one at a time. -/
theorem sortSessions_stable (h : sortSessions option aliases sessions = .ok sorted) :
    sorted.Perm sessions ∧
      sorted.Pairwise (fun s t => inOrder (option.compare aliases) option.descends s t = true) ∧
      (∀ s : Session, sorted.filter (option.compare aliases s · = .eq) =
        sessions.filter (option.compare aliases s · = .eq)) ∧
      (∀ s t : Session, knownDate s = none →
        (Date.compare (knownDateKey s).date (knownDateKey t).date).isLE = true) ∧
      (∀ s t : Session, option.identities s ≠ [] →
        ∃ x y, ComparedAs aliases (option.identities s) x ∧
          ComparedAs aliases (option.identities t) y ∧
          option.compare aliases s t = Ord.compare x y) ∧
      (∀ kept : Session → Bool,
        sortSessions option aliases (sessions.filter kept) = .ok (sorted.filter kept)) ∧
      ∀ part : List Session, part.Sublist sessions →
        ∃ found, sortSessions option aliases part = .ok found ∧ found.Sublist sorted := by
  refine ⟨perm_of_sortSessions h, pairwise_inOrder h, ?_, ?_, ?_, sortSessions_filter h, ?_⟩
  · intro s
    rw [sortSessions_eq h]
    exact filter_mergeSort_of_eq option.descends s sessions
  · intro s t hs
    have hfirst : (knownDateKey s).date = .first := by rw [knownDateKey, hs]; rfl
    rw [hfirst]
    exact isLE_compare_first _
  · intro s t hoption
    have hs := comparedAs_identityKey aliases (option.identities s)
    have ht := comparedAs_identityKey aliases (option.identities t)
    exact ⟨_, _, hs, ht, compare_of_comparedAs hoption hs ht⟩
  · intro part hpart
    exact sortSessions_sublist h hpart

/-- A call of which nothing is known but who made it. -/
def callFrom (id : String) (sourceName sourceNumber : Option String) : Session :=
  { id, target := "910000000", date := "04.02.2024", sourceName, sourceNumber, kind := .audio,
    content := "x" }

/-- Two callers go by a name that their number is shown as; two others go by one
    name, written in two ways. -/
def namedCalls : List Session :=
  [callFrom "s1" none (some "912"), callFrom "s2" (some "carla") none,
    callFrom "s3" (some "") (some "934"), callFrom "s4" (some "Carla") (some "935")]

def callerNames : AliasMap := [("912", "Zé"), ("934", "Ânia")]

def callersInOrder : List Session :=
  [callFrom "s3" (some "") (some "934"), callFrom "s2" (some "carla") none,
    callFrom "s4" (some "Carla") (some "935"), callFrom "s1" none (some "912")]

theorem sortSessions_namedCalls :
    sortSessions .sourceName callerNames namedCalls = .ok callersInOrder := by
  let le := inOrder (SortOption.sourceName.compare callerNames) false
  have hfirst : le (callFrom "s1" none (some "912")) (callFrom "s2" (some "carla") none) = false := by
    decide +kernel
  have hlast : le (callFrom "s3" (some "") (some "934")) (callFrom "s4" (some "Carla") (some "935")) =
      true := by decide +kernel
  have hends : le (callFrom "s2" (some "carla") none) (callFrom "s3" (some "") (some "934")) = false := by
    decide +kernel
  have hsame : le (callFrom "s2" (some "carla") none) (callFrom "s4" (some "Carla") (some "935")) =
      true := by decide +kernel
  have hmiddle : le (callFrom "s1" none (some "912")) (callFrom "s4" (some "Carla") (some "935")) =
      false := by decide +kernel
  rw [show sortSessions .sourceName callerNames namedCalls =
      .ok (namedCalls.mergeSort le) from congrArg Except.ok (sortByKey_eq _ _ _ _)]
  simp [namedCalls, callersInOrder, List.mergeSort, List.MergeSort.Internal.splitInTwo, hfirst,
    hlast, hends, hsame, hmiddle]

theorem sortSessions_stable_namedCalls :
    sortSessions .sourceName callerNames namedCalls = .ok callersInOrder ∧
    callersInOrder.Perm namedCalls ∧
      callersInOrder.Pairwise
        (fun s t => inOrder (SortOption.sourceName.compare callerNames) false s t = true) ∧
      (∀ s : Session, callersInOrder.filter (SortOption.sourceName.compare callerNames s · = .eq) =
        namedCalls.filter (SortOption.sourceName.compare callerNames s · = .eq)) ∧
      (∀ s t : Session, knownDate s = none →
        (Date.compare (knownDateKey s).date (knownDateKey t).date).isLE = true) ∧
      (∀ s t : Session, [s.sourceName, s.sourceNumber] ≠ [] →
        ∃ x y, ComparedAs callerNames [s.sourceName, s.sourceNumber] x ∧
          ComparedAs callerNames [t.sourceName, t.sourceNumber] y ∧
          SortOption.sourceName.compare callerNames s t = Ord.compare x y) ∧
      (∀ kept : Session → Bool, sortSessions .sourceName callerNames (namedCalls.filter kept) =
        .ok (callersInOrder.filter kept)) ∧
      ∀ part : List Session, part.Sublist namedCalls →
        ∃ found, sortSessions .sourceName callerNames part = .ok found ∧
          found.Sublist callersInOrder :=
  ⟨sortSessions_namedCalls, sortSessions_stable sortSessions_namedCalls⟩

end Search

end Transcripts
