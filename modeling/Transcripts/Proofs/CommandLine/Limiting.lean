/-
  Transcripts/Proofs/CommandLine/Limiting.lean
  ============================================
  **What a search prints under a limit.**

  A search prints the first of the sessions found, under ranks from one on, and says how
  many more there are (`Tells`).  The lines leave no doubt about the two numbers.  They
  add up to the sessions found under every limit that is not below zero.  One below zero
  leaves off results at the end and is still taken away from the number of sessions, so
  more is announced than there is.
-/
import Transcripts.Proofs.CommandLine.Storing
import Transcripts.Proofs.Search.Intersection
import Transcripts.Proofs.Workspace.Searching

namespace Transcripts.CommandLine

open Transcripts.Search

/-! ### What an action prints -/

namespace Action

variable {α β : Type}

theorem printed_print (lines : List String) : (print lines).printed = lines := by
  simp [print, printed, Step.printed?, Function.comp_def]

theorem printed_bind_of_ok {first : Action α} {x : α} (next : α → Action β)
    (h : first.result = .ok x) : (first >>= next).printed = first.printed ++ (next x).printed := by
  simp [bind, h, printed]

theorem printed_changed (w : Workspace) (lines : List String) (created : Option Tag) :
    (changed w lines created).printed = lines := by
  rw [changed, printed_bind_of_ok (x := ()) _ rfl, printed_bind_of_ok (x := ()) _ rfl, printed_print]
  exact List.append_nil lines

end Action

/-! ### Reports -/

/-- The announcement of more results, if there are to be any. -/
def moreLines (more : Nat) : List String :=
  if more = 0 then [] else ["... " ++ toString more ++ " more (use --limit to show more)"]

/-- The lines about the sessions found: the first of them under ranks from one on, and the
    announcement of more. -/
def report (w : Workspace) (found : List Session) (shown more : Nat) : List String :=
  ["", "Search Results (" ++ toString found.length ++ ")", rule] ++
    if found.isEmpty then ["No results found."]
    else
      ((found.take shown).zipIdx 1).flatMap (fun (s, rank) => resultLines w rank s) ++ moreLines more

/-- The lines about a tag that was saved. -/
def savedLines : Option Tag → List String
  | some tag => ["", "Saved tag '" ++ tag.name ++ "' (" ++ tag.id ++ "): " ++ tag.description]
  | none => []

/-- What is told of the sessions found: how many of them are printed, and how many more
    are announced. -/
structure Tells (w : Workspace) (found : List Session) (response : Response) (shown more : Nat) :
    Prop where
  shown_le : shown ≤ found.length
  none_left : found = [] → more = 0
  printed : response.printed = report w found shown more ++ savedLines response.result.toOption.join

/-- Each session found is either printed or announced, and no more are printed than a
    limit allows. -/
structure Accounts (limit : Int) (found : List Session) (shown more : Nat) : Prop where
  total : shown + more = found.length
  bounded : (shown : Int) ≤ max limit 0

section Report

variable {w : Workspace} {found : List Session} {shown more shown' more' : Nat}

theorem length_moreLines_le (more : Nat) : (moreLines more).length ≤ 1 := by
  rw [moreLines]
  split <;> simp

theorem moreLines_injective (h : moreLines more = moreLines more') : more = more' := by
  by_cases hmore : more = 0 <;> by_cases hmore' : more' = 0
  · rw [hmore, hmore']
  · simp [moreLines, hmore, hmore'] at h
  · simp [moreLines, hmore, hmore'] at h
  · rw [moreLines, moreLines, if_neg hmore, if_neg hmore', List.singleton_inj, String.append_left_inj,
      String.append_right_inj, Nat.toString_eq_ofList_toDigits, Nat.toString_eq_ofList_toDigits,
      String.ofList_inj] at h
    rw [← Nat.ofDigitChars_ten_toDigits (n := more), h, Nat.ofDigitChars_ten_toDigits]

theorem rankedLines_eq (w : Workspace) (rank : Nat) (sessions : List Session) :
    rankedLines w rank sessions =
      (sessions.zipIdx rank).flatMap fun (s, rank) => resultLines w rank s := by
  induction sessions generalizing rank with
  | nil => rfl
  | cons s sessions ih => rw [rankedLines, ih, List.zipIdx_cons, List.flatMap_cons]

theorem length_rankedLines (w : Workspace) (rank : Nat) (sessions : List Session) :
    (rankedLines w rank sessions).length = 4 * sessions.length := by
  induction sessions generalizing rank with
  | nil => rfl
  | cons s sessions ih =>
    have hblock : (resultLines w rank s).length = 4 := rfl
    rw [rankedLines, List.length_append, ih, hblock, List.length_cons]
    omega

/-- A report says how many results are printed and how many are left out: a result takes
    four lines, and the announcement one. -/
theorem report_injective (hne : found ≠ []) (hshown : shown ≤ found.length)
    (hshown' : shown' ≤ found.length) (h : report w found shown more = report w found shown' more') :
    shown = shown' ∧ more = more' := by
  have hempty : ¬ found.isEmpty = true := by simpa using hne
  rw [report, report, if_neg hempty, if_neg hempty, ← rankedLines_eq, ← rankedLines_eq,
    List.append_cancel_left_eq] at h
  have hlength := congrArg List.length h
  simp only [List.length_append, length_rankedLines, List.length_take] at hlength
  -- at most one line does not belong to a result, so the number of lines tells that of results
  have hone := length_moreLines_le more
  have hone' := length_moreLines_le more'
  obtain rfl : shown = shown' := by omega
  rw [List.append_cancel_left_eq] at h
  exact ⟨rfl, moreLines_injective h⟩

theorem Tells.unique {response : Response} (h : Tells w found response shown more)
    (h' : Tells w found response shown' more') : shown = shown' ∧ more = more' := by
  by_cases hne : found = []
  · have hshown := h.shown_le
    have hshown' := h'.shown_le
    rw [hne, List.length_nil] at hshown hshown'
    exact ⟨by omega, (h.none_left hne).trans (h'.none_left hne).symm⟩
  · exact report_injective hne h.shown_le h'.shown_le
      (List.append_cancel_right (h.printed.symm.trans h'.printed))

end Report

/-! ### Limits -/

section Limit

variable (limit : Int)

/-- How many results are announced as left out, in the end. -/
def leftOut (found : List Session) : Nat := if found.isEmpty then 0 else (found.length - limit).toNat

theorem printedCount_le (count : Nat) : printedCount limit count ≤ count := by
  rw [printedCount]
  split <;> omega

theorem moreLines_toNat (count : Nat) :
    ((announcedCount? limit count).map fun more =>
      "... " ++ toString more ++ " more (use --limit to show more)").toList =
        moreLines (count - limit).toNat := by
  rw [announcedCount?]
  split
  case isTrue h =>
    obtain ⟨more, hmore⟩ := Int.eq_ofNat_of_zero_le (a := count - limit) (by omega)
    have hne : more ≠ 0 := by omega
    rw [hmore, Int.toNat_natCast, moreLines, if_neg hne]
    rfl
  case isFalse h =>
    have hzero : (count - limit).toNat = 0 := by omega
    rw [hzero]
    rfl

theorem searchLines_eq (w : Workspace) (found : List Session) :
    searchLines w found limit =
      report w found (printedCount limit found.length) (leftOut limit found) := by
  rw [searchLines, report, leftOut, ← rankedLines_eq]
  cases found with
  | nil => rfl
  | cons s sessions =>
    have hcount : (s :: sessions).length ≠ 0 := Nat.succ_ne_zero _
    rw [if_neg hcount, List.isEmpty_cons, if_neg Bool.false_ne_true, if_neg Bool.false_ne_true,
      moreLines_toNat]

theorem leftOut_of_ne {found : List Session} (hne : found ≠ []) :
    leftOut limit found = (found.length - limit).toNat := by
  rw [leftOut, if_neg (by simpa using hne)]

variable {limit} {found : List Session}

theorem accounts_of_nonneg (h : 0 ≤ limit) :
    Accounts limit found (printedCount limit found.length) (leftOut limit found) := by
  have hshown : printedCount limit found.length = min limit.toNat found.length := if_pos h
  refine ⟨?_, by omega⟩
  by_cases hne : found = []
  · rw [hshown, hne]
    exact Nat.min_zero _
  · rw [hshown, leftOut_of_ne limit hne]
    omega

theorem printedCount_of_neg (h : limit < 0) (count : Nat) :
    printedCount limit count = count - limit.natAbs := if_neg (by omega)

theorem leftOut_of_neg (h : limit < 0) (hne : found ≠ []) :
    leftOut limit found = found.length + limit.natAbs := by
  rw [leftOut_of_ne limit hne]
  omega

/-- No more results are announced than there are exactly if a limit is not below zero. -/
theorem accounts_iff :
    Accounts limit found (printedCount limit found.length) (leftOut limit found) ↔
      0 ≤ limit ∨ found = [] := by
  constructor
  · rintro ⟨htotal, _⟩
    by_contra hneither
    obtain ⟨hneg, hne⟩ := not_or.mp hneither
    have hlimit : limit < 0 := Int.not_le.mp hneg
    rw [leftOut_of_neg hlimit hne] at htotal
    omega
  · rintro (h | rfl)
    · exact accounts_of_nonneg h
    · have hnone : printedCount limit 0 = 0 := Nat.le_zero.mp (printedCount_le limit 0)
      exact ⟨hnone, by rw [List.length_nil, hnone]; omega⟩

end Limit

/-! ### Searches -/

section Search

variable (stamp : TagStore.Stamp) (usualLimit : Nat) {w w' : Workspace} {r : SearchRequest}
  {found : List Session}

/-- What is printed about a tag is printed only if it was made. -/
theorem printed_saving (created : Except WorkspaceFault (Workspace × Tag))
    {next : Workspace × Tag → Response}
    (hnext : ∀ saved, next saved = .changed saved.1 (savedLines (some saved.2)) (some saved.2)) :
    (.tryOn created >>= next : Response).printed =
      savedLines (.tryOn created >>= next : Response).result.toOption.join := by
  cases created with
  | error fault => rfl
  | ok saved =>
    rw [Action.printed_bind_of_ok (x := saved) _ rfl, Action.result_bind_of_ok (x := saved) _ rfl, hnext]
    exact Action.printed_changed saved.1 _ (some saved.2)

theorem printed_search (h : findSessions w r = .ok (w', found)) :
    (search stamp usualLimit w r).printed =
      searchLines w' found (effectiveLimit r.limit usualLimit) ++
        savedLines (search stamp usualLimit w r).result.toOption.join := by
  have hfound : (Action.tryOn (findSessions w r)).result = .ok (w', found) := by rw [h]; rfl
  have hsilent : (Action.tryOn (findSessions w r)).printed = [] := rfl
  rw [search, Action.printed_bind_of_ok _ hfound, Action.result_bind_of_ok _ hfound, hsilent,
    List.nil_append]
  dsimp only
  rw [Action.printed_bind_of_ok (x := ()) _ rfl, Action.result_bind_of_ok (x := ()) _ rfl,
    Action.printed_print, List.append_cancel_left_eq]
  cases r.saveTag with
  | none => rfl
  | some name => exact printed_saving _ fun _ => rfl

theorem tells_search (h : findSessions w r = .ok (w', found)) :
    let limit := effectiveLimit r.limit usualLimit
    Tells w' found (search stamp usualLimit w r) (printedCount limit found.length)
      (leftOut limit found) where
  shown_le := printedCount_le _ _
  none_left := by
    rintro rfl
    rfl
  printed := by rw [printed_search stamp usualLimit h, searchLines_eq]

/-- **What a limit does to what is printed.**  A search prints the first of the sessions
    found and tells how many more there are.  That accounts for all of them, within the
    limit, exactly if the limit is not below zero or nothing is found. -/
theorem search_accounts_iff (h : findSessions w r = .ok (w', found)) :
    let limit := effectiveLimit r.limit usualLimit
    let response := search stamp usualLimit w r
    (∃ shown more, Tells w' found response shown more) ∧
    ∀ shown more, Tells w' found response shown more →
      (Accounts limit found shown more ↔ 0 ≤ limit ∨ found = []) ∧
      (0 ≤ limit → shown = min limit.toNat found.length) ∧
      (limit < 0 → found ≠ [] →
        shown = found.length - limit.natAbs ∧ more = found.length + limit.natAbs) := by
  intro limit response
  have htells : Tells w' found response (printedCount limit found.length) (leftOut limit found) :=
    tells_search stamp usualLimit h
  refine ⟨⟨_, _, htells⟩, ?_⟩
  intro shown more htells'
  obtain ⟨rfl, rfl⟩ := htells.unique htells'
  refine ⟨accounts_iff, ?_, ?_⟩
  · intro hlimit
    exact if_pos hlimit
  · intro hlimit hne
    exact ⟨printedCount_of_neg hlimit _, leftOut_of_neg hlimit hne⟩

end Search

def twoCalls : Workspace where
  sessions := [Workspace.call "s1" "912345678" "olá", Workspace.call "s2" "967654321" "adeus"]

/-- A search for everything, ordered by the numbers that called. -/
def listing (limit : Int) : SearchRequest where
  filters := {}
  tags := []
  only := []
  sort := some .sourceNumber
  limit := some limit
  saveTag := none

def listed : Workspace :=
  twoCalls.commit
    { filters := some {}, activeTags := some [], viewOnly := some false, sort := some .sourceNumber }

theorem findSessions_listing (limit : Int) :
    findSessions twoCalls (listing limit) = .ok (listed, twoCalls.sessions) := by
  have hordered : twoCalls.sessions.Pairwise fun s t =>
      inOrder (SortOption.sourceNumber.compare listed.aliases) false s t = true := by decide +kernel
  have hsorted : sortSessions listed.sort listed.aliases twoCalls.sessions = .ok twoCalls.sessions :=
    congrArg Except.ok ((sortByKey_eq _ _ _ _).trans (List.mergeSort_of_pairwise hordered))
  have hscope : twoCalls.sessions.filter listed.scope.admits = twoCalls.sessions := by decide +kernel
  have haccepted : filterSessions listed.sessions listed.filters listed.scope listed.context =
      .ok twoCalls.sessions := hscope ▸ filterSessions_unset listed.sessions listed.scope listed.context
  have hfound : listed.found = .ok twoCalls.sessions :=
    (Workspace.found_of_accepted (by decide +kernel) haccepted).trans hsorted
  change (listed.found.mapError WorkspaceFault.date >>= fun found => .ok (listed, found)) = _
  rw [hfound]
  rfl

/-- Under a limit of one, the first of two calls is printed, and one more is announced. -/
theorem search_accounts_iff_listing :
    ∃ shown more, Tells listed twoCalls.sessions (search ⟨"t1", 0⟩ 50 twoCalls (listing 1)) shown more ∧
      Accounts 1 twoCalls.sessions shown more ∧ shown = 1 ∧ more = 1 := by
  obtain ⟨⟨shown, more, htells⟩, hall⟩ := search_accounts_iff ⟨"t1", 0⟩ 50 (findSessions_listing 1)
  obtain ⟨haccounts, hshown, _⟩ := hall shown more htells
  have hone : shown = 1 := hshown (by decide)
  have htotal := haccounts.mpr (.inl (by decide))
  have htwo : shown + more = 2 := htotal.total
  exact ⟨shown, more, htells, htotal, hone, by omega⟩

/-- Under a limit of minus one, the last of two calls is left off, and three more are
    announced. -/
theorem negative_limit_overstates :
    let response := search ⟨"t1", 0⟩ 50 twoCalls (listing (-1))
    findSessions twoCalls (listing (-1)) = .ok (listed, twoCalls.sessions) ∧
      Tells listed twoCalls.sessions response 1 3 ∧
      ¬ ∃ shown more, Tells listed twoCalls.sessions response shown more ∧
        Accounts (-1) twoCalls.sessions shown more := by
  intro response
  have htells : Tells listed twoCalls.sessions response 1 3 :=
    tells_search ⟨"t1", 0⟩ 50 (findSessions_listing (-1))
  refine ⟨findSessions_listing (-1), htells, ?_⟩
  rintro ⟨shown, more, htells', htotal, _⟩
  obtain ⟨rfl, rfl⟩ := htells.unique htells'
  exact absurd htotal (by decide)

end Transcripts.CommandLine
