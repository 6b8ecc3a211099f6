/-
  Transcripts/Proofs/Search/Totality.lean
  =======================================
  **When a search comes to an end.**

  Whatever stands in the fields of a session is taken as it is: a duration that
  is none counts as zero, a date that is none as unknown.  The one exception is
  a date of three numbers of which one does not fit a word of 32 bits.  Such a
  date ends every search that reads it, so one session with it keeps all others
  from being found.  The main statement says exactly which searches read one.
-/
import Transcripts.Proofs.Collection.Fallible
import Transcripts.Search.Filter
import Transcripts.Search.Sort

namespace Transcripts

open Transcripts.Calendar
open Transcripts.Identity
open Transcripts.Numeral
open Transcripts.Text

namespace Calendar

/-! ### Dates that are refused -/

/-- Whether a number fits a word of 32 bits. -/
def fitsWord (n : Int) : Bool := -0x80000000 ≤ n && n < 0x80000000

/-- Whether a text is three numbers of which one is too large. -/
def namesOversize (text : List Char) : Bool :=
  match (splitOn '.' (trim text)).map integer? with
  | [some day, some month, some year] => !(fitsWord year && fitsWord month && fitsWord day)
  | _ => false

/-- Whether a bound is such a text.  ISO 8601 goes first. -/
def DateBound.isOversize : DateBound → Bool
  | .written text => (readIso? (trim text.toList)).isNone && namesOversize (trim text.toList)
  | .unset | .exactly _ | .moment _ => false

theorem checkSize_returns_iff {n : Int} : (∃ u, checkSize n = .ok u) ↔ fitsWord n = true := by
  rw [checkSize, fitsWord]
  repeat' split
  all_goals
    simp
    omega

theorem dateOfNumbers_returns_iff {year month day : Int} :
    (∃ d, dateOfNumbers year month day = .ok d) ↔
      fitsWord year = true ∧ fitsWord month = true ∧ fitsWord day = true := by
  rw [dateOfNumbers, exists_bind_iff fun _ => exists_bind_iff fun _ => exists_bind_iff (P := True)
    fun _ => iff_true_intro ⟨_, rfl⟩]
  simp only [checkSize_returns_iff, and_true]

theorem readDotted_returns_iff {text : List Char} :
    (∃ d, readDotted text = .ok d) ↔ namesOversize text = false := by
  rw [readDotted, namesOversize]
  generalize (splitOn '.' (trim text)).map integer? = numbers
  split
  · simp [dateOfNumbers_returns_iff, and_assoc]
  · simp

theorem resolve_returns_iff {bound : DateBound} :
    (∃ d, bound.resolve = .ok d) ↔ bound.isOversize = false := by
  cases bound with
  | unset => simp [DateBound.resolve, DateBound.isOversize]
  | exactly d => simp [DateBound.resolve, DateBound.isOversize]
  | moment m => simp [DateBound.resolve, DateBound.isOversize]
  | written text =>
    rw [DateBound.resolve, DateBound.isOversize]
    cases hcs : trim text.toList with
    | nil => exact iff_of_true ⟨none, rfl⟩ rfl
    | cons c cs =>
      cases hiso : readIso? (c :: cs) with
      | some d => simp
      | none => simp [readDotted_returns_iff]

end Calendar

namespace Search

/-- The date of a session, if it has one that can be read. -/
def knownDate (s : Session) : Option Date := (sessionDate s.date).toOption.join

theorem sessionDate_eq {s : Session} (h : ∃ date, sessionDate s.date = .ok date) :
    sessionDate s.date = .ok (knownDate s) := by
  obtain ⟨date, hdate⟩ := h
  rw [knownDate, hdate]
  rfl

/-! ### Searches that come to an end -/

theorem meetsDates_returns_iff {start stop : Option Date} {s : Session} :
    (∃ b, meetsDates start stop s = .ok b) ↔
      (start.isSome ∨ stop.isSome → namesOversize s.date.toList = false) := by
  rw [meetsDates]
  split
  · next hunbounded =>
    obtain ⟨hstart, hstop⟩ := hunbounded
    rw [Option.isNone_iff_eq_none] at hstart hstop
    simp [hstart, hstop]
  · next hbounded =>
    have hbounded : start.isSome ∨ stop.isSome := by
      cases start <;> cases stop <;> simp_all
    rw [imp_iff_right hbounded, exists_bind_iff (P := True), sessionDate, readDotted_returns_iff, and_true]
    intro d
    cases d <;> exact iff_true_intro ⟨_, rfl⟩

theorem accepts_returns_iff {p : Prepared} {context : Context} {s : Session} :
    (∃ b, p.accepts context s = .ok b) ↔
      (p.meetsUndated context s → p.dateStart.isSome ∨ p.dateEnd.isSome →
        namesOversize s.date.toList = false) := by
  rw [Prepared.accepts]
  split
  · next hundated =>
    rw [imp_iff_right hundated, exists_bind_iff (P := True), meetsDates_returns_iff, and_true]
    exact fun _ => iff_true_intro ⟨_, rfl⟩
  · next hundated => simp [hundated]

theorem prepare_returns_iff {filters : Filters} :
    (∃ p, prepare filters = .ok p) ↔
      filters.dateStart.isOversize = false ∧ filters.dateEnd.isOversize = false := by
  rw [prepare, exists_bind_iff fun _ => exists_bind_iff (P := True) fun _ => iff_true_intro ⟨_, rfl⟩,
    resolve_returns_iff, resolve_returns_iff, and_true]

theorem filterSessions_returns_iff {sessions : List Session} {filters : Filters} {scope : Scope}
    {context : Context} :
    (∃ found, filterSessions sessions filters scope context = .ok found) ↔
      filters.dateStart.isOversize = false ∧ filters.dateEnd.isOversize = false ∧
        ∀ p, prepare filters = .ok p → p.dateStart.isSome ∨ p.dateEnd.isSome →
          ∀ s ∈ sessions, scope.admits s → p.meetsUndated context s →
            namesOversize s.date.toList = false := by
  rw [← and_assoc, ← prepare_returns_iff, filterSessions]
  constructor
  · rintro ⟨found, h⟩
    obtain ⟨p, hp, h⟩ := exists_of_bind_eq_ok h
    obtain ⟨hall, -⟩ := filterM_eq_ok_iff.mp h
    refine ⟨⟨p, hp⟩, fun p' hp' hbounded s hs hadmits hundated => ?_⟩
    obtain rfl : p = p' := Except.ok.inj (hp.symm.trans hp')
    exact accepts_returns_iff.mp (hall s (List.mem_filter.mpr ⟨hs, hadmits⟩)) hundated hbounded
  · rintro ⟨⟨p, hp⟩, hdates⟩
    refine ⟨_, (congrArg (· >>= _) hp).trans (filterM_eq_ok_iff.mpr ⟨fun s hs => ?_, rfl⟩)⟩
    obtain ⟨hs, hadmits⟩ := List.mem_filter.mp hs
    exact accepts_returns_iff.mpr fun hundated hbounded => hdates p hp hbounded s hs hadmits hundated

/-- What is found is some of the sessions, in their order. -/
theorem sublist_of_filterSessions {sessions found : List Session} {filters : Filters} {scope : Scope}
    {context : Context} (h : filterSessions sessions filters scope context = .ok found) :
    found.Sublist sessions := by
  obtain ⟨p, _, h⟩ := exists_of_bind_eq_ok h
  obtain ⟨_, rfl⟩ := filterM_eq_ok_iff.mp h
  exact List.filter_sublist.trans List.filter_sublist

/-! ### Sorting -/

theorem sortByKey_perm {κ : Type} (compare : κ → κ → Ordering) (descending : Bool)
    (keyed : List (κ × Session)) : (sortByKey compare descending keyed).Perm (keyed.map (·.2)) :=
  (List.mergeSort_perm _ _).map _

theorem sortByKey_map_perm {κ : Type} (compare : κ → κ → Ordering) (descending : Bool)
    (key : Session → κ) (sessions : List Session) :
    (sortByKey compare descending (sessions.map fun s => (key s, s))).Perm sessions := by
  have hsessions : (sessions.map fun s => (key s, s)).map (·.2) = sessions := by
    rw [List.map_map]
    exact List.map_id _
  simpa only [hsessions] using sortByKey_perm compare descending (sessions.map fun s => (key s, s))

/-- The sessions by date, as `sortSessions` puts them in both directions. -/
def sortedByDate (descending : Bool) (sessions : List Session) : Except Oversize (List Session) := do
  return sortByKey DateKey.compare descending (← sessions.mapM fun s => return (← dateKey s, s))

theorem dateKey_returns_iff {s : Session} :
    (∃ key, dateKey s = .ok key) ↔ namesOversize s.date.toList = false := by
  rw [dateKey, exists_bind_iff (P := True), sessionDate, readDotted_returns_iff, and_true]
  exact fun _ => iff_true_intro ⟨_, rfl⟩

theorem sortedByDate_returns_iff {descending : Bool} {sessions : List Session} :
    (∃ sorted, sortedByDate descending sessions = .ok sorted) ↔
      ∀ s ∈ sessions, namesOversize s.date.toList = false := by
  rw [sortedByDate, exists_bind_iff (P := True), and_true, exists_mapM_iff]
  · refine forall₂_congr fun s _ => ?_
    rw [exists_bind_iff (P := True), dateKey_returns_iff, and_true]
    exact fun _ => iff_true_intro ⟨_, rfl⟩
  · exact fun _ => iff_true_intro ⟨_, rfl⟩

theorem perm_of_sortedByDate {descending : Bool} {sessions sorted : List Session}
    (h : sortedByDate descending sessions = .ok sorted) : sorted.Perm sessions := by
  obtain ⟨keyed, hkeyed, h⟩ := exists_of_bind_eq_ok h
  have hsessions : keyed.map (·.2) = sessions := by
    refine map_of_mapM_eq_ok (fun hb => ?_) hkeyed
    obtain ⟨_, _, hb⟩ := exists_of_bind_eq_ok hb
    exact congrArg (·.2) (Except.ok.inj hb).symm
  rw [← Except.ok.inj h, ← hsessions]
  exact sortByKey_perm _ _ _

theorem sortSessions_returns_iff {option : SortOption} {aliases : AliasMap} {sessions : List Session} :
    (∃ sorted, sortSessions option aliases sessions = .ok sorted) ↔
      (option = .dateDescending ∨ option = .dateAscending →
        ∀ s ∈ sessions, namesOversize s.date.toList = false) := by
  cases option with
  | dateDescending => exact sortedByDate_returns_iff.trans (by simp)
  | dateAscending => exact sortedByDate_returns_iff.trans (by simp)
  | durationDescending | sourceNumber | destinationNumber | sourceName | destinationName =>
    exact iff_of_true ⟨_, rfl⟩ (by simp)

/-- Sorting loses no session and adds none. -/
theorem perm_of_sortSessions {option : SortOption} {aliases : AliasMap} {sessions sorted : List Session}
    (h : sortSessions option aliases sessions = .ok sorted) : sorted.Perm sessions := by
  cases option with
  | dateDescending | dateAscending => exact perm_of_sortedByDate h
  | durationDescending | sourceNumber | destinationNumber | sourceName | destinationName =>
    obtain rfl := Except.ok.inj h
    exact sortByKey_map_perm _ _ _ _

/-- **Searches that come to an end.**  A search returns some of the sessions exactly
    if no bound that is set is an oversize date and, where a bound is a date at all,
    no session has one whose date is read.  Sorting returns the sessions exactly if
    it is not by date or no session has an oversize date. -/
theorem search_returns_iff (sessions : List Session) (filters : Filters) (scope : Scope)
    (context : Context) (option : SortOption) (aliases : AliasMap) :
    ((∃ found, filterSessions sessions filters scope context = .ok found ∧ found.Sublist sessions) ↔
      filters.dateStart.isOversize = false ∧ filters.dateEnd.isOversize = false ∧
        ∀ p, prepare filters = .ok p → p.dateStart.isSome ∨ p.dateEnd.isSome →
          ∀ s ∈ sessions, scope.admits s → p.meetsUndated context s →
            namesOversize s.date.toList = false) ∧
    ((∃ sorted, sortSessions option aliases sessions = .ok sorted ∧ sorted.Perm sessions) ↔
      (option = .dateDescending ∨ option = .dateAscending →
        ∀ s ∈ sessions, namesOversize s.date.toList = false)) := by
  have hfilter (found : List Session) : filterSessions sessions filters scope context = .ok found ∧
      found.Sublist sessions ↔ filterSessions sessions filters scope context = .ok found :=
    and_iff_left_of_imp sublist_of_filterSessions
  have hsort (sorted : List Session) : sortSessions option aliases sessions = .ok sorted ∧
      sorted.Perm sessions ↔ sortSessions option aliases sessions = .ok sorted :=
    and_iff_left_of_imp perm_of_sortSessions
  simp only [hfilter, hsort]
  exact ⟨filterSessions_returns_iff, sortSessions_returns_iff⟩

/-- A session whose year is one beyond the greatest word. -/
def beyondCalendar : Session :=
  { id := "s1", target := "910000000", date := "1.1.2147483648", kind := .audio, content := "x" }

/-- It does no harm where no date is read. -/
theorem search_returns_beyondCalendar :
    (∃ found, filterSessions [beyondCalendar] { content := "x" } {} {} = .ok found ∧
      found.Sublist [beyondCalendar]) ∧
    ∃ sorted, sortSessions .durationDescending [] [beyondCalendar] = .ok sorted ∧
      sorted.Perm [beyondCalendar] := by
  obtain ⟨hfilter, hsort⟩ := search_returns_iff [beyondCalendar] { content := "x" } {} {}
    .durationDescending []
  refine ⟨hfilter.mpr ⟨rfl, rfl, fun p hp hbounded => ?_⟩, hsort.mpr (by simp)⟩
  obtain rfl := Except.ok.inj hp
  simp at hbounded

theorem oversize_year_ends_search :
    (filterSessions [beyondCalendar] { dateStart := .written "2024-01-01" } {} {}).isOk = false ∧
      (sortSessions .dateAscending [] [beyondCalendar]).isOk = false := by
  decide +kernel

end Search

end Transcripts
