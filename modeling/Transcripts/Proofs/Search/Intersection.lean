/-
  Transcripts/Proofs/Search/Intersection.lean
  ===========================================
  **A search finds what each of its criteria finds.**

  Where no date is refused, whether a session is accepted is a truth value, and it
  is a conjunction with one part for each criterion.  A criterion that is not set
  accepts every session.  So a search can be taken apart into searches that each
  set one criterion or one scope, and what it finds is what all of them find.
-/
import Transcripts.Proofs.Search.Totality

namespace Transcripts.Search

open Transcripts.Calendar
open Transcripts.Text

/-! ### Acceptance where no date is refused -/

def boundDate (bound : DateBound) : Option Date := bound.resolve.toOption.join

/-- Whether a date lies between two bounds; a date that is not known does. -/
def withinDates (start stop date : Option Date) : Bool :=
  date.all fun d =>
    start.all (fun b => Date.compare d b ≠ .lt) && stop.all (fun b => Date.compare d b ≠ .gt)

def Filters.ready (f : Filters) : Prepared where
  filters := f
  query := Query.compile f.content
  fragments := sessionFragments f.session
  dateStart := boundDate f.dateStart
  dateEnd := boundDate f.dateEnd

/-- Whether a session meets every criterion, where its date is not refused. -/
def Filters.meets (f : Filters) (context : Context) (s : Session) : Bool :=
  f.ready.meetsUndated context s &&
    withinDates (boundDate f.dateStart) (boundDate f.dateEnd) (knownDate s) && meetsTimes f s

theorem prepare_eq {f : Filters} (hstart : f.dateStart.isOversize = false)
    (hend : f.dateEnd.isOversize = false) : prepare f = .ok f.ready := by
  obtain ⟨start, hstart⟩ := resolve_returns_iff.mpr hstart
  obtain ⟨stop, hstop⟩ := resolve_returns_iff.mpr hend
  simp [prepare, Filters.ready, boundDate, hstart, hstop, bind, Except.bind, pure, Except.pure,
    Except.toOption]

theorem meetsDates_eq {start stop : Option Date} {s : Session}
    (h : namesOversize s.date.toList = false) :
    meetsDates start stop s = .ok (withinDates start stop (knownDate s)) := by
  have hdate := sessionDate_eq (readDotted_returns_iff.mpr h)
  rw [meetsDates]
  split
  · next hunbounded =>
    rw [Option.isNone_iff_eq_none, Option.isNone_iff_eq_none] at hunbounded
    obtain ⟨rfl, rfl⟩ := hunbounded
    simp [withinDates]
  · rw [hdate]
    cases knownDate s <;> rfl

theorem accepts_eq {f : Filters} {context : Context} {s : Session}
    (h : namesOversize s.date.toList = false) :
    f.ready.accepts context s = .ok (f.meets context s) := by
  rw [Prepared.accepts, Filters.meets]
  by_cases hundated : f.ready.meetsUndated context s = true
  · rw [if_pos hundated, meetsDates_eq h, hundated]
    rfl
  · rw [if_neg hundated]
    simp [hundated]

theorem filterSessions_of_accepts {sessions : List Session} {f : Filters} {scope : Scope}
    {context : Context} (hprepare : prepare f = .ok f.ready)
    (haccepts : ∀ s ∈ sessions, f.ready.accepts context s = .ok (f.meets context s)) :
    filterSessions sessions f scope context =
      .ok (sessions.filter fun s => f.meets context s && scope.admits s) := by
  have hadmitted : ∀ s ∈ sessions.filter scope.admits,
      f.ready.accepts context s = .ok (f.meets context s) := by
    intro s hs
    exact haccepts s (List.mem_filter.mp hs).1
  rw [filterSessions, hprepare]
  refine filterM_eq_ok_iff.mpr ⟨fun s hs => ⟨_, hadmitted s hs⟩, ?_⟩
  rw [← List.filter_filter]
  apply List.filter_congr
  intro s hs
  rw [hadmitted s hs]
  simp [Except.toOption]

/-- What a search finds, where no date is refused. -/
theorem filterSessions_eq {sessions : List Session} {f : Filters} {scope : Scope} {context : Context}
    (hsessions : ∀ s ∈ sessions, namesOversize s.date.toList = false)
    (hstart : f.dateStart.isOversize = false) (hend : f.dateEnd.isOversize = false) :
    filterSessions sessions f scope context =
      .ok (sessions.filter fun s => f.meets context s && scope.admits s) :=
  filterSessions_of_accepts (prepare_eq hstart hend) fun s hs => accepts_eq (hsessions s hs)

/-! ### One criterion at a time -/

/-- The searches that each set one criterion of a search and no other.  The two
    bounds on the time of day make one criterion. -/
def Filters.oneByOne (f : Filters) : List Filters :=
  [{ minDuration := f.minDuration }, { maxDuration := f.maxDuration },
    { sourceNumbers := f.sourceNumbers }, { destinationNumbers := f.destinationNumbers },
    { sourceSpeakers := f.sourceSpeakers }, { destinationSpeakers := f.destinationSpeakers },
    { articles := f.articles }, { facts := f.facts }, { legalTags := f.legalTags },
    { session := f.session }, { content := f.content },
    { dateStart := f.dateStart }, { dateEnd := f.dateEnd },
    { timeStart := f.timeStart, timeEnd := f.timeEnd }]

def Scope.oneByOne (scope : Scope) : List Scope :=
  [{ activeTags := scope.activeTags, tags := scope.tags },
    { selection := scope.selection, viewOnly := scope.viewOnly }]

/-- The searches that each have one criterion or one limit of a search. -/
def oneByOne (f : Filters) (scope : Scope) : List (Filters × Scope) :=
  f.oneByOne.map (fun alone => (alone, ({} : Scope))) ++
    scope.oneByOne.map fun alone => (({} : Filters), alone)

theorem meetsDuration_eq (f : Filters) (s : Session) :
    meetsDuration f s = (meetsDuration { minDuration := f.minDuration } s &&
      meetsDuration { maxDuration := f.maxDuration } s) := by
  unfold meetsDuration
  cases f.minDuration <;> cases f.maxDuration <;> cases s.isAudio <;> simp

theorem withinDates_eq (start stop date : Option Date) :
    withinDates start stop date = (withinDates start none date && withinDates none stop date) := by
  cases date <;> simp [withinDates]

@[simp] theorem withinDates_unbounded (date : Option Date) : withinDates none none date = true := by
  cases date <;> rfl

@[simp] theorem meetsIdentity_nil (aliases : Identity.AliasMap) (candidates : List (Option String)) :
    meetsIdentity aliases [] candidates = true := rfl

@[simp] theorem meetsLegal_nil (legal : Option LegalRegistry) (category : LegalCategory) (s : Session) :
    meetsLegal legal category [] s = true := rfl

@[simp] theorem meetsFragments_empty (s : Session) : meetsFragments (sessionFragments "") s = true := by
  have hnone : sessionFragments "" = [] := by decide +kernel
  rw [hnone]
  rfl

@[simp] theorem finds_empty (content : String) : (Query.compile "").finds content = true := by
  rfl

@[simp] theorem boundDate_unset : boundDate .unset = none := rfl

@[simp] theorem meetsDuration_unset (f : Filters) (s : Session) (hmin : f.minDuration = none)
    (hmax : f.maxDuration = none) : meetsDuration f s = true := by
  simp [meetsDuration, hmin, hmax]

@[simp] theorem meetsTimes_unset (f : Filters) (s : Session) (hstart : f.timeStart = "")
    (hend : f.timeEnd = "") : meetsTimes f s = true := by
  simp [meetsTimes, hstart, hend]

/-- A session meets all criteria exactly if it meets each of them alone. -/
theorem meets_eq_oneByOne (f : Filters) (context : Context) (s : Session) :
    f.meets context s = f.oneByOne.all (·.meets context s) := by
  have htimes : meetsTimes f s = meetsTimes { timeStart := f.timeStart, timeEnd := f.timeEnd } s := rfl
  rw [Filters.meets, Prepared.meetsUndated, withinDates_eq]
  simp only [Filters.ready]
  rw [meetsDuration_eq, htimes]
  -- what is left is one conjunction in the same order on both sides
  simp [Filters.oneByOne, Filters.meets, Prepared.meetsUndated, Filters.ready, Bool.and_assoc]

@[simp] theorem meets_unset (context : Context) (s : Session) : Filters.meets {} context s = true := by
  simp [Filters.meets, Prepared.meetsUndated, Filters.ready]

/-- Without a date bound no date is read, so none is refused. -/
theorem filterSessions_undated (sessions : List Session) {f : Filters} (scope : Scope)
    (context : Context) (hstart : f.dateStart = .unset) (hend : f.dateEnd = .unset) :
    filterSessions sessions f scope context =
      .ok (sessions.filter fun s => f.meets context s && scope.admits s) := by
  apply filterSessions_of_accepts (prepare_eq (by rw [hstart]; rfl) (by rw [hend]; rfl))
  intro s _
  have hdates : meetsDates f.ready.dateStart f.ready.dateEnd s = .ok true := by
    simp [meetsDates, Filters.ready, hstart, hend]
  rw [Prepared.accepts, Filters.meets, hstart, hend, hdates, boundDate_unset, withinDates_unbounded]
  cases f.ready.meetsUndated context s <;> rfl

/-- Without criteria every session in scope is found. -/
theorem filterSessions_unset (sessions : List Session) (scope : Scope) (context : Context) :
    filterSessions sessions {} scope context = .ok (sessions.filter scope.admits) := by
  rw [filterSessions_undated sessions scope context rfl rfl]
  simp

theorem meets_of_isEmpty {f : Filters} (h : f.isEmpty = true) (context : Context) (s : Session) :
    f.meets context s = true := by
  have hunset {bound : DateBound} (hbound : isUnset bound = true) : boundDate bound = none := by
    cases bound with
    | unset => rfl
    | exactly _ => simp [isUnset] at hbound
    | moment _ => simp [isUnset] at hbound
    | written text =>
      obtain rfl : text = "" := by simpa [isUnset] using hbound
      rfl
  simp only [Filters.isEmpty, Bool.and_eq_true, String.isEmpty_iff, Option.isNone_iff_eq_none,
    List.isEmpty_iff] at h
  obtain ⟨⟨⟨⟨⟨⟨⟨⟨⟨⟨⟨⟨⟨⟨hsession, hcontent⟩, hstart⟩, hend⟩, htimeStart⟩, htimeEnd⟩, hmin⟩, hmax⟩,
    hsources⟩, hdestinations⟩, hfrom⟩, hto⟩, harticles⟩, hfacts⟩, htags⟩ := h
  simp [Filters.meets, Prepared.meetsUndated, Filters.ready, *]

theorem admits_eq_oneByOne (scope : Scope) (s : Session) :
    scope.admits s = scope.oneByOne.all (·.admits s) := by
  simp [Scope.oneByOne, Scope.admits]

@[simp] theorem admits_unset (s : Session) : Scope.admits {} s = true := rfl

theorem accepted_eq_oneByOne (f : Filters) (scope : Scope) (context : Context) (s : Session) :
    (f.meets context s && scope.admits s) =
      (oneByOne f scope).all fun alone => alone.1.meets context s && alone.2.admits s := by
  simp [oneByOne, meets_eq_oneByOne f, admits_eq_oneByOne scope, List.all_map, Function.comp_def]

theorem bounds_oneByOne (f : Filters) (scope : Scope) :
    ∀ alone ∈ oneByOne f scope,
      (alone.1.dateStart = f.dateStart ∨ alone.1.dateStart = .unset) ∧
        (alone.1.dateEnd = f.dateEnd ∨ alone.1.dateEnd = .unset) := by
  simp [oneByOne, Filters.oneByOne, Scope.oneByOne]

/-- **A search finds what each of its criteria finds.**  Where no number of a date
    exceeds 32 bits, a search keeps, in their order, the sessions that are found by
    every search with one of its criteria or limits alone; if it has none, it keeps
    all of them. -/
theorem filterSessions_intersection (sessions : List Session) (f : Filters) (scope : Scope)
    (context : Context) (hsessions : ∀ s ∈ sessions, namesOversize s.date.toList = false)
    (hstart : f.dateStart.isOversize = false) (hend : f.dateEnd.isOversize = false) :
    ∃ found alone, filterSessions sessions f scope context = .ok found ∧
      (oneByOne f scope).mapM (fun search => filterSessions sessions search.1 search.2 context) =
        .ok alone ∧
      found = sessions.filter (fun s => alone.all (·.contains s)) ∧
      (found.map (·.id)).Sublist (sessions.map (·.id)) ∧
      (f.isEmpty = true → scope.activeTags = [] → scope.viewOnly = false → found = sessions) := by
  have halone : ∀ search ∈ oneByOne f scope,
      filterSessions sessions search.1 search.2 context =
        .ok (sessions.filter fun s => search.1.meets context s && search.2.admits s) := by
    intro search hsearch
    obtain ⟨hfrom, hto⟩ := bounds_oneByOne f scope search hsearch
    refine filterSessions_eq hsessions ?_ ?_
    · rcases hfrom with heq | heq
      · rw [heq, hstart]
      · rw [heq]
        rfl
    · rcases hto with heq | heq
      · rw [heq, hend]
      · rw [heq]
        rfl
  refine ⟨_, _, filterSessions_eq hsessions hstart hend, mapM_eq_ok halone, ?_, ?_, ?_⟩
  · refine List.filter_congr fun s hs => ?_
    rw [accepted_eq_oneByOne, List.all_map]
    refine List.all_congr rfl fun search => ?_
    simp [hs]
  · exact List.filter_sublist.map _
  · intro hempty htags hview
    refine List.filter_eq_self.mpr fun s _ => ?_
    simp [meets_of_isEmpty hempty, Scope.admits, htags, hview]

/-- Calls and a message on the same matter; the last call is a day too late. -/
def lateCalls : List Session :=
  let said (id date time : String) (kind : SessionKind) : Session :=
    { id, target := "910000000", date, kind, content := "encontro em Lisboa", startTime := some time
      duration := some "00:02:10" }
  [said "s1" "03.02.2024" "23:10" .audio, said "s2" "04.02.2024" "01:20" .audio,
    said "s3" "04.02.2024" "12:00" .audio, said "s4" "03.02.2024" "23:30" .sms,
    said "s5" "05.02.2024" "00:30" .audio]

/-- Long calls at night about the town, misspelt, within two days. -/
def nightCalls : Filters where
  minDuration := some 60
  content := "lisbao"
  dateStart := .written "2024-02-03"
  dateEnd := .written "04.02.2024"
  timeStart := "22:00"
  timeEnd := "02:00"

/-- The search is limited to a tag, and to a selection that leaves out one call. -/
def taggedCalls : Scope where
  activeTags := ["t1"]
  tags := [{ id := "t1", name := "Rui", timestamp := 0, sessionIds := ["s5", "s4", "s3", "s2", "s1"] }]
  selection := ["s2", "s3", "s4", "s5"]
  viewOnly := true

theorem filterSessions_intersection_nightCalls :
    (filterSessions lateCalls nightCalls taggedCalls {}).toOption.map (·.map (·.id)) = some ["s2"] ∧
    ∃ found alone, filterSessions lateCalls nightCalls taggedCalls {} = .ok found ∧
      (oneByOne nightCalls taggedCalls).mapM
        (fun search => filterSessions lateCalls search.1 search.2 {}) = .ok alone ∧
      found = lateCalls.filter (fun s => alone.all (·.contains s)) ∧
      (found.map (·.id)).Sublist (lateCalls.map (·.id)) ∧
      (nightCalls.isEmpty = true → taggedCalls.activeTags = [] → taggedCalls.viewOnly = false →
        found = lateCalls) :=
  ⟨by decide +kernel, filterSessions_intersection lateCalls nightCalls taggedCalls {}
    (by decide +kernel) (by decide +kernel) (by decide +kernel)⟩

end Transcripts.Search
