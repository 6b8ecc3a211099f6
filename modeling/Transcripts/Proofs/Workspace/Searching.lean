/-
  Transcripts/Proofs/Workspace/Searching.lean
  ===========================================
  **What the search of a workspace answers.**

  A search keeps the ids of the sessions that are accepted, goes back to the
  sessions with these ids, and sorts them.  Going back is right only because no
  two sessions of a workspace ever have the same id: then the sessions with the
  ids of those accepted are those accepted, in the order in which they were added.
  Sorting keeps them all, and keeps that order wherever their keys are equal.
-/
import Transcripts.Proofs.Search.Ordering
import Transcripts.Proofs.Workspace.Operations

namespace Transcripts

open Transcripts.Identity
open Transcripts.Search

/-! ### There and back by the ids -/

namespace SessionStore

/-- The sessions with the ids of some of them are these. -/
theorem filter_ids {store accepted : SessionStore} (h : (store.map (·.id)).Nodup)
    (hsub : accepted.Sublist store) :
    (store.filter fun s => (accepted.map (·.id)).contains s.id) = accepted := by
  have hdistinct : store.Nodup := h.of_map _
  have hmem (s : Session) :
      s ∈ (store.filter fun s => (accepted.map (·.id)).contains s.id) ↔ s ∈ accepted := by
    rw [List.mem_filter, List.contains_iff_mem, List.mem_map]
    constructor
    · rintro ⟨hs, t, ht, hid⟩
      obtain rfl : t = s := List.inj_on_of_nodup_map h (hsub.subset ht) hs hid
      exact ht
    · intro hs
      exact ⟨hsub.subset hs, s, hs, rfl⟩
  -- both are parts of one list without repetitions, in its order
  apply (List.Nodup.perm_iff_eq_of_sublist hdistinct List.filter_sublist hsub).mp
  exact (List.perm_ext_iff_of_nodup (hdistinct.filter _) (hdistinct.sublist hsub)).mpr hmem

end SessionStore

namespace Search

theorem SortOption.Precedes.of_sublist {option : SortOption} {aliases : AliasMap}
    {part whole : List Session} (hsub : part.Sublist whole) {s t : Session}
    (h : option.Precedes aliases part s t) : option.Precedes aliases whole s t := by
  rcases h with hkey | ⟨hequal, hfirst⟩
  · exact .inl hkey
  · exact .inr ⟨hequal, hfirst.trans hsub⟩

end Search

namespace Workspace

/-! ### The answer -/

/-- What is found is what is accepted, sorted. -/
theorem found_of_accepted {w : Workspace} (h : (w.sessions.map (·.id)).Nodup) {accepted : List Session}
    (haccepted : filterSessions w.sessions w.filters w.scope w.context = .ok accepted) :
    w.found = sortSessions w.sort w.aliases accepted := by
  have hback : (w.sessions.filter fun s => (accepted.map (·.id)).contains s.id) = accepted :=
    SessionStore.filter_ids h (sublist_of_filterSessions haccepted)
  rw [found, haccepted]
  exact congrArg (sortSessions w.sort w.aliases) hback

theorem found_cases {w : Workspace} (h : w.Distinct) {found : List Session}
    (hfound : w.found = .ok found) :
    ∃ accepted, filterSessions w.sessions w.filters w.scope w.context = .ok accepted ∧
      accepted.Sublist w.sessions ∧ sortSessions w.sort w.aliases accepted = .ok found := by
  obtain ⟨accepted, haccepted, _⟩ := exists_of_bind_eq_ok hfound
  refine ⟨accepted, haccepted, sublist_of_filterSessions haccepted, ?_⟩
  rw [← found_of_accepted h.sessions haccepted, hfound]

theorem search_of_accepted {w : Workspace} (h : (w.sessions.map (·.id)).Nodup)
    {accepted found : List Session}
    (haccepted : filterSessions w.sessions w.filters w.scope w.context = .ok accepted)
    (hsorted : sortSessions w.sort w.aliases accepted = .ok found) :
    w.search = .ok (found.map (·.id)) := by
  rw [search, found_of_accepted h haccepted, hsorted]
  rfl

theorem search_cases {w : Workspace} (h : w.Distinct) {ids : List String} (hsearch : w.search = .ok ids) :
    ∃ accepted found, filterSessions w.sessions w.filters w.scope w.context = .ok accepted ∧
      accepted.Sublist w.sessions ∧ sortSessions w.sort w.aliases accepted = .ok found ∧
      ids = found.map (·.id) := by
  obtain ⟨found, hfound, hids⟩ := exists_of_bind_eq_ok hsearch
  obtain ⟨accepted, haccepted, hsub, hsorted⟩ := found_cases h hfound
  exact ⟨accepted, found, haccepted, hsub, hsorted, (Except.ok.inj hids).symm⟩

/-- **The answer of a search.**  Whatever was done to a workspace before, a search
    that comes to an end names no session twice.  The sessions that it names are
    those that meet what was asked for, each before all those that come later by
    the key of the order that was asked for, or have the same key and were added
    later. -/
theorem search_answers {w : Workspace} (h : Reachable w) (inputs : SearchInputs) {ids : List String}
    (hsearch : (w.commit inputs).search = .ok ids) :
    ids.Nodup ∧ ∃ accepted found : List Session,
      filterSessions w.sessions (w.commit inputs).filters (w.commit inputs).scope
        (w.commit inputs).context = .ok accepted ∧
      ids = found.map (·.id) ∧ found.Perm accepted ∧
      found.Pairwise ((w.commit inputs).sort.Precedes w.aliases w.sessions) := by
  have hdistinct : (w.commit inputs).Distinct :=
    distinct_perform (distinct_of_reachable h) (.search inputs)
  obtain ⟨found, hfound, hids⟩ := exists_of_bind_eq_ok hsearch
  obtain rfl := Except.ok.inj hids
  obtain ⟨accepted, haccepted, hsub, hsorted⟩ := found_cases hdistinct hfound
  have hperm : found.Perm accepted := perm_of_sortSessions hsorted
  have hnodup : (accepted.map (·.id)).Nodup := hdistinct.sessions.sublist (hsub.map _)
  refine ⟨(hperm.map _).nodup_iff.mpr hnodup, accepted, found, haccepted, rfl, hperm, ?_⟩
  have hordered := pairwise_sortSessions (hnodup.of_map _) hsorted
  exact hordered.imp fun hst => hst.of_sublist hsub

/-- A call from a number, in which some words are said. -/
def call (id number words : String) : Session :=
  { id, target := "910000000", date := "03.02.2024", kind := .audio, content := words
    sourceNumber := some number }

/-- A workspace where one of the calls came again, and two numbers are one person's. -/
def mergedCalls : Workspace :=
  ({ sessions := .ofList [call "s1" "912345678" "Olá, Rui", call "s2" "967654321" "boa noite",
      call "s3" "+351912345678" "olá", call "s4" "967654321" "adeus", call "s2" "967654321" "Ola!"]
     aliases := AliasMap.flatten (.ofPairs []), legal := .ofList [] } : Workspace).perform
    (.edit (.mergeAlias ["912345678", "+351912345678"] "Rui"))

theorem reachable_mergedCalls : Reachable mergedCalls :=
  .perform (.start _ [] [] [] .dateDescending firstLineSpeaker) _

def whoGreets : SearchInputs := { filters := some { content := "ola" }, sort := some .sourceNumber }

theorem search_whoGreets : (mergedCalls.commit whoGreets).search = .ok ["s2", "s1", "s3"] := by
  let first := call "s1" "912345678" "Olá, Rui"
  let again := call "s2" "967654321" "Ola!"
  let last := call "s3" "+351912345678" "olá"
  have haccepted : filterSessions (mergedCalls.commit whoGreets).sessions
      (mergedCalls.commit whoGreets).filters (mergedCalls.commit whoGreets).scope
      (mergedCalls.commit whoGreets).context = .ok [first, again, last] :=
    toOption_eq_some_iff.mp (by decide +kernel)
  have hback : ((mergedCalls.commit whoGreets).sessions.filter fun s =>
      ([first, again, last].map (·.id)).contains s.id) = [first, again, last] := by
    decide +kernel
  have hsorted : sortSessions .sourceNumber (mergedCalls.commit whoGreets).aliases [first, again, last] =
      .ok [again, first, last] := by
    let le := inOrder (SortOption.sourceNumber.compare (mergedCalls.commit whoGreets).aliases) false
    have hlater : le first again = false := by decide +kernel
    have hnumber : le again last = true := by decide +kernel
    have hsame : le first last = true := by decide +kernel
    refine congrArg Except.ok ((sortByKey_eq _ _ _ _).trans ?_)
    change [first, again, last].mergeSort le = _
    simp [List.mergeSort, List.MergeSort.Internal.splitInTwo, hlater, hnumber, hsame]
  rw [search, found, haccepted]
  simp only [bind, Except.bind, hback]
  rw [show (mergedCalls.commit whoGreets).sort = .sourceNumber from rfl, hsorted]
  rfl

/-- An identity that begins with a digit comes first, and the calls of one person
    stay as they were added. -/
theorem search_answers_whoGreets :
    ["s2", "s1", "s3"].Nodup ∧ ∃ accepted found : List Session,
      filterSessions mergedCalls.sessions { content := "ola" } mergedCalls.scope mergedCalls.context =
        .ok accepted ∧
      ["s2", "s1", "s3"] = found.map (·.id) ∧ found.Perm accepted ∧
      found.Pairwise (SortOption.sourceNumber.Precedes mergedCalls.aliases mergedCalls.sessions) := by
  have hreachable : Reachable mergedCalls :=
    .perform (.start _ [] [] [] .dateDescending firstLineSpeaker) _
  exact search_answers hreachable whoGreets search_whoGreets

end Workspace

end Transcripts
