/-
  Transcripts/Proofs/Workspace/Cataloguing.lean
  =============================================
  **Whoever can be searched for is in the catalog.**

  The search for an identity and the catalog of identities go different ways.  The
  search looks at the two ends of a session, and for a speaker also at the first
  line of its content; the catalog collects the fields of all sessions and goes
  through every line.  Both show what they find through the same aliases.  So
  whatever a search for an identity finds, the identity is listed.
-/
import Transcripts.Proofs.Collection.NormalForm
import Transcripts.Proofs.Search.Intersection
import Transcripts.Proofs.Text.Split
import Transcripts.Workspace.Basic

namespace Transcripts

open Transcripts.Identity
open Transcripts.Search
open Transcripts.Text

namespace Identity

/-- The speaker of the first line is one of the speakers. -/
theorem mem_contentSpeakers_of_first {content name : String}
    (h : firstLineSpeaker content = some name) : name ∈ contentSpeakers content := by
  rw [contentSpeakers, List.mem_filterMap]
  refine ⟨content.toList.takeWhile (· ≠ '\n'), ?_, h⟩
  have hline := takeWhile_mem_splitBy (· == '\n') content.toList
  have hsame : (fun c : Char => !(c == '\n')) = fun c => decide (c ≠ '\n') := by
    funext c
    rw [beq_eq_decide, decide_not]
  rwa [hsame] at hline

end Identity

namespace Search

/-- A session that is accepted for an identity has it, as it is shown, among those
    that were looked at. -/
theorem resolve_of_meetsIdentity {aliases : AliasMap} {x : String} {candidates : List (Option String)}
    (h : meetsIdentity aliases [x] candidates = true) :
    ∃ raw, some raw ∈ candidates ∧ aliases.resolve (some raw) = some x := by
  rw [meetsIdentity, List.isEmpty_cons, Bool.false_or, List.any_eq_true] at h
  obtain ⟨candidate, hcandidate, hshown⟩ := h
  cases candidate with
  | none => simp [AliasMap.resolve] at hshown
  | some raw =>
    refine ⟨raw, hcandidate, ?_⟩
    cases hresolve : aliases.resolve (some raw) with
    | none => simp [hresolve] at hshown
    | some y => simpa [hresolve] using hshown

end Search

namespace Workspace

variable {w : Workspace} {x : String}

/-! ### What is listed -/

theorem mem_shown {raws : List String} {raw : String} (hx : x ≠ "") (hraw : raw ∈ raws)
    (hresolve : w.resolve (some raw) = some x) :
    x ∈ TextSet.ofList ((w.catalogued raws).filterMap fun raw => w.resolve (some raw)) := by
  rw [TextSet.mem_ofList, List.mem_filterMap]
  refine ⟨raw, ?_, hresolve⟩
  rw [catalogued, List.mem_filter, hresolve]
  exact ⟨hraw, by simp [nonEmpty, hx]⟩

theorem mem_numbers {s : Session} {raw : String} (hx : x ≠ "") (hs : s ∈ w.sessions)
    (hraw : raw = s.target ∨ s.sourceNumber = some raw ∨ s.destinationNumber = some raw)
    (hresolve : w.resolve (some raw) = some x) : x ∈ w.catalog.numbers := by
  apply mem_shown hx ?_ hresolve
  rw [List.mem_flatMap]
  refine ⟨s, hs, ?_⟩
  rcases hraw with rfl | hsource | hdestination
  · simp
  · simp [hsource]
  · simp [hdestination]

theorem mem_speakers {s : Session} {raw : String} (hx : x ≠ "") (hs : s ∈ w.sessions)
    (hraw : s.sourceName = some raw ∨ s.destinationName = some raw ∨ raw ∈ contentSpeakers s.content)
    (hresolve : w.resolve (some raw) = some x) : x ∈ w.catalog.speakers := by
  apply mem_shown hx ?_ hresolve
  rw [List.mem_flatMap]
  refine ⟨s, hs, ?_⟩
  rcases hraw with hsource | hdestination | hcontent
  · simp [hsource]
  · simp [hdestination]
  · simp [hcontent]

/-! ### What is found -/

/-- A search by one list of identities alone comes to an end, and what it finds has one
    of the identities that it looks at shown as the one that is asked for. -/
theorem found_for_identity {f : Filters} (hstart : f.dateStart = .unset) (hend : f.dateEnd = .unset)
    (x : String) (candidates : Session → List (Option String))
    (hmeets : ∀ s, f.meets w.context s = meetsIdentity w.aliases [x] (candidates s)) :
    ∃ found, filterSessions w.sessions f {} w.context = .ok found ∧
      (found ≠ [] → ∃ s ∈ w.sessions, ∃ raw, some raw ∈ candidates s ∧
        w.resolve (some raw) = some x) := by
  refine ⟨_, filterSessions_undated w.sessions {} w.context hstart hend, ?_⟩
  intro hfound
  obtain ⟨s, hs⟩ := List.exists_mem_of_ne_nil _ hfound
  obtain ⟨hstored, hmet⟩ := List.mem_filter.mp hs
  rw [admits_unset, Bool.and_true, hmeets] at hmet
  obtain ⟨raw, hraw, hresolve⟩ := resolve_of_meetsIdentity hmet
  exact ⟨s, hstored, raw, hraw, hresolve⟩

section Listed

variable {f : Filters} {candidates : Session → List (Option String)}

/-- A criterion that looks at numbers alone finds sessions only for listed numbers. -/
theorem listed_of_numbers (hstart : f.dateStart = .unset) (hend : f.dateEnd = .unset)
    (hmeets : ∀ s, f.meets w.context s = meetsIdentity w.aliases [x] (candidates s))
    (hnumbers : ∀ s, candidates s ⊆ [s.sourceNumber, s.destinationNumber]) (hx : x ≠ "") :
    ∃ found, filterSessions w.sessions f {} w.context = .ok found ∧
      (found ≠ [] → x ∈ w.catalog.numbers) := by
  obtain ⟨found, hfound, hcause⟩ := found_for_identity hstart hend x candidates hmeets
  refine ⟨found, hfound, fun hne => ?_⟩
  obtain ⟨s, hs, raw, hraw, hresolve⟩ := hcause hne
  have hnumber := hnumbers s hraw
  simp only [List.mem_cons, List.not_mem_nil, or_false] at hnumber
  exact mem_numbers hx hs (.inr (hnumber.imp Eq.symm Eq.symm)) hresolve

/-- One that looks at names and the first line as well finds sessions only for listed
    numbers and speakers. -/
theorem listed_of_identities (hstart : f.dateStart = .unset) (hend : f.dateEnd = .unset)
    (hmeets : ∀ s, f.meets w.context s = meetsIdentity w.aliases [x] (candidates s))
    (hidentities : ∀ s, candidates s ⊆ [s.sourceNumber, s.destinationNumber, s.sourceName,
      s.destinationName, firstLineSpeaker s.content]) (hx : x ≠ "") :
    ∃ found, filterSessions w.sessions f {} w.context = .ok found ∧
      (found ≠ [] → x ∈ w.catalog.numbers ∨ x ∈ w.catalog.speakers) := by
  obtain ⟨found, hfound, hcause⟩ := found_for_identity hstart hend x candidates hmeets
  refine ⟨found, hfound, fun hne => ?_⟩
  obtain ⟨s, hs, raw, hraw, hresolve⟩ := hcause hne
  have hidentity := hidentities s hraw
  simp only [List.mem_cons, List.not_mem_nil, or_false] at hidentity
  rcases hidentity with hnumber | hnumber | hname | hname | hline
  · exact .inl (mem_numbers hx hs (.inr (.inl hnumber.symm)) hresolve)
  · exact .inl (mem_numbers hx hs (.inr (.inr hnumber.symm)) hresolve)
  · exact .inr (mem_speakers hx hs (.inl hname.symm) hresolve)
  · exact .inr (mem_speakers hx hs (.inr (.inl hname.symm)) hresolve)
  · have hcontent := mem_contentSpeakers_of_first hline.symm
    exact .inr (mem_speakers hx hs (.inr (.inr hcontent)) hresolve)

end Listed

/-- The criteria on identities, each as a search for one identity by it alone. -/
theorem meets_identity (w : Workspace) (x : String) (s : Session) :
    Filters.meets { sourceNumbers := [x] } w.context s =
      meetsIdentity w.aliases [x] [s.sourceNumber] ∧
    Filters.meets { destinationNumbers := [x] } w.context s =
      meetsIdentity w.aliases [x] [s.destinationNumber] ∧
    Filters.meets { sourceSpeakers := [x] } w.context s =
      meetsIdentity w.aliases [x] [s.sourceName, s.sourceNumber, w.speaker s.content] ∧
    Filters.meets { destinationSpeakers := [x] } w.context s =
      meetsIdentity w.aliases [x] [s.destinationName, s.destinationNumber] := by
  simp [Filters.meets, Prepared.meetsUndated, Filters.ready, context]

/-- **The catalog is complete.**  A search for a number, at either end, finds sessions
    only if the number is listed among the numbers, and a search for a speaker only if
    the speaker is listed among the numbers or the speakers.  Both lists ascend, so
    nothing is listed twice. -/
theorem catalog_complete (hspeaker : w.speaker = firstLineSpeaker) (hx : x ≠ "") :
    (∀ f ∈ [({ sourceNumbers := [x] } : Filters), { destinationNumbers := [x] }],
      ∃ found, filterSessions w.sessions f {} w.context = .ok found ∧
        (found ≠ [] → x ∈ w.catalog.numbers)) ∧
    (∀ f ∈ [({ sourceSpeakers := [x] } : Filters), { destinationSpeakers := [x] }],
      ∃ found, filterSessions w.sessions f {} w.context = .ok found ∧
        (found ≠ [] → x ∈ w.catalog.numbers ∨ x ∈ w.catalog.speakers)) ∧
    TextSet.IsAscending w.catalog.numbers ∧ TextSet.IsAscending w.catalog.speakers := by
  simp only [List.forall_mem_cons, List.not_mem_nil, false_implies, implies_true, and_true]
  have hmeets := meets_identity w x
  rw [hspeaker] at hmeets
  refine ⟨⟨?_, ?_⟩, ⟨?_, ?_⟩, TextSet.ofList_ascending _, TextSet.ofList_ascending _⟩
  · exact listed_of_numbers rfl rfl (fun s => (hmeets s).1) (by simp) hx
  · exact listed_of_numbers rfl rfl (fun s => (hmeets s).2.1) (by simp) hx
  · exact listed_of_identities rfl rfl (fun s => (hmeets s).2.2.1) (by simp) hx
  · exact listed_of_identities rfl rfl (fun s => (hmeets s).2.2.2) (by simp) hx

/-- A call whose ends have no names; its first line says who speaks. -/
def unnamedCall : Workspace where
  sessions := [{
    id := "s1", target := "910000000", date := "1.1.2147483648", kind := .audio
    content := "Rui: estou\nZé: a chegar", sourceNumber := some "912 345 678" }]
  aliases := [("912 345 678", "912345678"), ("Rui", "Rui Melo")]

theorem catalog_complete_unnamedCall :
    unnamedCall.speaker = firstLineSpeaker ∧ "Rui Melo" ≠ "" ∧
    unnamedCall.catalog.numbers = ["910000000", "912345678"] ∧
    unnamedCall.catalog.speakers = ["Rui Melo", "Zé"] ∧
    (filterSessions unnamedCall.sessions { sourceSpeakers := ["Rui Melo"] } {} unnamedCall.context).toOption.map
      (·.map (·.id)) = some ["s1"] ∧
    (∀ f ∈ [({ sourceNumbers := ["Rui Melo"] } : Filters), { destinationNumbers := ["Rui Melo"] }],
      ∃ found, filterSessions unnamedCall.sessions f {} unnamedCall.context = .ok found ∧
        (found ≠ [] → "Rui Melo" ∈ unnamedCall.catalog.numbers)) ∧
    (∀ f ∈ [({ sourceSpeakers := ["Rui Melo"] } : Filters), { destinationSpeakers := ["Rui Melo"] }],
      ∃ found, filterSessions unnamedCall.sessions f {} unnamedCall.context = .ok found ∧
        (found ≠ [] → "Rui Melo" ∈ unnamedCall.catalog.numbers ∨ "Rui Melo" ∈ unnamedCall.catalog.speakers)) ∧
    TextSet.IsAscending unnamedCall.catalog.numbers ∧ TextSet.IsAscending unnamedCall.catalog.speakers := by
  refine ⟨rfl, by decide, by decide +kernel, by decide +kernel, by decide +kernel, ?_⟩
  exact catalog_complete rfl (by decide)

end Workspace

end Transcripts
