/-
  Transcripts/Proofs/Search/Alternatives.lean
  ===========================================
  **The values of one criterion are alternatives.**

  A criterion with several values is met by any one of them, whether it asks for
  identities, for labels of legal references or for tags: a session has some values,
  and one of those that are asked for has to be among them.  A list without values is
  another matter: it asks for nothing, and every session meets it.  So two lists of
  values find together what each of them finds only if neither is empty, and texts
  with parts of ids only if each has a part that is not blank.
-/
import Mathlib.Data.List.DropRight
import Transcripts.Proofs.Collection.NormalForm
import Transcripts.Proofs.Search.Intersection
import Transcripts.Proofs.Text.Split

namespace Transcripts

open Transcripts.Calendar
open Transcripts.Identity
open Transcripts.Text

/-- The scope of several tags holds what any of them holds. -/
theorem TagStore.mem_scope {store : TagStore} {ids : List String} {x : String} :
    x ∈ store.scope ids ↔ ∃ tag ∈ store, tag.id ∈ ids ∧ x ∈ tag.sessionIds := by
  rw [scope, TextSet.mem_ofList, List.mem_flatMap]
  simp only [List.mem_filter, List.contains_iff_mem, and_assoc]

namespace Search

/-! ### What a session has, and what is asked for -/

/-- Whether a session that has some values has one of those that are asked for. -/
def hasWanted (wanted had : List String) : Bool := wanted.isEmpty || had.any wanted.contains

@[simp] theorem hasWanted_nil (had : List String) : hasWanted [] had = true := rfl

theorem hasWanted_append {left right : List String} (hleft : left ≠ []) (hright : right ≠ [])
    (had : List String) :
    hasWanted (left ++ right) had = (hasWanted left had || hasWanted right had) := by
  have hset {wanted : List String} (h : wanted ≠ []) : hasWanted wanted had = had.any wanted.contains := by
    simp [hasWanted, h]
  rw [hset hleft, hset hright, hset (List.append_ne_nil_of_left_ne_nil hleft right), Bool.eq_iff_iff]
  simp [and_or_left, exists_or]

def labelsOf (legal : Option LegalRegistry) (category : LegalCategory) (s : Session) : List String :=
  legal.elim [] fun registry => registry.labelsFor s.legalReferenceIds category

def tagsOf (store : TagStore) (s : Session) : List String :=
  (store.filter (·.sessionIds.contains s.id)).map (·.id)

theorem meetsIdentity_eq (aliases : AliasMap) (wanted : List String)
    (candidates : List (Option String)) :
    meetsIdentity aliases wanted candidates =
      hasWanted wanted (candidates.filterMap aliases.resolve) := by
  rw [meetsIdentity, hasWanted, List.any_filterMap]
  rfl

theorem meetsLegal_eq (legal : Option LegalRegistry) (category : LegalCategory) (wanted : List String)
    (s : Session) : meetsLegal legal category wanted s = hasWanted wanted (labelsOf legal category s) := by
  cases legal <;> rfl

theorem admits_eq (scope : Scope) (s : Session) :
    scope.admits s = (hasWanted scope.activeTags (tagsOf scope.tags s) &&
      (!scope.viewOnly || scope.selection.contains s.id)) := by
  have hscope : (scope.tags.scope scope.activeTags).contains s.id =
      (tagsOf scope.tags s).any scope.activeTags.contains := by
    rw [Bool.eq_iff_iff, List.contains_iff_mem, TagStore.mem_scope]
    simp only [tagsOf, List.any_map, List.any_eq_true, List.mem_filter, List.contains_iff_mem,
      Function.comp_apply, and_assoc, and_comm]
  rw [Scope.admits, hasWanted, hscope]

/-! ### One criterion beside the rest of a search -/

/-- The criteria for which a search has a list of values. -/
inductive ListCriterion where
  | sourceNumbers
  | destinationNumbers
  | sourceSpeakers
  | destinationSpeakers
  | articles
  | facts
  | legalTags
  | activeTags

namespace ListCriterion

/-- The same search, asking for other values of one criterion. -/
def ask (values : List String) (f : Filters) (scope : Scope) : ListCriterion → Filters × Scope
  | .sourceNumbers => ({ f with sourceNumbers := values }, scope)
  | .destinationNumbers => ({ f with destinationNumbers := values }, scope)
  | .sourceSpeakers => ({ f with sourceSpeakers := values }, scope)
  | .destinationSpeakers => ({ f with destinationSpeakers := values }, scope)
  | .articles => ({ f with articles := values }, scope)
  | .facts => ({ f with facts := values }, scope)
  | .legalTags => ({ f with legalTags := values }, scope)
  | .activeTags => (f, { scope with activeTags := values })

/-- The values of one criterion that a session has. -/
def had (context : Context) (tags : TagStore) (s : Session) : ListCriterion → List String
  | .sourceNumbers => [s.sourceNumber].filterMap context.aliases.resolve
  | .destinationNumbers => [s.destinationNumber].filterMap context.aliases.resolve
  | .sourceSpeakers =>
    [s.sourceName, s.sourceNumber, context.speaker s.content].filterMap context.aliases.resolve
  | .destinationSpeakers =>
    [s.destinationName, s.destinationNumber].filterMap context.aliases.resolve
  | .articles => labelsOf context.legal .article s
  | .facts => labelsOf context.legal .fact s
  | .legalTags => labelsOf context.legal .tag s
  | .activeTags => tagsOf tags s

end ListCriterion

/-- Whether a search finds a session, where no date is refused. -/
def accepted (search : Filters × Scope) (context : Context) (s : Session) : Bool :=
  search.1.meets context s && search.2.admits s

variable {f : Filters} {scope : Scope} {context : Context}

/-- A session is accepted if it has a value that is asked for, and is accepted by
    the search that leaves this criterion out. -/
theorem accepted_ask (criterion : ListCriterion) (values : List String) (s : Session) :
    accepted (criterion.ask values f scope) context s =
      (hasWanted values (criterion.had context scope.tags s) &&
        accepted (criterion.ask [] f scope) context s) := by
  -- whichever criterion it is, its values come into one part of the conjunction
  cases hmet : hasWanted values (criterion.had context scope.tags s) <;>
    cases criterion <;>
    simp only [ListCriterion.had] at hmet <;>
    simp only [accepted, ListCriterion.ask, Filters.meets, Prepared.meetsUndated, Filters.ready,
      admits_eq, meetsDuration, meetsTimes, meetsIdentity_eq, meetsLegal_eq, hmet, hasWanted_nil,
      Bool.and_true, Bool.true_and, Bool.and_false, Bool.false_and]

theorem accepted_ask_append {left right : List String} (hleft : left ≠ []) (hright : right ≠ [])
    (criterion : ListCriterion) (s : Session) :
    accepted (criterion.ask (left ++ right) f scope) context s =
      (accepted (criterion.ask left f scope) context s ||
        accepted (criterion.ask right f scope) context s) := by
  rw [accepted_ask criterion (left ++ right), accepted_ask criterion left, accepted_ask criterion right,
    hasWanted_append hleft hright, Bool.and_or_distrib_right]

/-! ### Parts of ids -/

theorem lower_ne_nil {cs : List Char} (h : cs ≠ []) : lower cs ≠ [] := by
  obtain ⟨c, cs, rfl⟩ := List.exists_cons_of_ne_nil h
  rw [lower, lowerAfter]
  refine List.append_ne_nil_of_left_ne_nil ?_ _
  unfold lowerChar
  split
  · simp
  · split <;> simp

theorem trim_eq_nil_iff {cs : List Char} : trim cs = [] ↔ ∀ c ∈ cs, isBlank c = true := by
  change (cs.dropWhile isBlank).rdropWhile isBlank = [] ↔ _
  rw [List.rdropWhile_eq_nil_iff, ← List.dropWhile_eq_nil_iff, List.dropWhile_idempotent,
    List.dropWhile_eq_nil_iff]

/-- Whether a text has a part between commas that is not blank. -/
def NamesPart (text : String) : Prop := ∃ part ∈ splitOn ',' text.toList, ∃ c ∈ part, isBlank c = false

theorem sessionFragments_ne_nil {text : String} (h : NamesPart text) : sessionFragments text ≠ [] := by
  obtain ⟨part, hpart, c, hc, hblank⟩ := h
  have htrim : trim part ≠ [] := by
    intro hnil
    rw [trim_eq_nil_iff.mp hnil c hc] at hblank
    contradiction
  refine List.ne_nil_of_mem (a := lower (trim part)) ?_
  rw [sessionFragments, List.mem_filter]
  exact ⟨List.mem_map_of_mem hpart, by simpa using lower_ne_nil htrim⟩

theorem sessionFragments_append (left right : String) :
    sessionFragments (left ++ "," ++ right) = sessionFragments left ++ sessionFragments right := by
  have hcomma : (left ++ "," ++ right).toList = left.toList ++ ',' :: right.toList := by simp
  rw [sessionFragments, hcomma, splitOn, splitBy_append_cons (by rfl), List.map_append,
    List.filter_append]
  rfl

theorem meetsFragments_append {left right : List (List Char)} (hleft : left ≠ []) (hright : right ≠ [])
    (s : Session) :
    meetsFragments (left ++ right) s = (meetsFragments left s || meetsFragments right s) := by
  have hset {parts : List (List Char)} (h : parts ≠ []) :
      meetsFragments parts s = parts.any (occursIn · (lower s.id.toList)) := by
    simp [meetsFragments, h]
  rw [hset hleft, hset hright, hset (List.append_ne_nil_of_left_ne_nil hleft right), List.any_append]

theorem accepted_session (text : String) (s : Session) :
    accepted ({ f with session := text }, scope) context s =
      (meetsFragments (sessionFragments text) s &&
        accepted ({ f with session := "" }, scope) context s) := by
  cases hmet : meetsFragments (sessionFragments text) s <;>
    simp only [accepted, Filters.meets, Prepared.meetsUndated, Filters.ready, meetsDuration,
      meetsTimes, hmet, meetsFragments_empty, Bool.and_true, Bool.true_and, Bool.and_false,
      Bool.false_and]

theorem accepted_session_append {left right : String} (hleft : NamesPart left) (hright : NamesPart right)
    (s : Session) :
    accepted ({ f with session := left ++ "," ++ right }, scope) context s =
      (accepted ({ f with session := left }, scope) context s ||
        accepted ({ f with session := right }, scope) context s) := by
  rw [accepted_session (left ++ "," ++ right), accepted_session left, accepted_session right,
    sessionFragments_append,
    meetsFragments_append (sessionFragments_ne_nil hleft) (sessionFragments_ne_nil hright),
    Bool.and_or_distrib_right]

/-! ### What is found -/

/-- One search finds, in their order, the sessions that two others find. -/
def FindsTogether (sessions : List Session) (context : Context)
    (search left right : Filters × Scope) : Prop :=
  ∃ found foundLeft foundRight,
    filterSessions sessions search.1 search.2 context = .ok found ∧
    filterSessions sessions left.1 left.2 context = .ok foundLeft ∧
    filterSessions sessions right.1 right.2 context = .ok foundRight ∧
    found = sessions.filter fun s => foundLeft.contains s || foundRight.contains s

theorem findsTogether_of_accepted {sessions : List Session} {search left right : Filters × Scope}
    (hsearch : filterSessions sessions search.1 search.2 context =
      .ok (sessions.filter (accepted search context)))
    (hleft : filterSessions sessions left.1 left.2 context =
      .ok (sessions.filter (accepted left context)))
    (hright : filterSessions sessions right.1 right.2 context =
      .ok (sessions.filter (accepted right context)))
    (h : ∀ s, accepted search context s = (accepted left context s || accepted right context s)) :
    FindsTogether sessions context search left right := by
  refine ⟨_, _, _, hsearch, hleft, hright, List.filter_congr fun s hs => ?_⟩
  rw [h, Bool.eq_iff_iff]
  simp [hs]

theorem filterSessions_ask {sessions : List Session} (scope : Scope) (context : Context)
    (hsessions : ∀ s ∈ sessions, namesOversize s.date.toList = false)
    (hstart : f.dateStart.isOversize = false) (hend : f.dateEnd.isOversize = false)
    (criterion : ListCriterion) (values : List String) :
    filterSessions sessions (criterion.ask values f scope).1 (criterion.ask values f scope).2 context =
      .ok (sessions.filter (accepted (criterion.ask values f scope) context)) := by
  cases criterion <;> exact filterSessions_eq hsessions hstart hend

/-- **The values of one criterion are alternatives.**  Where no number of a date
    exceeds 32 bits, two lists of values for one criterion, neither of them empty, find
    together the sessions that each of them finds, in their order, whatever else is
    asked for.  The same holds for two texts with parts of ids that are joined by a
    comma, if each has a part that is not blank. -/
theorem filterSessions_alternatives (sessions : List Session) (f : Filters) (scope : Scope)
    (context : Context) (hsessions : ∀ s ∈ sessions, namesOversize s.date.toList = false)
    (hstart : f.dateStart.isOversize = false) (hend : f.dateEnd.isOversize = false) :
    (∀ (criterion : ListCriterion) (left right : List String), left ≠ [] → right ≠ [] →
      FindsTogether sessions context (criterion.ask (left ++ right) f scope)
        (criterion.ask left f scope) (criterion.ask right f scope)) ∧
    ∀ left right : String, NamesPart left → NamesPart right →
      FindsTogether sessions context ({ f with session := left ++ "," ++ right }, scope)
        ({ f with session := left }, scope) ({ f with session := right }, scope) := by
  constructor
  · intro criterion left right hleft hright
    have hfound := filterSessions_ask scope context hsessions hstart hend criterion
    exact findsTogether_of_accepted (hfound _) (hfound left) (hfound right)
      (accepted_ask_append hleft hright criterion)
  · intro left right hleft hright
    have hfound (text : String) : filterSessions sessions { f with session := text } scope context =
        .ok (sessions.filter (accepted ({ f with session := text }, scope) context)) :=
      filterSessions_eq hsessions hstart hend
    exact findsTogether_of_accepted (hfound _) (hfound left) (hfound right)
      (accepted_session_append hleft hright)

/-- Calls of one person under two numbers; one call has no number, and one no name. -/
def callsOfRui : List Session :=
  let said (id content : String) (number name : Option String) (refs : TextSet) : Session :=
    { id, target := "910000000", date := "03.02.2024", kind := .audio, content
      sourceNumber := number, sourceName := name, legalReferenceIds := refs }
  [said "A1" "olá" (some "912345678") none ["r1"], said "A2" "Rui: boa noite" none none [],
    said "B3" "sim" (some "+351912345678") (some "Ana") ["r2", "r9"],
    said "C4" "adeus" (some "967654321") (some "Zé") ["r1", "r2"]]

def ruiContext : Context where
  aliases := [("912345678", "Rui"), ("+351912345678", "Rui")]
  legal := some (.ofList [{ id := "r1", category := .fact, label := "Furto" },
    { id := "r2", category := .fact, label := "Fuga" }])

/-- What Rui says, since a day. -/
def ruiFilters : Filters where
  sourceSpeakers := ["Rui"]
  dateStart := .written "2024-02-03"

def ruiScope : Scope where
  tags := [{ id := "t2", name := "novas", timestamp := 1, sessionIds := ["C4", "A2", "C4"] },
    { id := "t1", name := "antigas", timestamp := 0, sessionIds := ["B3", "A1"] }]

/-- An unknown tag and values that are asked for twice change nothing. -/
theorem filterSessions_alternatives_callsOfRui :
    (filterSessions callsOfRui ruiFilters { ruiScope with activeTags := ["t1", "t9", "t2", "t1"] }
      ruiContext).toOption.map (·.map (·.id)) = some ["A1", "A2", "B3"] ∧
    FindsTogether callsOfRui ruiContext
      (ListCriterion.activeTags.ask (["t1", "t9"] ++ ["t2", "t1"]) ruiFilters ruiScope)
      (ListCriterion.activeTags.ask ["t1", "t9"] ruiFilters ruiScope)
      (ListCriterion.activeTags.ask ["t2", "t1"] ruiFilters ruiScope) ∧
    (filterSessions callsOfRui { ruiFilters with session := " ,b,a1,a1, " } {}
      ruiContext).toOption.map (·.map (·.id)) = some ["A1", "B3"] ∧
    FindsTogether callsOfRui ruiContext
      ({ ruiFilters with session := " ,b" ++ "," ++ "a1,a1, " }, {})
      ({ ruiFilters with session := " ,b" }, {}) ({ ruiFilters with session := "a1,a1, " }, {}) := by
  have hdates : ∀ s ∈ callsOfRui, namesOversize s.date.toList = false := by decide +kernel
  have hstart : ruiFilters.dateStart.isOversize = false := by decide +kernel
  have hleft : NamesPart " ,b" := ⟨['b'], by decide +kernel, 'b', by decide, by decide +kernel⟩
  have hright : NamesPart "a1,a1, " := ⟨['a', '1'], by decide +kernel, 'a', by decide, by decide +kernel⟩
  have htags := (filterSessions_alternatives callsOfRui ruiFilters ruiScope ruiContext hdates hstart
    rfl).1 .activeTags ["t1", "t9"] ["t2", "t1"] (by simp) (by simp)
  have hparts := (filterSessions_alternatives callsOfRui ruiFilters {} ruiContext hdates hstart
    rfl).2 " ,b" "a1,a1, " hleft hright
  exact ⟨by decide +kernel, htags, by decide +kernel, hparts⟩

end Search

end Transcripts
