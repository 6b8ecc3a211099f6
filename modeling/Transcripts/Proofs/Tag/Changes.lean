/-
  Transcripts/Proofs/Tag/Changes.lean
  ===================================
  **What is done to one tag is done to no other.**

  A store of tags has no notion of place.  To rename or to delete a tag is to go
  through all tags and to act on each that has the id, and loading looks at ids alone.
  That one tag is meant, and that it stays where it is, holds because no two tags share
  an id.  New ids are fresh; the case to look at is a batch of loaded tags, which may
  have an id twice, and where the store does not know it before the first of them is
  taken.

  A store with distinct ids splits in one way at each id that it has
  (`exists_splitsAt`), and what an operation does is said of the three parts.
-/
import Mathlib.Data.List.Induction
import Transcripts.Proofs.Workspace.Refusals

namespace Transcripts.TagStore

open Transcripts.Steps
open Transcripts.Text

variable {store : TagStore} {id name : String}

/-! ### Loading tags -/

section Loading

variable {known : List String} {tags : List Tag} {tag : Tag}

/-- Whether the tag at a place has an id that is neither known nor that of a tag before it. -/
def isUnseen (known : List String) (tags : List Tag) (place : Tag × Nat) : Bool :=
  !known.contains place.1.id && !((tags.take place.2).map (·.id)).contains place.1.id

/-- The tags with which an unseen id comes up. -/
def firstUnseen (known : List String) (tags : List Tag) : List Tag :=
  (tags.zipIdx.filter (isUnseen known tags)).map (·.1)

theorem newcomers_concat (known : List String) (tags : List Tag) (tag : Tag) :
    newcomers known (tags ++ [tag]) =
      if tag.id ∈ known ∨ tag.id ∈ tags.map (·.id) then newcomers known tags
      else newcomers known tags ++ [tag] := by
  induction tags generalizing known with
  | nil => simp [newcomers]
  | cons first tags ih =>
    rw [List.cons_append, newcomers, newcomers]
    by_cases hfirst : first.id ∈ known
    · have hsame : tag.id ∈ known ∨ tag.id ∈ (first :: tags).map (·.id) ↔
          tag.id ∈ known ∨ tag.id ∈ tags.map (·.id) := by
        rw [List.map_cons, List.mem_cons, or_left_comm, or_iff_right_of_imp]
        intro heq
        exact .inl (heq ▸ hfirst)
      rw [if_pos (List.contains_iff_mem.mpr hfirst), if_pos (List.contains_iff_mem.mpr hfirst), ih]
      simp only [hsame]
    · have hsame : tag.id ∈ known ∨ tag.id ∈ (first :: tags).map (·.id) ↔
          tag.id ∈ known ++ [first.id] ∨ tag.id ∈ tags.map (·.id) := by
        rw [List.map_cons, List.mem_cons, List.mem_append, List.mem_singleton, or_assoc]
      have hnew : ¬ known.contains first.id = true := mt List.contains_iff_mem.mp hfirst
      rw [if_neg hnew, if_neg hnew, ih]
      simp only [hsame]
      split
      · rfl
      · rfl

theorem firstUnseen_concat (known : List String) (tags : List Tag) (tag : Tag) :
    firstUnseen known (tags ++ [tag]) =
      if tag.id ∈ known ∨ tag.id ∈ tags.map (·.id) then firstUnseen known tags
      else firstUnseen known tags ++ [tag] := by
  have hearlier : tags.zipIdx.filter (isUnseen known (tags ++ [tag])) =
      tags.zipIdx.filter (isUnseen known tags) := by
    apply List.filter_congr
    intro place hplace
    have hle : place.2 ≤ tags.length := Nat.le_of_lt (List.snd_lt_of_mem_zipIdx hplace)
    rw [isUnseen, isUnseen, List.take_append_of_le_length hle]
  have hlast : isUnseen known (tags ++ [tag]) (tag, tags.length) = true ↔
      ¬ (tag.id ∈ known ∨ tag.id ∈ tags.map (·.id)) := by
    rw [isUnseen, List.take_left, Bool.and_eq_true, Bool.not_eq_true', Bool.not_eq_true',
      List.contains_eq_mem, List.contains_eq_mem, decide_eq_false_iff_not, decide_eq_false_iff_not, not_or]
  rw [firstUnseen, List.zipIdx_append, List.filter_append, List.map_append, hearlier, Nat.zero_add,
    List.zipIdx_singleton]
  by_cases hseen : tag.id ∈ known ∨ tag.id ∈ tags.map (·.id)
  · rw [if_pos hseen, List.filter_cons_of_neg (mt hlast.mp (not_not.mpr hseen)), List.filter_nil,
      List.map_nil, List.append_nil, firstUnseen]
  · rw [if_neg hseen, List.filter_cons_of_pos (hlast.mpr hseen), List.filter_nil, List.map_singleton,
      firstUnseen]

theorem newcomers_eq (known : List String) (tags : List Tag) :
    newcomers known tags = firstUnseen known tags := by
  induction tags using List.reverseRecOn with
  | nil => rfl
  | append_singleton tags tag ih => rw [newcomers_concat, firstUnseen_concat, ih]

/-- What counting adds is what loading puts behind the others. -/
theorem fst_add (store : TagStore) (tags : List Tag) : (store.add tags).1 = store.extend tags := by
  rw [add]
  induction tags generalizing store with
  | nil => exact List.append_nil store
  | cons tag tags ih =>
    rw [newcomers, extend_cons]
    by_cases hknown : tag.id ∈ store.map (·.id)
    · rw [if_pos (List.contains_iff_mem.mpr hknown), if_pos hknown]
      exact ih store
    · rw [if_neg (mt List.contains_iff_mem.mp hknown), if_neg hknown, ← ih, List.map_append,
        List.append_assoc]
      rfl

end Loading

/-! ### One tag among the others -/

/-- A store taken apart at the one tag that has an id. -/
structure SplitsAt (store : TagStore) (id : String) (front : List Tag) (tag : Tag) (back : List Tag) :
    Prop where
  whole : store = front ++ tag :: back
  named : tag.id = id
  others : ∀ t ∈ front ++ back, t.id ≠ id

theorem exists_splitsAt (hdistinct : (store.map (·.id)).Nodup) (hid : id ∈ store.map (·.id)) :
    ∃ front tag back, SplitsAt store id front tag back := by
  obtain ⟨tag, htag, rfl⟩ := List.mem_map.mp hid
  obtain ⟨front, back, rfl⟩ := List.append_of_mem htag
  refine ⟨front, tag, back, rfl, rfl, ?_⟩
  intro t ht heq
  have hmoved : ((tag :: (front ++ back)).map (·.id)).Nodup :=
    (List.perm_middle.map _).nodup hdistinct
  exact (List.nodup_cons.mp hmoved).1 (List.mem_map.mpr ⟨t, ht, heq⟩)

section Split

variable {front back : List Tag} {tag : Tag}

theorem SplitsAt.get?_eq (h : SplitsAt store id front tag back) : store.get? id = some tag := by
  have hfront : front.find? (·.id == id) = none := by
    rw [List.find?_eq_none]
    intro t ht
    have hne := h.others t (List.mem_append_left back ht)
    simpa using hne
  rw [get?, h.whole, List.find?_append, hfront, Option.none_or]
  exact List.find?_cons_of_pos (beq_iff_eq.mpr h.named)

/-- What is done to the tags with an id is done to the one. -/
theorem SplitsAt.map_eq (h : SplitsAt store id front tag back) (renamed : Tag) :
    (store.map fun t => if t.id == id then renamed else t) = front ++ renamed :: back := by
  have hleft : ∀ ts : List Tag, (∀ t ∈ ts, t.id ≠ id) →
      (ts.map fun t => if t.id == id then renamed else t) = ts := by
    intro ts hts
    refine (List.map_congr_left fun t ht => ?_).trans (List.map_id ts)
    exact if_neg (mt beq_iff_eq.mp (hts t ht))
  rw [h.whole, List.map_append, List.map_cons, if_pos (beq_iff_eq.mpr h.named),
    hleft front fun t ht => h.others t (List.mem_append_left back ht),
    hleft back fun t ht => h.others t (List.mem_append_right front ht)]

theorem SplitsAt.rename_eq (h : SplitsAt store id front tag back) (hname : isBlankText name = false) :
    Call.rename id name store =
      .ok { tag with name := trimmed name } (front ++ { tag with name := trimmed name } :: back) := by
  rw [Call.rename_settled, rename, hname, h.get?_eq]
  exact congrArg (EStateM.Result.ok _) (h.map_eq _)

theorem SplitsAt.delete_eq (h : SplitsAt store id front tag back) :
    store.delete id = (front ++ back, true) := by
  have hkept : store.filter (·.id != id) = front ++ back := by
    rw [h.whole, List.filter_append, List.filter_cons_of_neg (by simp [h.named]), ← List.filter_append]
    exact List.filter_eq_self.mpr fun t ht => bne_iff_ne.mpr (h.others t ht)
  have hthere : store.any (·.id == id) = true := by
    rw [List.any_eq_true]
    exact ⟨tag, h.whole ▸ List.mem_append_right front List.mem_cons_self, beq_iff_eq.mpr h.named⟩
  rw [delete, hkept, hthere]

end Split

/-! ### Whatever is done to an empty store -/

/-- What is done to a store of tags. -/
inductive Operation where
  | create (stamp : Stamp) (name : String) (sessionIds : List String) (description : Option String)
      (fromSelection : Bool)
  | extend (tags : List Tag)
  | rename (id name : String)
  | delete (id : String)

/-- A new tag is given an id that no tag has. -/
def Operation.Fresh (store : TagStore) : Operation → Prop
  | .create stamp .. => stamp.id ∉ store.map (·.id)
  | .extend _ | .rename .. | .delete _ => True

/-- The store that an operation leaves, refused or not. -/
def perform (store : TagStore) : Operation → TagStore
  | .create stamp name sessionIds description fromSelection =>
    stateOf (Call.create stamp name sessionIds description fromSelection store)
  | .extend tags => (store.add tags).1
  | .rename id name => stateOf (Call.rename id name store)
  | .delete id => (store.delete id).1

/-- Each new id of a run is fresh when it is given. -/
def FreshThroughout : TagStore → List Operation → Prop
  | _, [] => True
  | store, operation :: run =>
    operation.Fresh store ∧ FreshThroughout (store.perform operation) run

instance (store : TagStore) : (operation : Operation) → Decidable (operation.Fresh store)
  | .create stamp .. => inferInstanceAs (Decidable (stamp.id ∉ store.map (·.id)))
  | .extend _ | .rename .. | .delete _ => inferInstanceAs (Decidable True)

instance decidableFreshThroughout :
    (store : TagStore) → (run : List Operation) → Decidable (FreshThroughout store run)
  | _, [] => inferInstanceAs (Decidable True)
  | store, operation :: run =>
    have := decidableFreshThroughout (store.perform operation) run
    inferInstanceAs (Decidable (operation.Fresh store ∧ FreshThroughout (store.perform operation) run))

theorem nodup_ids_extend (h : (store.map (·.id)).Nodup) (tags : List Tag) :
    ((store.extend tags).map (·.id)).Nodup := by
  induction tags generalizing store with
  | nil => exact h
  | cons tag tags ih =>
    rw [extend_cons]
    split
    · exact ih h
    · next hnew => exact ih (nodup_map_concat h hnew)

theorem nodup_ids_perform (h : (store.map (·.id)).Nodup) {operation : Operation}
    (hfresh : operation.Fresh store) : ((store.perform operation).map (·.id)).Nodup := by
  cases operation with
  | create stamp name sessionIds description fromSelection =>
    rw [perform, Call.create_settled, create]
    split
    · exact h
    · exact List.nodup_cons.mpr ⟨hfresh, h⟩
  | extend tags =>
    rw [perform, fst_add]
    exact nodup_ids_extend h tags
  | rename id name =>
    rw [perform, Call.rename_settled]
    cases hrename : store.rename id name with
    | error fault => exact h
    | ok r =>
      have hids := ids_rename hrename
      exact hids.symm ▸ h
  | delete id => exact h.sublist (List.filter_sublist.map _)

theorem nodup_ids_run (h : (store.map (·.id)).Nodup) {run : List Operation}
    (hfresh : FreshThroughout store run) : ((run.foldl perform store).map (·.id)).Nodup := by
  induction run generalizing store with
  | nil => exact h
  | cons operation run ih => exact ih (nodup_ids_perform h hfresh.1) hfresh.2

/-- Each operation on a store of tags does to it what it says, and nothing else. -/
structure Framed (store : TagStore) : Prop where
  distinct : (store.map (·.id)).Nodup
  /-- A new tag comes in front. -/
  created : ∀ (stamp : Stamp) (name : String) (sessionIds : List String) (description : Option String)
      (fromSelection : Bool), isBlankText name = false →
    let tag := stamp.tag name sessionIds description fromSelection
    Call.create stamp name sessionIds description fromSelection store = .ok tag (tag :: store)
  /-- Loaded tags come last, each unseen id once, and are counted. -/
  extended : ∀ tags : List Tag,
    let unseen := firstUnseen (store.map (·.id)) tags
    store.add tags = (store ++ unseen, unseen.length)
  /-- The one tag with an id has a new name, at its place. -/
  renamed : ∀ id ∈ store.map (·.id), ∀ name : String, isBlankText name = false →
    ∃ front tag back, SplitsAt store id front tag back ∧
      let renamed := { tag with name := trimmed name }
      Call.rename id name store = .ok renamed (front ++ renamed :: back)
  /-- The one tag with an id is gone. -/
  deleted : ∀ id ∈ store.map (·.id),
    ∃ front tag back, SplitsAt store id front tag back ∧ store.delete id = (front ++ back, true)
  /-- Without such a tag all stay as they are. -/
  notFound : ∀ id ∉ store.map (·.id), store.delete id = (store, false) ∧
    ∀ name, isBlankText name = false → Call.rename id name store = .error (.unknownTag id) store
  /-- A name that is blank is refused. -/
  unnamed : ∀ name, isBlankText name = true →
    (∀ id, Call.rename id name store = .error .blankName store) ∧
    ∀ (stamp : Stamp) (sessionIds : List String) (description : Option String) (fromSelection : Bool),
      Call.create stamp name sessionIds description fromSelection store = .error .blankName store

theorem delete_of_not_mem (hid : id ∉ store.map (·.id)) : store.delete id = (store, false) := by
  have hne : ∀ t ∈ store, t.id ≠ id := fun t ht heq => hid (List.mem_map.mpr ⟨t, ht, heq⟩)
  have hkept : store.filter (·.id != id) = store :=
    List.filter_eq_self.mpr fun t ht => bne_iff_ne.mpr (hne t ht)
  have hnone : store.any (·.id == id) = false :=
    List.any_eq_false.mpr fun t ht => mt beq_iff_eq.mp (hne t ht)
  rw [delete, hkept, hnone]

theorem framed_of_nodup (h : (store.map (·.id)).Nodup) : Framed store where
  distinct := h
  created := by
    intro stamp name sessionIds description fromSelection hname
    rw [Call.create_settled, create, hname]
    rfl
  extended := by
    intro tags
    rw [add, newcomers_eq]
  renamed := by
    intro id hid name hname
    obtain ⟨front, tag, back, hsplit⟩ := exists_splitsAt h hid
    exact ⟨front, tag, back, hsplit, hsplit.rename_eq hname⟩
  deleted := by
    intro id hid
    obtain ⟨front, tag, back, hsplit⟩ := exists_splitsAt h hid
    exact ⟨front, tag, back, hsplit, hsplit.delete_eq⟩
  notFound := by
    intro id hid
    refine ⟨delete_of_not_mem hid, fun name hname => ?_⟩
    rw [Call.rename_settled, rename, hname, get?_eq_none_iff.mpr hid]
    rfl
  unnamed := by
    intro name hname
    refine ⟨fun id => ?_, fun stamp sessionIds description fromSelection => ?_⟩
    · rw [Call.rename_settled, rename, if_pos hname]
      rfl
    · rw [Call.create_settled, create, if_pos hname]
      rfl

/-- **An operation on tags does to the store what it says, and nothing else.**  Whatever
    was done to an empty store before, with ids that were fresh: ids are distinct, a new
    tag comes in front, loaded tags come last, one for each unseen id, the one tag with
    an id is renamed at its place or taken out, and every other tag stays as it is and
    where it is. -/
theorem framed_run {run : List Operation} (hfresh : FreshThroughout [] run) :
    Framed (run.foldl perform []) := by
  have hnone : (([] : TagStore).map (·.id)).Nodup := List.nodup_nil
  exact framed_of_nodup (nodup_ids_run hnone hfresh)

/-- Tags are loaded, one of them twice and one under an id that comes again in a later
    batch; between that, others are made, renamed and deleted, and some of it is refused. -/
def busyRun : List Operation :=
  [.extend [{ id := "t1", name := "a", timestamp := 0, sessionIds := ["S1"] },
      { id := "t2", name := "b", timestamp := 0, sessionIds := [] },
      { id := "t1", name := "c", timestamp := 0, sessionIds := [] }],
    .create ⟨"t3", 1700000001000⟩ " noite " ["S2", "S1", "S2"] none true,
    .create ⟨"t4", 0⟩ " " [] none false,
    .rename "t2" " tarde ", .rename "t9" "d", .delete "t1", .delete "t9",
    .extend [{ id := "t3", name := "e", timestamp := 0, sessionIds := [] },
      { id := "t1", name := "f", timestamp := 0, sessionIds := [] }]]

theorem framed_run_busy :
    FreshThroughout [] busyRun ∧
      ((busyRun.foldl perform []).map fun t => (t.id, t.name)) =
        [("t3", "noite"), ("t2", "tarde"), ("t1", "f")] ∧
      Framed (busyRun.foldl perform []) := by
  have hfresh : FreshThroughout [] busyRun := by decide +kernel
  exact ⟨hfresh, by decide +kernel, framed_run hfresh⟩

end Transcripts.TagStore
