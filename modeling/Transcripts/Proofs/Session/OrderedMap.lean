/-
  Transcripts/Proofs/Session/OrderedMap.lean
  ==========================================
  **A collection of sessions is a map by their ids that remembers its order.**

  Sessions are taken into a collection with the places of the ids at hand, links are
  changed by going through the whole list, deletions keep a part of it.  A map does
  none of this: it looks up, puts and erases, one key at a time.  Still the
  collection is at any time the list of the values of such a map, whatever was done
  to it.  What carries this is that no id comes twice: then the place of an id is
  the only one, and to change every session with an id is to change one.
-/
import Transcripts.Proofs.Collection.Overlay
import Transcripts.Proofs.Workspace.Stores

namespace Transcripts

theorem getElem?_concat_eq_some_iff {α : Type} {l : List α} {a b : α} {i : Nat} :
    (l ++ [b])[i]? = some a ↔ l[i]? = some a ∨ i = l.length ∧ b = a := by
  rcases Nat.lt_trichotomy i l.length with hlt | rfl | hgt
  · rw [List.getElem?_append_left hlt]
    simp [Nat.ne_of_lt hlt]
  · simp
  · have hne : i - l.length ≠ 0 := by omega
    rw [List.getElem?_append_right (by omega), List.getElem?_singleton, if_neg hne]
    simp [Nat.le_of_lt hgt, Nat.ne_of_gt hgt]

/-! ### Keys that are erased one after another -/

namespace Keyed

variable {κ ν : Type} [BEq κ] [LawfulBEq κ]

theorem foldl_erase (m : Keyed κ ν) (ks : List κ) :
    ks.foldl erase m = m.filter fun entry => !ks.contains entry.1 := by
  induction ks generalizing m with
  | nil => simp
  | cons k ks ih =>
    rw [List.foldl_cons, ih, erase, List.filter_filter]
    apply List.filter_congr
    intro entry _
    rw [List.contains_cons, Bool.not_or, Bool.and_comm]

/-- To erase the keys of some entries is to leave these entries out. -/
theorem foldl_erase_keys {m : Keyed κ ν} (hdistinct : (m.map Prod.fst).Nodup) (doomed : κ × ν → Bool) :
    ((m.filter doomed).map Prod.fst).foldl erase m = m.filter fun entry => !doomed entry := by
  rw [foldl_erase]
  apply List.filter_congr
  intro entry hentry
  congr 1
  rw [Bool.eq_iff_iff, List.contains_iff_mem, List.mem_map]
  constructor
  · rintro ⟨other, hother, hkey⟩
    obtain ⟨hmem, hdoomed⟩ := List.mem_filter.mp hother
    obtain rfl : other = entry := List.inj_on_of_nodup_map hdistinct hmem hentry hkey
    exact hdoomed
  · intro hdoomed
    exact ⟨entry, List.mem_filter.mpr ⟨hentry, hdoomed⟩, rfl⟩

theorem get?_eq_some_iff {m : Keyed κ ν} (hdistinct : (m.map Prod.fst).Nodup) {k : κ} {v : ν} :
    m.get? k = some v ↔ (k, v) ∈ m :=
  ⟨mem_of_get?, fun hmem => get?_of_mem hdistinct hmem⟩

/-- Change what lies under a key, if anything does. -/
def change (m : Keyed κ ν) (k : κ) (f : ν → ν) : Keyed κ ν :=
  match m.get? k with
  | some v => m.put k (f v)
  | none => m

end Keyed

namespace SessionStore

/-! ### Taking sessions in -/

section Places

variable {store : SessionStore} {s : Session} {place : Nat}

/-- With distinct ids, to change the sessions with an id is to change the one at its place. -/
theorem map_eq_set (h : (store.map (·.id)).Nodup) (hplace : (store.map (·.id))[place]? = some s.id) :
    (store.map fun t => if t.id == s.id then s else t) = store.set place s := by
  obtain ⟨hlt, hid⟩ := List.getElem?_eq_some_iff.mp hplace
  apply List.ext_getElem?
  intro i
  rw [List.getElem?_map, List.getElem?_set]
  by_cases hi : place = i
  · subst hi
    rw [List.length_map] at hlt
    rw [List.getElem_map] at hid
    simp [hlt, hid]
  · rw [if_neg hi]
    cases ht : store[i]? with
    | none => rfl
    | some t =>
      have hne : t.id ≠ s.id := by
        intro heq
        have hother : (store.map (·.id))[i]? = some s.id := by
          rw [List.getElem?_map, ht, Option.map_some, heq]
        exact hi ((List.getElem?_inj hlt h).mp (hplace.trans hother.symm))
      simp [hne]

theorem ids_set (hplace : (store.map (·.id))[place]? = some s.id) :
    (store.set place s).map (·.id) = store.map (·.id) := by
  obtain ⟨hlt, hid⟩ := List.getElem?_eq_some_iff.mp hplace
  rw [List.map_set, ← hid, List.set_getElem_self]

end Places

/-- The ids are distinct, and each of them is found at its place. -/
structure Intake.Indexed (intake : Intake) : Prop where
  distinct : (intake.sessions.map (·.id)).Nodup
  places : ∀ id place,
    intake.places.get? id = some place ↔ (intake.sessions.map (·.id))[place]? = some id

namespace Intake

theorem indexed_start {store : SessionStore} (h : (store.map (·.id)).Nodup) :
    (start store).Indexed where
  distinct := h
  places := by
    intro id place
    have hkeys : (store.zipIdx.map fun p => (p.1.id, p.2)).map Prod.fst = store.map (·.id) := by
      rw [List.map_map]
      exact (List.map_map (f := Prod.fst) (g := Session.id)).symm.trans (by rw [List.zipIdx_map_fst])
    have hdistinct := hkeys.symm ▸ h
    have hstart : (start store).places = store.zipIdx.map fun p => (p.1.id, p.2) :=
      Keyed.ofPairs_of_nodup hdistinct
    rw [hstart, Keyed.get?_eq_some_iff hdistinct, List.mem_map, List.getElem?_map, Option.map_eq_some_iff]
    constructor
    · rintro ⟨⟨s, i⟩, hmem, heq⟩
      obtain ⟨rfl, rfl⟩ := Prod.mk.inj heq
      exact ⟨s, List.mem_zipIdx_iff_getElem?.mp hmem, rfl⟩
    · rintro ⟨s, hs, rfl⟩
      exact ⟨(s, place), List.mem_zipIdx_iff_getElem?.mpr hs, rfl⟩

section Take

variable {intake : Intake}

/-- A session goes to the place of its id, or last if its id has none. -/
theorem take_cases (h : intake.Indexed) (s : Session) :
    (∃ place, (intake.sessions.map (·.id))[place]? = some s.id ∧
      intake.take s = { intake with sessions := intake.sessions.set place s }) ∨
    (s.id ∉ intake.sessions.map (·.id) ∧
      intake.take s = {
        sessions := intake.sessions ++ [s]
        places := intake.places.put s.id intake.sessions.length
        added := intake.added + 1 }) := by
  cases hfound : intake.places.get? s.id with
  | some place =>
    left
    refine ⟨place, (h.places _ _).mp hfound, ?_⟩
    rw [take, hfound]
  | none =>
    right
    refine ⟨?_, by rw [take, hfound]⟩
    intro hmem
    obtain ⟨place, hplace⟩ := List.getElem?_of_mem hmem
    rw [(h.places _ _).mpr hplace] at hfound
    exact absurd hfound (by simp)

theorem indexed_take (h : intake.Indexed) (s : Session) : (intake.take s).Indexed := by
  rcases take_cases h s with ⟨place, hplace, htake⟩ | ⟨hnew, htake⟩
  · rw [htake]
    have hids := ids_set hplace
    exact { distinct := hids ▸ h.distinct, places := hids ▸ h.places }
  · rw [htake]
    refine { distinct := ?_, places := ?_ }
    · exact nodup_map_concat h.distinct hnew
    · intro id place
      rw [Keyed.get?_put, List.map_append, List.map_singleton, getElem?_concat_eq_some_iff, ← h.places,
        List.length_map]
      by_cases hid : id = s.id
      · subst hid
        have hnone : intake.places.get? s.id ≠ some place := by
          intro hplace
          exact hnew (List.mem_of_getElem? ((h.places _ _).mp hplace))
        simp [hnone, eq_comm]
      · simp [hid, Ne.symm hid]

theorem sessions_take (h : intake.Indexed) (s : Session) :
    (intake.take s).sessions = intake.sessions.upsert s := by
  rcases take_cases h s with ⟨place, hplace, htake⟩ | ⟨hnew, htake⟩
  · have hknown : intake.sessions.any (·.id == s.id) = true := by
      simpa using List.mem_of_getElem? hplace
    rw [htake, upsert, if_pos hknown, map_eq_set h.distinct hplace]
  · have hunknown : ¬ intake.sessions.any (·.id == s.id) = true := by
      simpa using hnew
    rw [htake, upsert, if_neg hunknown]

theorem length_take (h : intake.Indexed) (s : Session) :
    (intake.take s).sessions.length + intake.added =
      intake.sessions.length + (intake.take s).added := by
  rcases take_cases h s with ⟨place, _, htake⟩ | ⟨_, htake⟩
  · simp [htake]
  · simp only [htake, List.length_append, List.length_singleton]
    omega

/-- Sessions are taken in as they are added one after another, and those that make
    the collection longer are counted. -/
theorem foldl_take (h : intake.Indexed) (sessions : List Session) :
    (sessions.foldl take intake).sessions = intake.sessions.addAll sessions ∧
      (sessions.foldl take intake).sessions.length + intake.added =
        intake.sessions.length + (sessions.foldl take intake).added := by
  induction sessions generalizing intake with
  | nil => exact ⟨rfl, rfl⟩
  | cons s sessions ih =>
    obtain ⟨hsessions, hlength⟩ := ih (indexed_take h s)
    have hstep := length_take h s
    refine ⟨?_, ?_⟩
    · rw [List.foldl_cons, hsessions, sessions_take h]
      rfl
    · rw [List.foldl_cons]
      omega

end Take

end Intake

section Add

variable {store : SessionStore}

theorem fst_add (h : (store.map (·.id)).Nodup) (sessions : List Session) :
    (store.add sessions).1 = store.addAll sessions :=
  (Intake.foldl_take (Intake.indexed_start h) sessions).1

theorem add_singleton_cases (h : (store.map (·.id)).Nodup) (s : Session) :
    (∃ place, (store.map (·.id))[place]? = some s.id ∧ (store.add [s]).1 = store.set place s) ∨
      (s.id ∉ store.map (·.id) ∧ (store.add [s]).1 = store ++ [s]) := by
  rcases Intake.take_cases (Intake.indexed_start h) s with ⟨place, hplace, htake⟩ | ⟨hnew, htake⟩
  · exact .inl ⟨place, hplace, congrArg Intake.sessions htake⟩
  · exact .inr ⟨hnew, congrArg Intake.sessions htake⟩

theorem length_add (h : (store.map (·.id)).Nodup) (sessions : List Session) :
    (store.add sessions).1.length = store.length + (store.add sessions).2 :=
  (Intake.foldl_take (Intake.indexed_start h) sessions).2

end Add

/-! ### What is done to a collection, and to a map -/

/-- What can be done with a collection of sessions. -/
inductive Operation where
  | add (sessions : List Session)
  | delete (ids : List String)
  | deleteFiles (names : List String)
  | link (id ref : String)
  | unlink (id ref : String)
  | unlinkEverywhere (ref : String)

/-- Change the session with an id; where there is none the change is refused, and the
    collection stays as it was. -/
def modify (store : SessionStore) (id : String) (change : Session → Session) : SessionStore :=
  ((store.modify? id change).map (·.1)).getD store

def perform (store : SessionStore) : Operation → SessionStore
  | .add sessions => (store.add sessions).1
  | .delete ids => (store.delete ids).1
  | .deleteFiles names => (store.deleteFiles names).1
  | .link id ref => store.modify id (·.link ref)
  | .unlink id ref => store.modify id (·.unlink ref)
  | .unlinkEverywhere ref => (store.unlinkEverywhere ref).1

/-- The same on a map from ids to sessions, where one key at a time is looked up, put
    or erased. -/
def performOnMap (m : Keyed String Session) : Operation → Keyed String Session
  | .add sessions => m.putAll (byId sessions)
  | .delete ids => ids.foldl Keyed.erase m
  | .deleteFiles names =>
    ((m.filter fun entry => names.contains entry.2.sourceLabel).map Prod.fst).foldl Keyed.erase m
  | .link id ref => m.change id (·.link ref)
  | .unlink id ref => m.change id (·.unlink ref)
  | .unlinkEverywhere ref =>
    m.map fun (id, s) => (id, if s.legalReferenceIds.contains ref then s.unlink ref else s)

section Step

variable {store : SessionStore}

theorem get?_byId (store : SessionStore) (id : String) : (byId store).get? id = store.get? id := by
  induction store with
  | nil => rfl
  | cons s store ih =>
    have hstep : byId (s :: store) = (s.id, s) :: byId store := rfl
    rw [hstep, Keyed.get?_cons, ih, get?, get?, List.find?_cons, BEq.comm]
    cases s.id == id <;> rfl

theorem filter_byId (store : SessionStore) (kept : String × Session → Bool) :
    (byId store).filter kept = byId (store.filter fun s => kept (s.id, s)) := List.filter_map

theorem byId_modify (store : SessionStore) (id : String) {change : Session → Session}
    (hid : ∀ s : Session, (change s).id = s.id) :
    byId (store.modify id change) = (byId store).change id change := by
  rw [modify, modify?, Keyed.change, get?_byId]
  cases hfound : store.get? id with
  | none => rfl
  | some s =>
    obtain ⟨hmem, rfl⟩ := mem_of_get? hfound
    have hknown : store.any (·.id == (change s).id) = true := by
      rw [hid, List.any_eq_true]
      exact ⟨s, hmem, beq_self_eq_true _⟩
    -- the changed session replaces the one with its id
    have hupsert := byId_upsert store (change s)
    rw [upsert, if_pos hknown, hid] at hupsert
    exact hupsert

theorem byId_perform (h : (store.map (·.id)).Nodup) (operation : Operation) :
    byId (store.perform operation) = performOnMap (byId store) operation := by
  have hkeys : ((byId store).map Prod.fst).Nodup := by rwa [keys_byId]
  cases operation with
  | add sessions => rw [perform, fst_add h, byId_addAll, performOnMap]
  | delete ids =>
    rw [performOnMap, Keyed.foldl_erase, filter_byId]
    rfl
  | deleteFiles names =>
    rw [performOnMap, Keyed.foldl_erase_keys hkeys, filter_byId]
    rfl
  | link id ref => exact byId_modify store id fun s => s.id_link ref
  | unlink id ref => exact byId_modify store id fun s => s.id_unlink ref
  | unlinkEverywhere ref =>
    rw [perform, performOnMap, unlinkEverywhere, byId, byId, List.map_map, List.map_map]
    apply List.map_congr_left
    intro s _
    simp only [Function.comp_apply]
    split <;> rfl

theorem nodup_ids_modify (h : (store.map (·.id)).Nodup) {id : String} {change : Session → Session}
    (hid : ∀ s : Session, (change s).id = s.id) : ((store.modify id change).map (·.id)).Nodup := by
  rw [modify]
  cases hmodify : store.modify? id change with
  | none => exact h
  | some r =>
    change (r.1.map (·.id)).Nodup
    rw [ids_modify hid hmodify]
    exact h

theorem nodup_ids_perform (h : (store.map (·.id)).Nodup) (operation : Operation) :
    ((store.perform operation).map (·.id)).Nodup := by
  cases operation with
  | add sessions =>
    rw [perform, fst_add h]
    exact nodup_ids_addAll h sessions
  | delete ids => exact nodup_ids_filter h _
  | deleteFiles names => exact nodup_ids_filter h _
  | link id ref => exact nodup_ids_modify h fun s => s.id_link ref
  | unlink id ref => exact nodup_ids_modify h fun s => s.id_unlink ref
  | unlinkEverywhere ref =>
    rw [perform, ids_unlinkEverywhere]
    exact h

theorem length_dropWhere (store : SessionStore) (doomed : Session → Bool) :
    (store.dropWhere doomed).2 = (store.filter doomed).length := by
  have htotal := List.length_eq_length_filter_add (l := store) doomed
  rw [dropWhere]
  omega

theorem length_dropWhere_add (store : SessionStore) (doomed : Session → Bool) :
    (store.dropWhere doomed).1.length + (store.dropWhere doomed).2 = store.length :=
  Nat.add_sub_cancel' (List.length_filter_le _ _)

end Step

/-! ### What a whole run comes to -/

theorem byId_run {store : SessionStore} (h : (store.map (·.id)).Nodup) (run : List Operation) :
    ((run.foldl perform store).map (·.id)).Nodup ∧
      byId (run.foldl perform store) = run.foldl performOnMap (byId store) := by
  induction run generalizing store with
  | nil => exact ⟨h, rfl⟩
  | cons operation run ih =>
    rw [List.foldl_cons, List.foldl_cons, ← byId_perform h]
    exact ih (nodup_ids_perform h operation)

/-- **A collection of sessions is a map that remembers its order.**  Whatever sessions
    it begins with and whatever is done to it, it holds the values of a map from ids to
    sessions that went through the same, in the order of the keys, and no id twice.  A
    session whose id is known goes to the place of that id, any other goes last, also
    if one with its id was deleted.  Adding tells by how many sessions the collection
    grew, deleting by how many it shrank. -/
theorem run_is_ordered_map (sessions : List Session) (run : List Operation) :
    let store := run.foldl perform (add [] sessions).1
    let map := run.foldl performOnMap (.ofPairs (byId sessions))
    store = map.values ∧ store.map (·.id) = map.keys ∧ (store.map (·.id)).Nodup ∧
      (∀ s : Session,
        ((∃ place, (store.map (·.id))[place]? = some s.id ∧ (store.add [s]).1 = store.set place s) ∨
          (s.id ∉ store.map (·.id) ∧ (store.add [s]).1 = store ++ [s])) ∧
        ((store.delete [s.id]).1.add [s]).1 = (store.delete [s.id]).1 ++ [s]) ∧
      (∀ batch, (store.add batch).1.length = store.length + (store.add batch).2) ∧
      (∀ ids, (store.delete ids).1.length + (store.delete ids).2 = store.length) ∧
      (∀ names, (store.deleteFiles names).1.length + (store.deleteFiles names).2 = store.length) := by
  intro store map
  have hnone : (([] : SessionStore).map (·.id)).Nodup := List.nodup_nil
  obtain ⟨hdistinct, hmap⟩ := byId_run hnone (.add sessions :: run)
  have hmap : byId store = map := hmap
  refine ⟨?_, ?_, hdistinct, ?_, ?_, ?_, ?_⟩
  · rw [← hmap]
    exact (values_byId store).symm
  · rw [← hmap]
    exact (keys_byId store).symm
  · intro s
    refine ⟨add_singleton_cases hdistinct s, ?_⟩
    have hleft : ((store.delete [s.id]).1.map (·.id)).Nodup := nodup_ids_filter hdistinct _
    rcases add_singleton_cases hleft s with ⟨place, hplace, _⟩ | ⟨_, hlast⟩
    · obtain ⟨t, ht, hid⟩ := List.mem_map.mp (List.mem_of_getElem? hplace)
      have hkept := (List.mem_filter.mp ht).2
      simp [hid] at hkept
    · exact hlast
  · exact length_add hdistinct
  · exact fun ids => length_dropWhere_add store _
  · exact fun names => length_dropWhere_add store _

end SessionStore

end Transcripts
