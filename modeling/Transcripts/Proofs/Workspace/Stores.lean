/-
  Transcripts/Proofs/Workspace/Stores.lean
  ========================================
  **What the collections of a workspace keep.**

  Sessions, tags and legal references are kept in lists, and each list is to hold
  one record under an id.  A list is sound if it does and if each of its records
  can be stored.  Whatever the workspace does to a sound collection leaves it
  sound, and a sound collection that is loaded into an empty one comes back as it
  was, in the same order.
-/
import Transcripts.Proofs.Project.Record
import Transcripts.Session.Store

namespace Transcripts

open Transcripts.Text

/-! ### Sessions -/

namespace Session

@[simp] theorem id_link (s : Session) (ref : String) : (s.link ref).id = s.id := rfl

@[simp] theorem id_unlink (s : Session) (ref : String) : (s.unlink ref).id = s.id := rfl

variable {s : Session}

theorem storable_link (h : s.Storable) (ref : String) : (s.link ref).Storable where
  texts := h.texts
  startPage := h.startPage
  endPage := h.endPage
  references := TextSet.insert_ascending h.references ref

theorem storable_unlink (h : s.Storable) (ref : String) : (s.unlink ref).Storable where
  texts := h.texts
  startPage := h.startPage
  endPage := h.endPage
  references := List.Pairwise.filter _ h.references

end Session

namespace SessionStore

/-- The sessions under their ids. -/
def byId (store : List Session) : Keyed String Session := store.map fun s => (s.id, s)

theorem keys_byId (store : List Session) : (byId store).map Prod.fst = store.map (·.id) := by
  simp [byId]

theorem values_byId (store : List Session) : (byId store).map Prod.snd = store := by
  simp [byId, Function.comp_def]

theorem mem_of_mem_byId {store : List Session} {entry : String × Session}
    (h : entry ∈ byId store) : entry.2 ∈ store := by
  obtain ⟨s, hs, rfl⟩ := List.mem_map.mp h
  exact hs

/-- To add a session is to put it under its id. -/
theorem byId_upsert (store : SessionStore) (s : Session) :
    byId (store.upsert s) = (byId store).put s.id s := by
  have hhas : (byId store).has s.id = store.any (·.id == s.id) := by
    simp [Keyed.has, byId, List.any_map, Function.comp_def]
  rw [upsert, Keyed.put, hhas]
  split
  · simp only [byId, List.map_map]
    refine List.map_congr_left fun t _ => ?_
    simp only [Function.comp_apply]
    split
    · next hid => rw [eq_of_beq hid]
    · rfl
  · simp [byId]

theorem byId_addAll (store : SessionStore) (sessions : List Session) :
    byId (store.addAll sessions) = Keyed.putAll (byId store) (byId sessions) := by
  induction sessions generalizing store with
  | nil => rfl
  | cons s sessions ih =>
    have hstep : store.addAll (s :: sessions) = addAll (store.upsert s) sessions := rfl
    rw [hstep, ih, byId_upsert]
    rfl

theorem mem_of_mem_addAll {store : SessionStore} {sessions : List Session} {s : Session}
    (h : s ∈ store.addAll sessions) : s ∈ store ∨ s ∈ sessions := by
  have hmem : (s.id, s) ∈ byId (store.addAll sessions) := List.mem_map_of_mem h
  rw [byId_addAll] at hmem
  exact (Keyed.mem_putAll hmem).imp mem_of_mem_byId mem_of_mem_byId

theorem mem_ids_addAll {store : SessionStore} {sessions : List Session} {id : String} :
    id ∈ (store.addAll sessions).map (·.id) ↔ id ∈ store.map (·.id) ∨ id ∈ sessions.map (·.id) := by
  rw [← keys_byId, byId_addAll, Keyed.mem_keys_putAll, keys_byId, keys_byId]

/-! Ids stay distinct whatever the sessions are. -/

theorem nodup_ids_addAll {store : SessionStore} (h : (store.map (·.id)).Nodup)
    (sessions : List Session) : ((store.addAll sessions).map (·.id)).Nodup := by
  rw [← keys_byId] at h
  rw [← keys_byId, byId_addAll]
  exact Keyed.nodup_keys_putAll h _

theorem nodup_ids_filter {store : SessionStore} (h : (store.map (·.id)).Nodup)
    (kept : Session → Bool) : ((store.filter kept).map (·.id)).Nodup :=
  h.sublist (List.filter_sublist.map _)

theorem ids_map {store : SessionStore} {change : Session → Session}
    (hchange : ∀ s ∈ store, (change s).id = s.id) :
    (store.map change).map (·.id) = store.map (·.id) := by
  rw [List.map_map]
  exact List.map_congr_left hchange

theorem mem_of_get? {store : SessionStore} {id : String} {s : Session}
    (h : store.get? id = some s) : s ∈ store ∧ s.id = id :=
  ⟨List.mem_of_find?_eq_some h, by simpa using List.find?_some h⟩

theorem ids_modify {store store' : SessionStore} {id : String} {s : Session}
    {change : Session → Session} (hid : ∀ s : Session, (change s).id = s.id)
    (hmodify : store.modify? id change = some (store', s)) :
    store'.map (·.id) = store.map (·.id) := by
  obtain ⟨found, hfound, heq⟩ := Option.map_eq_some_iff.mp hmodify
  rw [← (Prod.mk.inj heq).1]
  refine ids_map fun t _ => ?_
  split
  · next ht => exact (hid found).trans ((mem_of_get? hfound).2.trans (eq_of_beq ht).symm)
  · rfl

theorem mem_of_mem_modify {store store' : SessionStore} {id : String} {s t : Session}
    {change : Session → Session} (hmodify : store.modify? id change = some (store', s))
    (ht : t ∈ store') : t ∈ store ∨ ∃ found ∈ store, t = change found := by
  obtain ⟨found, hfound, heq⟩ := Option.map_eq_some_iff.mp hmodify
  rw [← (Prod.mk.inj heq).1] at ht
  obtain ⟨old, hold, rfl⟩ := List.mem_map.mp ht
  split
  · exact .inr ⟨found, (mem_of_get? hfound).1, rfl⟩
  · exact .inl hold

theorem mem_of_mem_unlinkEverywhere {store : SessionStore} {ref : String} {t : Session}
    (ht : t ∈ (store.unlinkEverywhere ref).1) :
    ∃ s ∈ store, t = if s.legalReferenceIds.contains ref then s.unlink ref else s := by
  obtain ⟨s, hs, rfl⟩ := List.mem_map.mp ht
  exact ⟨s, hs, rfl⟩

theorem ids_unlinkEverywhere (store : SessionStore) (ref : String) :
    (store.unlinkEverywhere ref).1.map (·.id) = store.map (·.id) := by
  refine ids_map fun s _ => ?_
  split <;> rfl

/-- One session under an id, and each of them can be stored. -/
structure Sound (store : SessionStore) : Prop where
  distinct : (store.map (·.id)).Nodup
  storable : ∀ s ∈ store, s.Storable

theorem sound_nil : Sound [] where
  distinct := List.nodup_nil
  storable := by simp

theorem sound_addAll {store : SessionStore} (h : store.Sound) {sessions : List Session}
    (hsessions : ∀ s ∈ sessions, s.Storable) : (store.addAll sessions).Sound where
  distinct := nodup_ids_addAll h.distinct sessions
  storable := by
    intro s hs
    rcases mem_of_mem_addAll hs with hold | hnew
    · exact h.storable s hold
    · exact hsessions s hnew

/-- Sessions with distinct ids are added to none as they are. -/
theorem addAll_nil_of_distinct {sessions : List Session} (h : (sessions.map (·.id)).Nodup) :
    addAll [] sessions = sessions := by
  have hput : Keyed.putAll (byId []) (byId sessions) = byId sessions := by
    refine Keyed.ofPairs_of_nodup ?_
    rw [keys_byId]
    exact h
  rw [← values_byId (addAll [] sessions), byId_addAll, hput, values_byId]

theorem sound_filter {store : SessionStore} (h : store.Sound) (kept : Session → Bool) :
    Sound (store.filter kept) where
  distinct := nodup_ids_filter h.distinct kept
  storable := fun s hs => h.storable s (List.mem_filter.mp hs).1

theorem sound_modify {store store' : SessionStore} (h : store.Sound) {id : String} {s : Session}
    {change : Session → Session} (hid : ∀ s : Session, (change s).id = s.id)
    (hstorable : ∀ s : Session, s.Storable → (change s).Storable)
    (hmodify : store.modify? id change = some (store', s)) : store'.Sound where
  distinct := by
    rw [ids_modify hid hmodify]
    exact h.distinct
  storable := by
    intro t ht
    rcases mem_of_mem_modify hmodify ht with hold | ⟨found, hfound, rfl⟩
    · exact h.storable t hold
    · exact hstorable found (h.storable found hfound)

theorem sound_unlinkEverywhere {store : SessionStore} (h : store.Sound) (ref : String) :
    (store.unlinkEverywhere ref).1.Sound where
  distinct := by
    rw [ids_unlinkEverywhere]
    exact h.distinct
  storable := by
    intro t ht
    obtain ⟨s, hs, rfl⟩ := mem_of_mem_unlinkEverywhere ht
    split
    · exact Session.storable_unlink (h.storable s hs) ref
    · exact h.storable s hs

end SessionStore

/-! ### Tags -/

namespace TagStore

/-- One tag under an id, and each of them can be stored. -/
structure Sound (store : TagStore) : Prop where
  distinct : (store.map (·.id)).Nodup
  storable : ∀ t ∈ store, t.Storable

theorem sound_nil : Sound [] where
  distinct := List.nodup_nil
  storable := by simp

theorem extend_cons (store : TagStore) (tag : Tag) (tags : List Tag) :
    store.extend (tag :: tags) =
      extend (if tag.id ∈ store.map (·.id) then store else store ++ [tag]) tags := by
  have hknown : store.any (·.id == tag.id) = true ↔ tag.id ∈ store.map (·.id) := by
    simp
  simp only [extend, List.foldl_cons, hknown]

theorem mem_ids_extend {store : TagStore} {tags : List Tag} {id : String} :
    id ∈ (store.extend tags).map (·.id) ↔ id ∈ store.map (·.id) ∨ id ∈ tags.map (·.id) := by
  induction tags generalizing store with
  | nil => simp [extend]
  | cons tag tags ih =>
    rw [extend_cons, ih, List.map_cons, List.mem_cons]
    split
    · next hknown =>
      constructor
      · rintro (hstore | htags)
        · exact .inl hstore
        · exact .inr (.inr htags)
      · rintro (hstore | rfl | htags)
        · exact .inl hstore
        · exact .inl hknown
        · exact .inr htags
    · rw [List.map_append, List.mem_append, List.map_singleton, List.mem_singleton, or_assoc]

theorem mem_of_mem_extend {store : TagStore} {tags : List Tag} {t : Tag}
    (h : t ∈ store.extend tags) : t ∈ store ∨ t ∈ tags := by
  induction tags generalizing store with
  | nil => exact .inl h
  | cons tag tags ih =>
    rw [extend_cons] at h
    rcases ih h with hstore | htags
    · split at hstore
      · exact .inl hstore
      · rcases List.mem_append.mp hstore with hold | hnew
        · exact .inl hold
        · exact .inr (List.mem_cons.mpr (.inl (List.mem_singleton.mp hnew)))
    · exact .inr (List.mem_cons_of_mem tag htags)

theorem sound_append {store : TagStore} (h : store.Sound) {tag : Tag} (htag : tag.Storable)
    (hnew : tag.id ∉ store.map (·.id)) : Sound (store ++ [tag]) where
  distinct := nodup_map_concat h.distinct hnew
  storable := by
    intro t ht
    rcases List.mem_append.mp ht with hold | htag'
    · exact h.storable t hold
    · rw [List.mem_singleton.mp htag']
      exact htag

theorem sound_extend {store : TagStore} (h : store.Sound) {tags : List Tag}
    (htags : ∀ t ∈ tags, t.Storable) : (store.extend tags).Sound := by
  induction tags generalizing store with
  | nil => exact h
  | cons tag tags ih =>
    obtain ⟨htag, hrest⟩ := List.forall_mem_cons.mp htags
    rw [extend_cons]
    split
    · exact ih h hrest
    · next hnew => exact ih (sound_append h htag hnew) hrest

/-- Tags with new and distinct ids are put behind the others as they are. -/
theorem extend_of_distinct {store : TagStore} {tags : List Tag}
    (h : ((store ++ tags).map (·.id)).Nodup) : store.extend tags = store ++ tags := by
  induction tags generalizing store with
  | nil => exact (List.append_nil store).symm
  | cons tag tags ih =>
    have hnew : tag.id ∉ store.map (·.id) := by
      rw [List.map_append, List.map_cons, List.nodup_append] at h
      exact fun hmem => h.2.2 tag.id hmem tag.id List.mem_cons_self rfl
    have hnext : ((store ++ [tag] ++ tags).map (·.id)).Nodup := by
      rwa [List.append_assoc, List.singleton_append]
    rw [extend_cons, if_neg hnew, ih hnext, List.append_assoc, List.singleton_append]

/-- To make a tag is to put it in front. -/
theorem create_cases {store store' : TagStore} {stamp : Stamp} {name : String}
    {sessionIds : List String} {description : Option String} {fromSelection : Bool} {tag : Tag}
    (hcreate : store.create stamp name sessionIds description fromSelection = .ok (store', tag)) :
    tag = stamp.tag name sessionIds description fromSelection ∧ store' = tag :: store := by
  rw [create] at hcreate
  split at hcreate
  · simp at hcreate
  · obtain ⟨rfl, rfl⟩ := Prod.mk.inj (Except.ok.inj hcreate)
    exact ⟨rfl, rfl⟩

theorem sound_create {store store' : TagStore} (h : store.Sound) {stamp : Stamp}
    (hid : stamp.id ∉ store.map (·.id)) (htime : Json.FitsDigits stamp.timestamp) {name : String}
    {sessionIds : List String} {description : Option String} {fromSelection : Bool} {tag : Tag}
    (hcreate : store.create stamp name sessionIds description fromSelection = .ok (store', tag)) :
    store'.Sound := by
  obtain ⟨rfl, rfl⟩ := create_cases hcreate
  exact {
    distinct := List.nodup_cons.mpr ⟨hid, h.distinct⟩
    storable := List.forall_mem_cons.mpr ⟨htime, h.storable⟩ }

theorem mem_of_get? {store : TagStore} {id : String} {t : Tag} (h : store.get? id = some t) :
    t ∈ store ∧ t.id = id :=
  ⟨List.mem_of_find?_eq_some h, by simpa using List.find?_some h⟩

theorem get?_eq_none_iff {store : TagStore} {id : String} :
    store.get? id = none ↔ id ∉ store.map (·.id) := by
  rw [get?, List.find?_eq_none, List.mem_map]
  constructor
  · rintro hnone ⟨t, ht, hid⟩
    exact hnone t ht (beq_iff_eq.mpr hid)
  · intro hid t ht heq
    exact hid ⟨t, ht, beq_iff_eq.mp heq⟩

theorem rename_cases {store store' : TagStore} {id name : String} {tag : Tag}
    (hrename : store.rename id name = .ok (store', tag)) :
    ∃ found ∈ store, found.id = id ∧
      store' = store.map fun t => if t.id == id then { found with name := trimmed name } else t := by
  rw [rename] at hrename
  split at hrename
  · simp at hrename
  · split at hrename
    · simp at hrename
    · next found hfound =>
      obtain ⟨rfl, _⟩ := Prod.mk.inj (Except.ok.inj hrename)
      obtain ⟨hmem, hid⟩ := mem_of_get? hfound
      exact ⟨found, hmem, hid, rfl⟩

theorem ids_rename {store store' : TagStore} {id name : String} {tag : Tag}
    (hrename : store.rename id name = .ok (store', tag)) :
    store'.map (·.id) = store.map (·.id) := by
  obtain ⟨found, _, hid, rfl⟩ := rename_cases hrename
  rw [List.map_map]
  refine List.map_congr_left fun t _ => ?_
  simp only [Function.comp_apply]
  split
  · next ht => exact hid.trans (eq_of_beq ht).symm
  · rfl

theorem sound_rename {store store' : TagStore} (h : store.Sound) {id name : String} {tag : Tag}
    (hrename : store.rename id name = .ok (store', tag)) : store'.Sound where
  distinct := by
    rw [ids_rename hrename]
    exact h.distinct
  storable := by
    obtain ⟨found, hfound, _, rfl⟩ := rename_cases hrename
    intro t ht
    obtain ⟨old, hold, rfl⟩ := List.mem_map.mp ht
    split
    · exact h.storable found hfound
    · exact h.storable old hold

theorem sound_delete {store : TagStore} (h : store.Sound) (id : String) :
    (store.delete id).1.Sound where
  distinct := h.distinct.sublist (List.filter_sublist.map _)
  storable := fun t ht => h.storable t (List.mem_filter.mp ht).1

end TagStore

/-! ### Legal references -/

namespace LegalRegistry

/-- Each reference is registered once, under its own id, and can be stored. -/
structure Sound (registry : LegalRegistry) : Prop where
  distinct : (registry.map Prod.fst).Nodup
  own : ∀ entry ∈ registry, entry.1 = entry.2.id
  storable : ∀ entry ∈ registry, entry.2.Storable

theorem sound_nil : Sound [] where
  distinct := List.nodup_nil
  own := by simp
  storable := by simp

theorem mem_extend {registry : LegalRegistry} {refs : List LegalReference}
    {entry : String × LegalReference} (h : entry ∈ registry.extend refs) :
    entry ∈ registry ∨ entry.1 = entry.2.id ∧ entry.2 ∈ refs := by
  rcases Keyed.mem_putAll h with hold | hnew
  · exact .inl hold
  · obtain ⟨r, hr, rfl⟩ := List.mem_map.mp hnew
    exact .inr ⟨rfl, hr⟩

theorem mem_keys_extend {registry : LegalRegistry} {refs : List LegalReference} {id : String} :
    id ∈ (registry.extend refs).map Prod.fst ↔ id ∈ registry.map Prod.fst ∨ id ∈ refs.map (·.id) := by
  rw [extend, Keyed.mem_keys_putAll, List.map_map]
  rfl

theorem sound_extend {registry : LegalRegistry} (h : registry.Sound) {refs : List LegalReference}
    (hrefs : ∀ r ∈ refs, r.Storable) : (registry.extend refs).Sound where
  distinct := Keyed.nodup_keys_putAll h.distinct _
  own := by
    intro entry hentry
    rcases mem_extend hentry with hold | ⟨hown, _⟩
    · exact h.own entry hold
    · exact hown
  storable := by
    intro entry hentry
    rcases mem_extend hentry with hold | ⟨_, hnew⟩
    · exact h.storable entry hold
    · exact hrefs entry.2 hnew

theorem nodup_keys_remove {registry registry' : LegalRegistry}
    (h : (registry.map Prod.fst).Nodup) {id : String} (hremove : registry.remove? id = some registry') :
    (registry'.map Prod.fst).Nodup := by
  rw [remove?] at hremove
  split at hremove
  · rw [← Option.some.inj hremove]
    exact h.sublist (List.filter_sublist.map _)
  · simp at hremove

/-- To add a reference is to put it under its new id. -/
theorem add_cases {registry : LegalRegistry} {freshId label : String} {category : LegalCategory}
    {description : Option String} {r : LegalRegistry × LegalReference}
    (hadd : registry.add freshId category label description = .ok r) :
    r.1 = Keyed.put registry freshId r.2 := by
  rw [add] at hadd
  split at hadd
  · simp at hadd
  · rw [← Except.ok.inj hadd]

/-- To archive or revive a reference is to put it under its id again. -/
theorem setStatus_cases {registry : LegalRegistry} {id : String} {status : LegalStatus}
    {r : LegalRegistry × LegalReference} (hset : registry.setStatus id status = .ok r) :
    r.1 = Keyed.put registry id r.2 := by
  rw [setStatus] at hset
  split at hset
  · simp at hset
  · rw [← Except.ok.inj hset]

theorem nodup_keys_setStatus {registry : LegalRegistry} (h : (registry.map Prod.fst).Nodup)
    {id : String} {status : LegalStatus} {r : LegalRegistry × LegalReference}
    (hset : registry.setStatus id status = .ok r) : (r.1.map Prod.fst).Nodup := by
  rw [setStatus_cases hset]
  exact Keyed.nodup_keys_put h _ _

theorem mem_keys_setStatus {registry : LegalRegistry} {id ref : String} {status : LegalStatus}
    {r : LegalRegistry × LegalReference} (hset : registry.setStatus id status = .ok r)
    (href : ref ∈ registry.map Prod.fst) : ref ∈ r.1.map Prod.fst := by
  rw [setStatus_cases hset]
  exact Keyed.mem_keys_put.mpr (.inr href)

theorem sound_remove {registry registry' : LegalRegistry} (h : registry.Sound) {id : String}
    (hremove : registry.remove? id = some registry') : registry'.Sound := by
  have hdistinct := nodup_keys_remove h.distinct hremove
  rw [remove?] at hremove
  split at hremove
  · rw [← Option.some.inj hremove] at hdistinct ⊢
    exact {
      distinct := hdistinct
      own := fun entry hentry => h.own entry (List.mem_filter.mp hentry).1
      storable := fun entry hentry => h.storable entry (List.mem_filter.mp hentry).1 }
  · simp at hremove

/-- References that are registered under their own ids are registered again as they were. -/
theorem extend_nil_all {registry : LegalRegistry} (h : registry.Sound) :
    extend [] registry.all = registry := by
  have hpairs : registry.all.map (fun r => (r.id, r)) = registry := by
    rw [all, Keyed.values, List.map_map]
    have hsame : ∀ entry ∈ registry,
        ((fun r : LegalReference => (r.id, r)) ∘ Prod.snd) entry = id entry := by
      intro entry hentry
      exact Prod.ext (h.own entry hentry).symm rfl
    rw [List.map_congr_left hsame, List.map_id]
  rw [extend, hpairs]
  exact Keyed.ofPairs_of_nodup h.distinct

end LegalRegistry

end Transcripts
