/-
  Transcripts/Proofs/Identity/Flatness.lean
  =========================================
  **The alias map stays flat.**

  An identity is looked up once, never twice, so no identity that spellings are
  sent to may itself be a spelling.  Flattening gives such a map from any pairs
  at all.  A merge does not flatten: it sends what was shown as one of the merged
  spellings on to the new identity and strikes that identity off the spellings,
  and this is enough.

  Together with flatness go two facts about maps that never had an empty side:
  they keep none, and their keys stay distinct.  Such a map is put over an empty
  one unchanged, which is what happens when it is loaded.
-/
import Mathlib.Data.List.Basic
import Transcripts.Identity.Alias
import Transcripts.Proofs.Collection.NormalForm

namespace Transcripts.Identity.AliasMap

open Transcripts.Text

/-- No identity that spellings are sent to is itself a spelling. -/
def IsFlat (m : AliasMap) : Prop := ∀ entry ∈ m, entry.2 ∉ m.map Prod.fst

instance (m : AliasMap) : Decidable m.IsFlat :=
  inferInstanceAs (Decidable (∀ entry ∈ m, entry.2 ∉ m.map Prod.fst))

/-! ### Flattening -/

/-- A chain goes on from a key, and ends at anything else. -/
theorem chainEnd?_cases {pairs : Keyed String String} {steps : Nat} {seen : List String}
    {place stop : String} (h : chainEnd? pairs (steps + 1) seen place = some stop) :
    (∃ next, pairs.get? place = some next ∧
      chainEnd? pairs steps (place :: seen) next = some stop) ∨
    pairs.get? place = none ∧ stop = place := by
  rw [chainEnd?] at h
  split at h
  · simp at h
  · split at h
    · next next hget => exact .inl ⟨next, hget, h⟩
    · next hget => exact .inr ⟨hget, (Option.some.inj h).symm⟩

/-- A chain ends outside the keys. -/
theorem chainEnd?_not_key {pairs : Keyed String String} {steps : Nat} {seen : List String}
    {place stop : String} (h : chainEnd? pairs steps seen place = some stop) :
    stop ∉ pairs.map Prod.fst := by
  induction steps generalizing seen place with
  | zero => simp [chainEnd?] at h
  | succ steps ih =>
    rcases chainEnd?_cases h with ⟨next, _, hrest⟩ | ⟨hget, rfl⟩
    · exact ih hrest
    · exact Keyed.get?_eq_none_iff.mp hget

/-- A chain ends where it begins or at a value on the way. -/
theorem chainEnd?_mem {pairs : Keyed String String} {steps : Nat} {seen : List String}
    {place stop : String} (h : chainEnd? pairs steps seen place = some stop) :
    stop = place ∨ stop ∈ pairs.map Prod.snd := by
  induction steps generalizing seen place with
  | zero => simp [chainEnd?] at h
  | succ steps ih =>
    rcases chainEnd?_cases h with ⟨next, hget, hrest⟩ | ⟨_, rfl⟩
    · have hnext : next ∈ pairs.map Prod.snd := by
        obtain ⟨front, back, rfl, _⟩ := List.lookup_eq_some_iff.mp hget
        simp
      rcases ih hrest with rfl | hmem
      · exact .inr hnext
      · exact .inr hmem
    · exact .inl rfl

/-- Where an entry of a flattened map comes from. -/
theorem mem_flatten {pairs : Keyed String String} {entry : String × String}
    (h : entry ∈ flatten pairs) :
    ∃ value, (entry.1, value) ∈ pairs ∧
      chainEnd? pairs (pairs.length + 1) [entry.1] value = some entry.2 := by
  obtain ⟨⟨key, value⟩, hmem, hend⟩ := List.mem_filterMap.mp h
  obtain ⟨stop, hstop, rfl⟩ := Option.map_eq_some_iff.mp hend
  exact ⟨value, hmem, hstop⟩

theorem keys_flatten_sublist (pairs : Keyed String String) :
    ((flatten pairs).map Prod.fst).Sublist (pairs.map Prod.fst) := by
  refine Keyed.keys_filterMap_sublist (fun entry entry' h => ?_) pairs
  obtain ⟨stop, _, rfl⟩ := Option.map_eq_some_iff.mp h
  rfl

theorem isFlat_flatten (pairs : Keyed String String) : (flatten pairs).IsFlat := by
  intro entry hentry hkey
  obtain ⟨value, _, hend⟩ := mem_flatten hentry
  exact chainEnd?_not_key hend ((keys_flatten_sublist pairs).subset hkey)

/-- What is flat already is flattened unchanged. -/
theorem flatten_of_isFlat {m : AliasMap} (h : m.IsFlat) : flatten m = m := by
  have hkept : m.filterMap (fun entry =>
      (chainEnd? m (m.length + 1) [entry.1] entry.2).map (entry.1, ·)) = m.map id := by
    refine List.filterMap_eq_map_iff_forall_eq_some.mpr fun entry hentry => ?_
    have hvalue := h entry hentry
    have hne : entry.2 ≠ entry.1 := fun heq => hvalue (heq ▸ List.mem_map_of_mem hentry)
    have hnext : Keyed.get? m entry.2 = none := Keyed.get?_eq_none_iff.mpr hvalue
    simp [chainEnd?, hne, hnext]
  exact hkept.trans (List.map_id m)

/-! ### Merging -/

/-- The spellings that a merge takes. -/
def merged (raws : List String) : List String := firstOccurrences (raws.filter (!·.isEmpty))

/-- What an accepted merge gives: the identity that it shows is not blank and
    there are spellings to merge, and the new map is laid over the old one. -/
theorem merge_cases {m m' : AliasMap} {raws : List String} {display : String}
    (h : m.merge raws display = .ok m') :
    trimmed display ≠ "" ∧ m' = Keyed.putAll
      ((m.erase (trimmed display)).map fun entry =>
        (entry.1, if (merged raws).contains entry.2 then trimmed display else entry.2))
      (((merged raws).filter (· ≠ trimmed display)).map (·, trimmed display)) := by
  rw [merge] at h
  split at h
  · simp at h
  · next hdisplay =>
    split at h
    · simp at h
    · exact ⟨fun hempty => hdisplay (by simp [hempty]), (Except.ok.inj h).symm⟩

/-- Every entry of a merged map is one that was there, sent on if its identity is
    among the spellings, or one of the spellings. -/
theorem mem_merge {m m' : AliasMap} {raws : List String} {display : String}
    (h : m.merge raws display = .ok m') {entry : String × String} (hentry : entry ∈ m') :
    entry.1 ≠ trimmed display ∧
      ((∃ value, (entry.1, value) ∈ m ∧
          (entry.2 = trimmed display ∨ entry.2 = value ∧ value ∉ merged raws)) ∨
        entry.1 ∈ merged raws ∧ entry.2 = trimmed display) := by
  obtain ⟨_, rfl⟩ := merge_cases h
  rcases Keyed.mem_putAll hentry with hkept | hput
  · obtain ⟨⟨key, value⟩, hmem, rfl⟩ := List.mem_map.mp hkept
    obtain ⟨hmem, hkey⟩ := List.mem_filter.mp hmem
    refine ⟨by simpa using hkey, .inl ⟨value, hmem, ?_⟩⟩
    by_cases hvalue : value ∈ merged raws
    · exact .inl (by simp [hvalue])
    · exact .inr (by simp [hvalue])
  · obtain ⟨raw, hraw, rfl⟩ := List.mem_map.mp hput
    obtain ⟨hraw, hne⟩ := List.mem_filter.mp hraw
    exact ⟨by simpa using hne, .inr ⟨hraw, rfl⟩⟩

theorem isFlat_merge {m m' : AliasMap} {raws : List String} {display : String} (hm : m.IsFlat)
    (h : m.merge raws display = .ok m') : m'.IsFlat := by
  intro entry hentry hkey
  obtain ⟨other, hother, hsame⟩ := List.mem_map.mp hkey
  obtain ⟨hdisplay, horigin⟩ := mem_merge h hother
  rw [hsame] at hdisplay horigin
  -- the identity of an entry is a key: it is not the one that the merge shows
  obtain ⟨_, ⟨value, hvalue, hshown | ⟨rfl, hstay⟩⟩ | ⟨_, hshown⟩⟩ := mem_merge h hentry
  · exact hdisplay hshown
  · rcases horigin with ⟨value', hold, _⟩ | ⟨hraw, _⟩
    · exact hm _ hvalue (List.mem_map_of_mem hold)
    · exact hstay hraw
  · exact hdisplay hshown

/-! ### Whatever is done to a map -/

/-- What can be done to an alias map. -/
inductive Change where
  | merge (raws : List String) (display : String)
  | update (pairs : Keyed String String)
  | replace (pairs : Keyed String String)
deriving Repr

/-- The map after a change; a merge that is refused leaves it as it was. -/
def apply (m : AliasMap) : Change → AliasMap
  | .merge raws display => (m.merge raws display).toOption.getD m
  | .update pairs => m.update pairs
  | .replace pairs => replace pairs

theorem isFlat_apply {m : AliasMap} (hm : m.IsFlat) (change : Change) : (m.apply change).IsFlat := by
  cases change with
  | merge raws display =>
    cases h : m.merge raws display with
    | error fault => simpa [apply, h, Except.toOption] using hm
    | ok m' => simpa [apply, h, Except.toOption] using isFlat_merge hm h
  | update pairs => exact isFlat_flatten _
  | replace pairs => exact isFlat_flatten _

/-- The map that begins with some pairs, after changes one after another. -/
def run (start : Keyed String String) (changes : List Change) : AliasMap :=
  changes.foldl apply (flatten start)

theorem isFlat_foldl_apply {m : AliasMap} (hm : m.IsFlat) (changes : List Change) :
    (changes.foldl apply m).IsFlat := by
  induction changes generalizing m with
  | nil => exact hm
  | cons change changes ih => exact ih (isFlat_apply hm change)

/-- **A map is flat at all times.**  Whatever pairs it begins with, and whatever
    is done to it then, an identity that spellings are sent to is no spelling.
    So looking up once is enough, and flattening has nothing left to do. -/
theorem run_flat (start : Keyed String String) (changes : List Change) :
    (∀ entry ∈ run start changes, entry.2 ∉ (run start changes).map Prod.fst) ∧
      flatten (run start changes) = run start changes := by
  have hflat : (run start changes).IsFlat := isFlat_foldl_apply (isFlat_flatten start) changes
  exact ⟨hflat, flatten_of_isFlat hflat⟩

/-- The new identity was a spelling, one of the spellings is shown as itself, and
    others were shown as one of them. -/
example :
    run [("a", "b"), ("b", "c"), ("x", "y"), ("y", "x")]
        [.merge ["c", "x"] " a ", .merge [] "z", .update [("x", "b"), ("", "q")]] =
      [("b", "a"), ("c", "a"), ("x", "a")] := by decide +kernel

/-! ### Maps without empty sides -/

/-- A map that never had an empty side. -/
structure Tidy (m : AliasMap) : Prop where
  flat : m.IsFlat
  distinct : (m.map Prod.fst).Nodup
  given : ∀ entry ∈ m, entry.1 ≠ "" ∧ entry.2 ≠ ""

theorem mem_significant {pairs : Keyed String String} {entry : String × String} :
    entry ∈ significant pairs ↔ entry ∈ pairs ∧ entry.1 ≠ "" ∧ entry.2 ≠ "" := by
  simp [significant]

theorem tidy_nil : Tidy [] where
  flat := by intro entry h; exact absurd h List.not_mem_nil
  distinct := List.nodup_nil
  given := by intro entry h; exact absurd h List.not_mem_nil

theorem shown_ne_flatten {pairs : Keyed String String} (h : ∀ entry ∈ pairs, entry.2 ≠ "") :
    ∀ entry ∈ flatten pairs, entry.2 ≠ "" := by
  intro entry hentry
  obtain ⟨value, hmem, hend⟩ := mem_flatten hentry
  rcases chainEnd?_mem hend with heq | hvalue
  · rw [heq]
    exact h _ hmem
  · obtain ⟨other, hother, heq⟩ := List.mem_map.mp hvalue
    rw [← heq]
    exact h other hother

theorem tidy_flatten {pairs : Keyed String String} (hdistinct : (pairs.map Prod.fst).Nodup)
    (hgiven : ∀ entry ∈ pairs, entry.1 ≠ "" ∧ entry.2 ≠ "") : Tidy (flatten pairs) where
  flat := isFlat_flatten pairs
  distinct := hdistinct.sublist (keys_flatten_sublist pairs)
  given := by
    intro entry hentry
    obtain ⟨value, hmem, _⟩ := mem_flatten hentry
    have hshown := shown_ne_flatten (fun entry hentry => (hgiven entry hentry).2) entry hentry
    exact ⟨(hgiven _ hmem).1, hshown⟩

theorem tidy_update {m : AliasMap} (hm : m.Tidy) (pairs : Keyed String String) :
    (m.update pairs).Tidy := by
  refine tidy_flatten (Keyed.nodup_keys_putAll hm.distinct _) fun entry hentry => ?_
  rcases Keyed.mem_putAll hentry with hold | hnew
  · exact hm.given entry hold
  · exact (mem_significant.mp hnew).2

theorem nodup_keys_merge {m m' : AliasMap} {raws : List String} {display : String}
    (hm : (m.map Prod.fst).Nodup) (h : m.merge raws display = .ok m') :
    (m'.map Prod.fst).Nodup := by
  obtain ⟨_, rfl⟩ := merge_cases h
  refine Keyed.nodup_keys_putAll ?_ _
  rw [List.map_map]
  exact hm.sublist (List.filter_sublist.map Prod.fst)

theorem tidy_merge {m m' : AliasMap} {raws : List String} {display : String} (hm : m.Tidy)
    (h : m.merge raws display = .ok m') : m'.Tidy where
  flat := isFlat_merge hm.flat h
  distinct := nodup_keys_merge hm.distinct h
  given := by
    intro entry hentry
    have hdisplay := (merge_cases h).1
    have hmerged : ∀ raw ∈ merged raws, raw ≠ "" := by
      intro raw hraw
      have hraw := (List.mem_filter.mp (mem_firstOccurrences.mp hraw)).2
      simpa using hraw
    obtain ⟨_, ⟨value, hold, hvalue⟩ | ⟨hraw, hshown⟩⟩ := mem_merge h hentry
    · refine ⟨(hm.given _ hold).1, ?_⟩
      rcases hvalue with hshown | ⟨hshown, _⟩
      · rw [hshown]
        exact hdisplay
      · rw [hshown]
        exact (hm.given _ hold).2
    · exact ⟨hmerged _ hraw, by rw [hshown]; exact hdisplay⟩

/-- A map without empty sides is laid over an empty one unchanged. -/
theorem update_nil_of_tidy {m : AliasMap} (h : m.Tidy) : update [] m = m := by
  have hsignificant : significant m = m :=
    List.filter_eq_self.mpr fun entry hentry => by simpa using h.given entry hentry
  have hput : Keyed.putAll [] m = m := Keyed.ofPairs_of_nodup h.distinct
  rw [update, hsignificant, hput, flatten_of_isFlat h.flat]

/-! ### Every map there can be -/

/-- The maps that come of some mapping by merges and by mappings that are laid over
    them or put in their place.  A mapping has one value for each key. -/
inductive Reachable : AliasMap → Prop where
  | start (mapping : List (String × String)) : Reachable (flatten (.ofPairs mapping))
  | merge {m m' : AliasMap} (hm : Reachable m) {raws : List String} {display : String}
      (h : m.merge raws display = .ok m') : Reachable m'
  | update {m : AliasMap} (hm : Reachable m) (mapping : List (String × String)) :
      Reachable (m.update (.ofPairs mapping))
  | replace (mapping : List (String × String)) : Reachable (replace (.ofPairs mapping))

theorem Reachable.isFlat {m : AliasMap} (h : Reachable m) : m.IsFlat := by
  induction h with
  | start mapping => exact isFlat_flatten _
  | merge _ h ih => exact isFlat_merge ih h
  | update _ mapping _ => exact isFlat_flatten _
  | replace mapping => exact isFlat_flatten _

theorem Reachable.nodup_keys {m : AliasMap} (h : Reachable m) : (m.map Prod.fst).Nodup := by
  induction h with
  | start mapping => exact (Keyed.nodup_keys_ofPairs mapping).sublist (keys_flatten_sublist _)
  | merge _ h ih => exact nodup_keys_merge ih h
  | update _ mapping ih => exact (Keyed.nodup_keys_putAll ih _).sublist (keys_flatten_sublist _)
  | replace mapping =>
    have hkeys : ((significant (.ofPairs mapping)).map Prod.fst).Nodup :=
      (Keyed.nodup_keys_ofPairs mapping).sublist (List.filter_sublist.map Prod.fst)
    exact hkeys.sublist (keys_flatten_sublist _)

end Transcripts.Identity.AliasMap
