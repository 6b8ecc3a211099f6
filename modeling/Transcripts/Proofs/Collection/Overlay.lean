/-
  Transcripts/Proofs/Collection/Overlay.lean
  ==========================================
  **Keyed lists laid over one another.**

  Pairs are put into a keyed list one after another.  What comes of it can be said
  at once: the entries that were there stay at their places, with the last value
  that is put under their key, and the new keys follow in the order in which they
  first come.  So to put the same pairs again changes nothing.
-/
import Mathlib.Data.List.Induction
import Mathlib.Data.List.Nodup
import Transcripts.Proofs.Collection.NormalForm

namespace Transcripts.Keyed

variable {κ ν : Type}

theorem keys_filterMap (f : κ → Option ν) (ks : List κ) :
    (ks.filterMap fun k => (f k).map (k, ·)).map Prod.fst = ks.filter fun k => (f k).isSome := by
  rw [List.map_filterMap, ← List.filterMap_eq_filter]
  refine List.filterMap_congr fun k _ => ?_
  cases hk : f k <;> simp [Option.guard, hk]

variable [BEq κ]

theorem putAll_concat (m : Keyed κ ν) (ps : List (κ × ν)) (p : κ × ν) :
    putAll m (ps ++ [p]) = (putAll m ps).put p.1 p.2 := by
  rw [putAll, List.foldl_append]
  rfl

variable [LawfulBEq κ]

/-! ### What lies under a key -/

theorem mem_keys_iff {m : Keyed κ ν} {k : κ} : k ∈ m.map Prod.fst ↔ ∃ v, m.get? k = some v := by
  rw [← Option.ne_none_iff_exists', ne_eq, get?_eq_none_iff, not_not]

theorem mem_of_get? {m : Keyed κ ν} {k : κ} {v : ν} (h : m.get? k = some v) : (k, v) ∈ m := by
  obtain ⟨front, back, rfl, _⟩ := List.lookup_eq_some_iff.mp h
  simp

theorem get?_of_mem {m : Keyed κ ν} (hdistinct : (m.map Prod.fst).Nodup) {entry : κ × ν}
    (h : entry ∈ m) : m.get? entry.1 = some entry.2 := by
  obtain ⟨v, hv⟩ := mem_keys_iff.mp (List.mem_map_of_mem (f := Prod.fst) h)
  have hsame : (entry.1, v) = entry := List.inj_on_of_nodup_map hdistinct (mem_of_get? hv) h rfl
  rw [hv, ← hsame]

theorem get?_cons (m : Keyed κ ν) (k k' : κ) (v : ν) :
    get? ((k, v) :: m) k' = if k' == k then some v else m.get? k' := by
  rw [get?, List.lookup_cons]
  split <;> simp_all [get?]

theorem get?_map (change : κ → ν → ν) (m : Keyed κ ν) (k : κ) :
    get? (m.map fun entry => (entry.1, change entry.1 entry.2)) k = (m.get? k).map (change k) := by
  induction m with
  | nil => rfl
  | cons entry m ih =>
    obtain ⟨k', v⟩ := entry
    rw [List.map_cons, get?_cons, get?_cons, ih]
    by_cases hk : k == k'
    · simp [eq_of_beq hk]
    · simp [hk]

theorem get?_put (m : Keyed κ ν) (k k' : κ) (v : ν) :
    (m.put k v).get? k' = if k' == k then some v else m.get? k' := by
  by_cases hk : m.has k
  · have hput : m.put k v = m.map fun entry => (entry.1, if entry.1 == k then v else entry.2) := by
      rw [put, if_pos hk]
      refine List.map_congr_left fun entry _ => ?_
      by_cases hentry : entry.1 == k <;> simp [hentry]
    rw [hput, get?_map fun k' v' => if k' == k then v else v']
    by_cases hk' : k' == k
    · obtain ⟨v', hv'⟩ := mem_keys_iff.mp (has_iff_mem_keys.mp hk)
      simp [eq_of_beq hk', hv']
    · simp [hk']
  · have hnone : m.get? k = none := get?_eq_none_iff.mpr fun hmem => hk (has_iff_mem_keys.mpr hmem)
    rw [put, if_neg hk, get?, List.lookup_append]
    change (m.get? k').or (get? [(k, v)] k') = _
    rw [get?_cons]
    by_cases hk' : k' == k
    · simp [eq_of_beq hk', hnone]
    · simp [hk', get?]

theorem get?_erase (m : Keyed κ ν) (k k' : κ) :
    (m.erase k).get? k' = if k' == k then none else m.get? k' := by
  induction m with
  | nil => simp [erase, get?]
  | cons entry m ih =>
    obtain ⟨key, v⟩ := entry
    have ih : get? (m.filter fun entry => !(entry.1 == k)) k' = if k' == k then none else get? m k' := ih
    rw [erase, List.filter_cons]
    by_cases hkey : key == k
    · rw [if_neg (by simp [hkey]), ih, get?_cons, eq_of_beq hkey]
      split
      · rfl
      · rfl
    · rw [if_pos (by simp [hkey]), get?_cons, get?_cons, ih]
      by_cases hk' : k' == key
      · have hne : ¬ (k' == k) = true := by
          rw [eq_of_beq hk']
          exact hkey
        rw [if_pos hk', if_neg hne, if_pos hk']
      · rw [if_neg hk', if_neg hk']

theorem get?_filter {m : Keyed κ ν} (hdistinct : (m.map Prod.fst).Nodup) (kept : κ × ν → Bool) (k : κ) :
    get? (m.filter kept) k = (m.get? k).filter fun v => kept (k, v) := by
  ext v
  rw [Option.filter_eq_some_iff]
  constructor
  · intro h
    obtain ⟨hmem, hkept⟩ := List.mem_filter.mp (mem_of_get? h)
    exact ⟨get?_of_mem hdistinct hmem, hkept⟩
  · rintro ⟨hv, hkept⟩
    have hmem : (k, v) ∈ m.filter kept := List.mem_filter.mpr ⟨mem_of_get? hv, hkept⟩
    exact get?_of_mem (hdistinct.sublist (List.filter_sublist.map Prod.fst)) hmem

/-- Under a key lies what was put last, or else what was there. -/
theorem get?_putAll (m : Keyed κ ν) (ps : List (κ × ν)) (k : κ) :
    (putAll m ps).get? k = ((ofPairs ps).get? k).or (m.get? k) := by
  induction ps using List.reverseRecOn with
  | nil => rfl
  | append_singleton ps p ih =>
    rw [ofPairs, putAll_concat, putAll_concat, get?_put, get?_put, ih, ofPairs]
    split <;> rfl

theorem get?_ofPairs_same (ks : List κ) (v : ν) (k : κ) :
    (ofPairs (ks.map (·, v))).get? k = if k ∈ ks then some v else none := by
  have hkeys : k ∈ (ofPairs (ks.map (·, v))).map Prod.fst ↔ k ∈ ks := by
    rw [ofPairs, mem_keys_putAll, List.map_map]
    simp
  split
  · next hk =>
    obtain ⟨v', hv'⟩ := mem_keys_iff.mp (hkeys.mpr hk)
    have hsame : v' = v := values_ofPairs (P := (· = v)) (by simp) _ (mem_of_get? hv')
    rw [hv', hsame]
  · next hk =>
    apply get?_eq_none_iff.mpr
    intro hkey
    exact hk (hkeys.mp hkey)

/-! ### Which entries there are -/

/-- Keys that were there stay at their places, new ones follow. -/
theorem keys_putAll (m : Keyed κ ν) (ps : List (κ × ν)) :
    (putAll m ps).map Prod.fst =
      m.map Prod.fst ++ ((ofPairs ps).map Prod.fst).filter fun k => !m.has k := by
  induction ps using List.reverseRecOn with
  | nil => simp [putAll, ofPairs]
  | append_singleton ps p ih =>
    have hpairs : ofPairs (ps ++ [p]) = (ofPairs ps).put p.1 p.2 := putAll_concat [] ps p
    have hmem : p.1 ∈ (putAll m ps).map Prod.fst ↔
        p.1 ∈ m.map Prod.fst ∨ p.1 ∈ (ofPairs ps).map Prod.fst := by
      rw [ih, List.mem_append, List.mem_filter, Bool.not_eq_true', ← Bool.not_eq_true, has_iff_mem_keys]
      tauto
    rw [putAll_concat, hpairs]
    by_cases hp : p.1 ∈ (ofPairs ps).map Prod.fst
    · rw [keys_put_of_mem hp, keys_put_of_mem (hmem.mpr (.inr hp)), ih]
    · rw [put_of_not_mem hp, List.map_append, List.filter_append, ← List.append_assoc, ← ih]
      by_cases hm : p.1 ∈ m.map Prod.fst
      · rw [keys_put_of_mem (hmem.mpr (.inl hm))]
        simp [has_iff_mem_keys.mpr hm]
      · have hnew : p.1 ∉ (putAll m ps).map Prod.fst := fun h => (hmem.mp h).elim hm hp
        have hhas : m.has p.1 = false := by
          rw [← Bool.not_eq_true, has_iff_mem_keys]
          exact hm
        rw [put_of_not_mem hnew]
        simp [hhas]

theorem filterMap_eq_keys {β : Type} {m : Keyed κ ν} (hdistinct : (m.map Prod.fst).Nodup)
    (f : κ × ν → Option β) :
    m.filterMap f = (m.map Prod.fst).filterMap fun k => (m.get? k).bind fun v => f (k, v) := by
  rw [List.filterMap_map]
  refine List.filterMap_congr fun entry hentry => ?_
  simp [get?_of_mem hdistinct hentry]

theorem ext_of_keys {m m' : Keyed κ ν} (hdistinct : (m.map Prod.fst).Nodup)
    (hkeys : m.map Prod.fst = m'.map Prod.fst) (hvalues : ∀ k, m.get? k = m'.get? k) : m = m' := by
  calc
    m = m.filterMap some := by simp
    _ = m'.filterMap some := by
      rw [filterMap_eq_keys hdistinct, filterMap_eq_keys (hkeys ▸ hdistinct), hkeys]
      simp only [hvalues]
    _ = m' := by simp

/-- To put the same pairs again changes nothing. -/
theorem putAll_putAll {m : Keyed κ ν} (hdistinct : (m.map Prod.fst).Nodup) (ps : List (κ × ν)) :
    putAll (putAll m ps) ps = putAll m ps := by
  apply ext_of_keys (nodup_keys_putAll (nodup_keys_putAll hdistinct ps) ps)
  · rw [keys_putAll (putAll m ps), List.append_right_eq_self, List.filter_eq_nil_iff]
    intro k hk
    obtain ⟨v, hv⟩ := mem_keys_iff.mp hk
    have hput : (putAll m ps).get? k = some v := by rw [get?_putAll, hv]; rfl
    simp [has_iff_mem_keys.mpr (mem_keys_iff.mpr ⟨v, hput⟩)]
  · intro k
    rw [get?_putAll (putAll m ps), get?_putAll m]
    cases (ofPairs ps).get? k <;> rfl

end Transcripts.Keyed
