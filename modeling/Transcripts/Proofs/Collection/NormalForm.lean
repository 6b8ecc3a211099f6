/-
  Transcripts/Proofs/Collection/NormalForm.lean
  =============================================
  **Keyed lists and sets of texts in normal form.**

  A keyed list has distinct keys, a set of texts is ascending.  Whatever is
  collected comes out in this form, and what is in it already is collected
  unchanged: nothing is replaced, nothing moves.
-/
import Mathlib.Data.List.Nodup
import Transcripts.Collection.Basic

namespace Transcripts

/-- Keys stay distinct when something with a new key is put behind the others. -/
theorem nodup_map_concat {α β : Type} {key : α → β} {xs : List α} {x : α} (h : (xs.map key).Nodup)
    (hnew : key x ∉ xs.map key) : ((xs ++ [x]).map key).Nodup := by
  rw [List.map_append, List.map_singleton, ← List.concat_eq_append]
  exact h.concat hnew

/-! ### Keyed lists -/

namespace Keyed

variable {κ ν : Type}

/-- Entries that keep their keys keep the order of the keys. -/
theorem keys_filterMap_sublist {f : κ × ν → Option (κ × ν)}
    (hf : ∀ entry entry', f entry = some entry' → entry'.1 = entry.1) (m : Keyed κ ν) :
    ((m.filterMap f).map Prod.fst).Sublist (m.map Prod.fst) := by
  induction m with
  | nil => exact List.Sublist.refl _
  | cons entry m ih =>
    cases hentry : f entry with
    | none =>
      rw [List.filterMap_cons_none hentry]
      exact ih.cons entry.1
    | some entry' =>
      rw [List.filterMap_cons_some hentry, List.map_cons, hf entry entry' hentry]
      exact ih.cons_cons entry.1

variable [BEq κ] [LawfulBEq κ]

theorem mem_put {m : Keyed κ ν} {k : κ} {v : ν} {p : κ × ν} (h : p ∈ m.put k v) :
    p = (k, v) ∨ p ∈ m := by
  rw [put] at h
  split at h
  · obtain ⟨⟨k', v'⟩, hmem, rfl⟩ := List.mem_map.mp h
    simp only
    split
    · next hk => exact .inl (by rw [eq_of_beq hk])
    · exact .inr hmem
  · rcases List.mem_append.mp h with h | h
    · exact .inr h
    · exact .inl (List.mem_singleton.mp h)

/-- Nothing is collected but what was put. -/
theorem mem_putAll {m : Keyed κ ν} {ps : List (κ × ν)} {p : κ × ν} (h : p ∈ putAll m ps) :
    p ∈ m ∨ p ∈ ps := by
  induction ps generalizing m with
  | nil => exact .inl h
  | cons q ps ih =>
    rcases ih h with hput | hps
    · rcases mem_put hput with rfl | hm
      · exact .inr List.mem_cons_self
      · exact .inl hm
    · exact .inr (List.mem_cons_of_mem _ hps)

/-- The values that are collected are among those of the pairs. -/
theorem values_ofPairs {P : ν → Prop} {ps : List (κ × ν)} (h : ∀ p ∈ ps, P p.2) :
    ∀ p ∈ ofPairs ps, P p.2 := by
  intro p hp
  rcases mem_putAll (m := []) hp with hnil | hps
  · exact absurd hnil List.not_mem_nil
  · exact h p hps

theorem has_iff_mem_keys {m : Keyed κ ν} {k : κ} : m.has k = true ↔ k ∈ m.map Prod.fst := by
  simp [has, List.any_eq_true]

theorem get?_eq_none_iff {m : Keyed κ ν} {k : κ} : m.get? k = none ↔ k ∉ m.map Prod.fst := by
  rw [get?, List.lookup_eq_none_iff]
  constructor
  · intro h hmem
    obtain ⟨entry, hentry, rfl⟩ := List.mem_map.mp hmem
    simpa using h entry hentry
  · intro h entry hentry
    have hne : k ≠ entry.1 := fun heq => h (heq ▸ List.mem_map_of_mem hentry)
    simpa using hne

/-- A new key goes last. -/
theorem put_of_not_mem {m : Keyed κ ν} {k : κ} (h : k ∉ m.map Prod.fst) (v : ν) :
    m.put k v = m ++ [(k, v)] := by
  rw [put, if_neg (fun hhas => h (has_iff_mem_keys.mp hhas))]

theorem keys_put_of_mem {m : Keyed κ ν} {k : κ} (h : k ∈ m.map Prod.fst) (v : ν) :
    (m.put k v).map Prod.fst = m.map Prod.fst := by
  rw [put, if_pos (has_iff_mem_keys.mpr h), List.map_map]
  refine List.map_congr_left fun p _ => ?_
  simp only [Function.comp_apply]
  split <;> rfl

theorem mem_keys_put {m : Keyed κ ν} {k k' : κ} {v : ν} :
    k' ∈ (m.put k v).map Prod.fst ↔ k' = k ∨ k' ∈ m.map Prod.fst := by
  by_cases hk : k ∈ m.map Prod.fst
  · rw [keys_put_of_mem hk]
    constructor
    · exact .inr
    · rintro (rfl | hmem)
      · exact hk
      · exact hmem
  · rw [put_of_not_mem hk, List.map_append, List.mem_append, List.map_singleton, List.mem_singleton,
      or_comm]

theorem mem_keys_putAll {m : Keyed κ ν} {ps : List (κ × ν)} {k : κ} :
    k ∈ (putAll m ps).map Prod.fst ↔ k ∈ m.map Prod.fst ∨ k ∈ ps.map Prod.fst := by
  induction ps generalizing m with
  | nil => simp [putAll]
  | cons p ps ih =>
    have hstep : putAll m (p :: ps) = putAll (m.put p.1 p.2) ps := rfl
    rw [hstep, ih, mem_keys_put, List.map_cons, List.mem_cons, or_comm (a := k = p.1), or_assoc]

theorem mem_keys_erase {m : Keyed κ ν} {k k' : κ} :
    k' ∈ (m.erase k).map Prod.fst ↔ k' ∈ m.map Prod.fst ∧ k' ≠ k := by
  rw [erase, List.mem_map, List.mem_map]
  constructor
  · rintro ⟨entry, hentry, rfl⟩
    obtain ⟨hmem, hne⟩ := List.mem_filter.mp hentry
    exact ⟨⟨entry, hmem, rfl⟩, by simpa using hne⟩
  · rintro ⟨⟨entry, hmem, rfl⟩, hne⟩
    exact ⟨entry, List.mem_filter.mpr ⟨hmem, by simpa using hne⟩, rfl⟩

theorem nodup_keys_put {m : Keyed κ ν} (h : (m.map Prod.fst).Nodup) (k : κ) (v : ν) :
    ((m.put k v).map Prod.fst).Nodup := by
  by_cases hk : k ∈ m.map Prod.fst
  · rwa [keys_put_of_mem hk]
  · rw [put_of_not_mem hk]
    exact nodup_map_concat h hk

/-- Pairs with new and distinct keys are put one behind the other. -/
theorem putAll_of_nodup {m : Keyed κ ν} {ps : List (κ × ν)} (h : ((m ++ ps).map Prod.fst).Nodup) :
    putAll m ps = m ++ ps := by
  induction ps generalizing m with
  | nil => rw [List.append_nil]; rfl
  | cons p ps ih =>
    obtain ⟨k, v⟩ := p
    have hk : k ∉ m.map Prod.fst := by
      rw [List.map_append, List.map_cons, List.nodup_append] at h
      exact fun hmem => h.2.2 k hmem k List.mem_cons_self rfl
    have hstep : putAll m ((k, v) :: ps) = putAll (m.put k v) ps := rfl
    rw [hstep, put_of_not_mem hk]
    have hnext : ((m ++ [(k, v)] ++ ps).map Prod.fst).Nodup := by
      rwa [List.append_assoc, List.singleton_append]
    rw [ih hnext, List.append_assoc, List.singleton_append]

theorem ofPairs_of_nodup {ps : List (κ × ν)} (h : (ps.map Prod.fst).Nodup) : ofPairs ps = ps :=
  putAll_of_nodup (m := []) h

theorem nodup_keys_putAll {m : Keyed κ ν} (h : (m.map Prod.fst).Nodup) (ps : List (κ × ν)) :
    ((putAll m ps).map Prod.fst).Nodup := by
  induction ps generalizing m with
  | nil => exact h
  | cons p ps ih => exact ih (nodup_keys_put h p.1 p.2)

/-- Whatever pairs are collected, their keys become distinct. -/
theorem nodup_keys_ofPairs (ps : List (κ × ν)) : ((ofPairs ps).map Prod.fst).Nodup :=
  nodup_keys_putAll (m := []) List.nodup_nil ps

end Keyed

/-! ### Sets of texts -/

namespace TextSet

variable {τ : Type} [LT τ] [DecidableLT τ]

/-- Whether a list of texts is a set: ascending, so without repetitions. -/
def IsAscending (s : TextSet τ) : Prop := s.Pairwise (· < ·)

instance (s : TextSet τ) : Decidable (IsAscending s) :=
  inferInstanceAs (Decidable (s.Pairwise (· < ·)))

variable [DecidableEq τ]

theorem mem_insert {x y : τ} {s : TextSet τ} : y ∈ insert x s ↔ y = x ∨ y ∈ s := by
  induction s with
  | nil => simp [insert]
  | cons z zs ih =>
    rw [insert]
    split
    · exact List.mem_cons
    · split
      · next heq =>
        rw [heq, List.mem_cons]
        exact ⟨.inr, fun h => h.elim .inl id⟩
      · rw [List.mem_cons, ih, List.mem_cons, or_left_comm]

section Asymmetric

variable [Std.Asymm ((· < ·) : τ → τ → Prop)]

theorem insert_of_forall_lt {x : τ} {s : TextSet τ} (h : ∀ y ∈ s, y < x) :
    insert x s = s ++ [x] := by
  induction s with
  | nil => rfl
  | cons y ys ih =>
    obtain ⟨hy, hys⟩ := List.forall_mem_cons.mp h
    have hnot : ¬ x < y := Std.Asymm.asymm _ _ hy
    have hne : x ≠ y := by
      rintro rfl
      exact hnot hy
    rw [insert, if_neg hnot, if_neg hne, ih hys, List.cons_append]

theorem foldl_insert_of_ascending {s : TextSet τ} {xs : List τ} (h : IsAscending (s ++ xs)) :
    xs.foldl (fun s x => insert x s) s = s ++ xs := by
  induction xs generalizing s with
  | nil => rw [List.append_nil]; rfl
  | cons x xs ih =>
    have hlt : ∀ y ∈ s, y < x := fun y hy =>
      (List.pairwise_append.mp h).2.2 y hy x List.mem_cons_self
    rw [List.foldl_cons, insert_of_forall_lt hlt]
    have hnext : IsAscending (s ++ [x] ++ xs) := by
      rwa [List.append_assoc, List.singleton_append]
    rw [ih hnext, List.append_assoc, List.singleton_append]

theorem ofList_of_ascending {s : TextSet τ} (h : IsAscending s) : ofList s = s :=
  foldl_insert_of_ascending (s := []) h

end Asymmetric

section Linear

variable [Std.Trichotomous ((· < ·) : τ → τ → Prop)]
  [Trans ((· < ·) : τ → τ → Prop) (· < ·) (· < ·)]

theorem insert_ascending {s : TextSet τ} (h : IsAscending s) (x : τ) :
    IsAscending (insert x s) := by
  induction s with
  | nil => exact List.pairwise_singleton ..
  | cons y ys ih =>
    obtain ⟨hy, hys⟩ := List.pairwise_cons.mp h
    rw [insert]
    split
    · next hlt =>
      refine List.pairwise_cons.mpr ⟨fun z hz => ?_, h⟩
      rcases List.mem_cons.mp hz with rfl | hz
      · exact hlt
      · exact Trans.trans hlt (hy z hz)
    · next hnot =>
      split
      · exact h
      · next hne =>
        -- what is neither smaller nor equal is greater
        have hgt : y < x :=
          Classical.byContradiction fun hle => hne (Std.Trichotomous.trichotomous _ _ hnot hle)
        refine List.pairwise_cons.mpr ⟨fun z hz => ?_, ih hys⟩
        rcases mem_insert.mp hz with rfl | hz
        · exact hgt
        · exact hy z hz

theorem foldl_insert_ascending {s : TextSet τ} (h : IsAscending s) (xs : List τ) :
    IsAscending (xs.foldl (fun s x => insert x s) s) := by
  induction xs generalizing s with
  | nil => exact h
  | cons x xs ih => exact ih (insert_ascending h x)

/-- Whatever texts are collected, they become a set. -/
theorem ofList_ascending (xs : List τ) : IsAscending (ofList xs) :=
  foldl_insert_ascending (s := []) List.Pairwise.nil xs

end Linear

theorem mem_union {x : String} {s : TextSet} {xs : List String} : x ∈ union s xs ↔ x ∈ s ∨ x ∈ xs := by
  induction xs generalizing s with
  | nil => simp [union]
  | cons y ys ih =>
    have hstep : union s (y :: ys) = union (insert y s) ys := rfl
    rw [hstep, ih, mem_insert, List.mem_cons, or_comm (a := x = y), or_assoc]

theorem mem_ofList {x : String} {xs : List String} : x ∈ ofList xs ↔ x ∈ xs := by
  have hunion : ofList xs = union [] xs := rfl
  rw [hunion, mem_union]
  simp

theorem mem_without {x : String} {s : TextSet} {xs : List String} :
    x ∈ without s xs ↔ x ∈ s ∧ x ∉ xs := by
  simp [without]

end TextSet

/-! ### First occurrences -/

theorem mem_firstOccurrences {x : String} {xs : List String} : x ∈ firstOccurrences xs ↔ x ∈ xs := by
  suffices h : ∀ seen : List String,
      x ∈ xs.foldl (fun seen x => if seen.contains x then seen else seen ++ [x]) seen ↔
        x ∈ seen ∨ x ∈ xs by
    rw [firstOccurrences, h]
    simp
  induction xs with
  | nil => simp
  | cons y ys ih =>
    intro seen
    rw [List.foldl_cons, ih, List.mem_cons]
    by_cases hy : y ∈ seen
    · rw [if_pos (by simpa using hy)]
      constructor
      · rintro (hseen | hys)
        · exact .inl hseen
        · exact .inr (.inr hys)
      · rintro (hseen | rfl | hys)
        · exact .inl hseen
        · exact .inl hy
        · exact .inr hys
    · rw [if_neg (by simpa using hy), List.mem_append, List.mem_singleton, or_assoc]

theorem nodup_firstOccurrences (xs : List String) : (firstOccurrences xs).Nodup := by
  suffices h : ∀ seen : List String, seen.Nodup →
      (xs.foldl (fun seen x => if seen.contains x then seen else seen ++ [x]) seen).Nodup from
    h [] List.nodup_nil
  induction xs with
  | nil => exact fun _ hseen => hseen
  | cons y ys ih =>
    intro seen hseen
    rw [List.foldl_cons]
    apply ih
    split
    · exact hseen
    · next hnew =>
      rw [← List.concat_eq_append]
      exact hseen.concat (mt List.contains_iff_mem.mpr hnew)

end Transcripts
