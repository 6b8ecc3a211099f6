/-
  Transcripts/Proofs/Identity/Overlaying.lean
  ===========================================
  **The same pairs laid over a map again.**

  Pairs win over those that the map has under the same spelling, but they do not
  always survive: where a pair and an entry of the map send two names to each
  other, their chain runs in a circle and flattening drops both.  The entry is
  then gone, so the same pair survives if it comes again.

  What was kept the first time is kept, at its place and with its identity.  What
  is added are the pairs that had been dropped and have no circle among themselves.
  After that nothing is left to add.
-/
import Transcripts.Proofs.Identity.Chains

namespace Transcripts.Identity.AliasMap

/-- Pairs laid over a map that they were laid over before, not yet flattened. -/
def relaid (m : AliasMap) (pairs : List (String × String)) : Keyed String String :=
  Keyed.putAll (flatten (Keyed.putAll m pairs)) pairs

section Again

variable {m : AliasMap} (hdistinct : (m.map Prod.fst).Nodup) (pairs : List (String × String))

include hdistinct

theorem nodup_keys_update : ((m.update pairs).map Prod.fst).Nodup :=
  (Keyed.nodup_keys_putAll hdistinct _).sublist (keys_flatten_sublist _)

/-! ### Chains the second time -/

/-- The second time, what is not put leads to where the first time ended. -/
theorem get?_relaid (name : String) :
    (relaid m pairs).get? name =
      ((Keyed.ofPairs pairs).get? name).or (endOf? (Keyed.putAll m pairs) name) := by
  rw [relaid, Keyed.get?_putAll, get?_flatten (Keyed.nodup_keys_putAll hdistinct pairs)]

theorem get?_relaid_of_none {name : String} (h : (Keyed.putAll m pairs).get? name = none) :
    (relaid m pairs).get? name = none := by
  have hend : endOf? (Keyed.putAll m pairs) name = none := by rw [endOf?, h]; rfl
  rw [Keyed.get?_putAll, Option.or_eq_none_iff] at h
  rw [get?_relaid hdistinct, h.1, hend]
  rfl

/-- A chain that ended the first time ends where it did. -/
theorem leads_relaid {n : Nat} {name stop : String} (h : Leads (Keyed.putAll m pairs) n name stop) :
    ∃ n', Leads (relaid m pairs) n' name stop := by
  -- along the chain: a name that is put goes on as before, any other is sent to the end at once
  induction h with
  | stop hnone => exact ⟨0, .stop (get?_relaid_of_none hdistinct pairs hnone)⟩
  | @step n name next stop hnext rest ih =>
    have hrelaid := get?_relaid hdistinct pairs name
    cases hput : (Keyed.ofPairs pairs).get? name with
    | some value =>
      rw [Keyed.get?_putAll, hput] at hnext
      cases hnext
      obtain ⟨n', hn'⟩ := ih
      rw [hput] at hrelaid
      exact ⟨n' + 1, .step hrelaid hn'⟩
    | none =>
      have hend : endOf? (Keyed.putAll m pairs) name = some stop :=
        endOf?_eq_some_iff.mpr ⟨n, .step hnext rest⟩
      rw [hput, hend] at hrelaid
      exact ⟨1, .step hrelaid (.stop (get?_relaid_of_none hdistinct pairs rest.get?_stop))⟩

/-- The second time a chain ends exactly if it does among the pairs alone. -/
theorem ends_relaid_iff {name : String} :
    Ends (relaid m pairs) name ↔ Ends (Keyed.ofPairs pairs) name := by
  constructor
  · rintro ⟨n, stop, h⟩
    induction h with
    | @stop name hnone =>
      rw [get?_relaid hdistinct, Option.or_eq_none_iff] at hnone
      exact ⟨0, name, .stop hnone.1⟩
    | @step n name next stop hnext rest ih =>
      cases hput : (Keyed.ofPairs pairs).get? name with
      | none => exact ⟨0, name, .stop hput⟩
      | some value =>
        rw [get?_relaid hdistinct, hput] at hnext
        cases hnext
        obtain ⟨n', stop', hrest⟩ := ih
        exact ⟨n' + 1, stop', .step hput hrest⟩
  · rintro ⟨n, stop, h⟩
    induction h with
    | @stop name hput =>
      have hrelaid := get?_relaid hdistinct pairs name
      rw [hput] at hrelaid
      cases hend : endOf? (Keyed.putAll m pairs) name with
      | none =>
        rw [hend] at hrelaid
        exact ⟨0, name, .stop hrelaid⟩
      | some stop =>
        obtain ⟨n, hleads⟩ := endOf?_eq_some_iff.mp hend
        rw [hend] at hrelaid
        exact ⟨1, stop, .step hrelaid (.stop (get?_relaid_of_none hdistinct pairs hleads.get?_stop))⟩
    | @step n name next stop hput rest ih =>
      have hrelaid := get?_relaid hdistinct pairs name
      rw [hput] at hrelaid
      obtain ⟨n', stop', hrest⟩ := ih
      exact ⟨n' + 1, stop', .step hrelaid hrest⟩

/-! ### The map the second time -/

theorem endOf?_relaid {name stop : String} (h : endOf? (Keyed.putAll m pairs) name = some stop) :
    endOf? (relaid m pairs) name = some stop := by
  obtain ⟨n, hleads⟩ := endOf?_eq_some_iff.mp h
  obtain ⟨n', hrelaid⟩ := leads_relaid hdistinct pairs hleads
  cases hrelaid with
  | stop _ => exact absurd rfl hleads.ne_stop
  | step hnext rest => exact endOf?_eq_some_iff.mpr ⟨_, .step hnext rest⟩

theorem isSome_endOf?_relaid {name : String} (hname : name ∈ (Keyed.ofPairs pairs).map Prod.fst) :
    (endOf? (relaid m pairs) name).isSome = (endOf? (Keyed.ofPairs pairs) name).isSome := by
  obtain ⟨value, hvalue⟩ := Keyed.mem_keys_iff.mp hname
  have hkey : name ∈ (relaid m pairs).map Prod.fst := by
    apply Keyed.mem_keys_iff.mpr
    rw [get?_relaid hdistinct, hvalue]
    exact ⟨value, rfl⟩
  rw [Bool.eq_iff_iff, endOf?_isSome_iff, endOf?_isSome_iff, ends_relaid_iff hdistinct]
  exact and_congr_left' (iff_of_true hkey hname)

/-- What was kept the first time is kept again, with the same identity. -/
theorem filterMap_update :
    (((m.update pairs).map Prod.fst).filterMap fun k =>
      (endOf? (relaid m (significant pairs)) k).map (k, ·)) = m.update pairs := by
  have hflat : ((m.update pairs).map Prod.fst).Nodup := nodup_keys_update hdistinct pairs
  calc
    _ = ((m.update pairs).map Prod.fst).filterMap fun k =>
        ((m.update pairs).get? k).bind fun v => some (k, v) := by
      refine List.filterMap_congr fun k hk => ?_
      obtain ⟨stop, hstop⟩ := Keyed.mem_keys_iff.mp hk
      have hend : endOf? (Keyed.putAll m (significant pairs)) k = some stop := by
        rwa [update, get?_flatten (Keyed.nodup_keys_putAll hdistinct _)] at hstop
      simp [hstop, endOf?_relaid hdistinct _ hend]
    _ = m.update pairs := by
      rw [← Keyed.filterMap_eq_keys hflat some, List.filterMap_some]

/-- The second time the entries stay as they are, and behind them come the pairs
    that the first time had dropped, but that are kept by themselves. -/
theorem update_update : ∃ late : AliasMap,
    (m.update pairs).update pairs = m.update pairs ++ late ∧
      late.map Prod.fst = ((update [] pairs).map Prod.fst).filter fun k => !(m.update pairs).has k := by
  let given := significant pairs
  let dropped := ((Keyed.ofPairs given).map Prod.fst).filter fun k => !(m.update pairs).has k
  refine ⟨dropped.filterMap fun k => (endOf? (relaid m given) k).map (k, ·), ?_, ?_⟩
  · have hkeys : (relaid m given).map Prod.fst = (m.update pairs).map Prod.fst ++ dropped :=
      Keyed.keys_putAll (m.update pairs) given
    have hrelaid : ((relaid m given).map Prod.fst).Nodup :=
      Keyed.nodup_keys_putAll (nodup_keys_update hdistinct pairs) given
    have hagain : (m.update pairs).update pairs = flatten (relaid m given) := rfl
    rw [hagain, flatten_eq hrelaid, hkeys, List.filterMap_append, filterMap_update hdistinct]
  · have halone : (update [] pairs).map Prod.fst =
        ((Keyed.ofPairs given).map Prod.fst).filter fun k => (endOf? (Keyed.ofPairs given) k).isSome :=
      keys_flatten (Keyed.nodup_keys_ofPairs given)
    rw [Keyed.keys_filterMap, halone, List.filter_filter, List.filter_filter]
    refine List.filter_congr fun k hk => ?_
    rw [isSome_endOf?_relaid hdistinct given hk, Bool.and_comm]

theorem update_update_eq_iff :
    (m.update pairs).update pairs = m.update pairs ↔
      ∀ k ∈ (update [] pairs).map Prod.fst, k ∈ (m.update pairs).map Prod.fst := by
  obtain ⟨late, heq, hkeys⟩ := update_update hdistinct pairs
  rw [heq, List.append_right_eq_self, ← List.map_eq_nil_iff, hkeys, List.filter_eq_nil_iff]
  simp only [Bool.not_eq_true', Bool.not_eq_false, Keyed.has_iff_mem_keys]

/-- The third time adds nothing. -/
theorem update_update_update :
    ((m.update pairs).update pairs).update pairs = (m.update pairs).update pairs := by
  apply (update_update_eq_iff (nodup_keys_update hdistinct pairs) pairs).mpr
  intro k hk
  obtain ⟨late, heq, hkeys⟩ := update_update hdistinct pairs
  rw [heq, List.map_append, List.mem_append, hkeys, List.mem_filter]
  by_cases hkept : k ∈ (m.update pairs).map Prod.fst
  · exact .inl hkept
  · right
    refine ⟨hk, ?_⟩
    rw [Bool.not_eq_true', ← Bool.not_eq_true, Keyed.has_iff_mem_keys]
    exact hkept

end Again

end Transcripts.Identity.AliasMap
