/-
  Transcripts/Proofs/Identity/Chains.lean
  =======================================
  **Where chains of spellings end.**

  A spelling is sent to an identity, which may be a spelling again.  Whether such a
  chain ends does not depend on who follows it: from each spelling it takes one
  way, and either leaves the spellings after some number of steps or runs on in a
  circle.  Flattening follows it with the spellings it has seen and a bound on its
  steps, and both are only precautions.  A chain that ends comes to no spelling
  twice, so it is over before the bound, and flattening finds its end.
-/
import Mathlib.Data.List.Perm.Subperm
import Transcripts.Proofs.Collection.Overlay
import Transcripts.Proofs.Identity.Flatness

namespace Transcripts.Identity.AliasMap

/-- The chain from a name leaves the spellings after some number of steps, at `stop`. -/
inductive Leads (pairs : Keyed String String) : Nat → String → String → Prop where
  | stop {name : String} (h : pairs.get? name = none) : Leads pairs 0 name name
  | step {n : Nat} {name next stop : String} (h : pairs.get? name = some next)
      (rest : Leads pairs n next stop) : Leads pairs (n + 1) name stop

def Ends (pairs : Keyed String String) (name : String) : Prop := ∃ n stop, Leads pairs n name stop

variable {pairs : Keyed String String} {n n' : Nat} {name next stop stop' : String}

theorem Leads.get?_stop (h : Leads pairs n name stop) : pairs.get? stop = none := by
  induction h with
  | stop h => exact h
  | step _ _ ih => exact ih

theorem Leads.after (h : Leads pairs n name stop) (hnext : pairs.get? name = some next) :
    ∃ k, n = k + 1 ∧ Leads pairs k next stop := by
  cases h with
  | stop hnone =>
    rw [hnext] at hnone
    cases hnone
  | step hsome rest =>
    rw [hnext] at hsome
    cases hsome
    exact ⟨_, rfl, rest⟩

/-- A chain takes one way. -/
theorem Leads.unique (h : Leads pairs n name stop) (h' : Leads pairs n' name stop') :
    n = n' ∧ stop = stop' := by
  induction h generalizing n' with
  | stop hnone =>
    cases h' with
    | stop _ => exact ⟨rfl, rfl⟩
    | step hsome _ => rw [hnone] at hsome; cases hsome
  | step hsome _ ih =>
    obtain ⟨k, rfl, hrest⟩ := h'.after hsome
    obtain ⟨rfl, rfl⟩ := ih hrest
    exact ⟨rfl, rfl⟩

theorem Leads.mem_keys (h : Leads pairs (n + 1) name stop) : name ∈ pairs.map Prod.fst := by
  cases h with
  | step hnext _ => exact Keyed.mem_keys_iff.mpr ⟨_, hnext⟩

/-- A chain does not come back to where it begins if it ends. -/
theorem Leads.ne_stop (h : Leads pairs (n + 1) name stop) : name ≠ stop := by
  rintro rfl
  exact Keyed.get?_eq_none_iff.mp h.get?_stop h.mem_keys

theorem ends_iff_of_get? (hnext : pairs.get? name = some next) :
    Ends pairs name ↔ Ends pairs next := by
  constructor
  · rintro ⟨n, stop, hleads⟩
    obtain ⟨k, _, hrest⟩ := hleads.after hnext
    exact ⟨k, stop, hrest⟩
  · rintro ⟨n, stop, hleads⟩
    exact ⟨n + 1, stop, .step hnext hleads⟩

/-! ### Following a chain -/

theorem leads_of_chainEnd? {steps : Nat} {seen : List String}
    (h : chainEnd? pairs steps seen name = some stop) : ∃ n, Leads pairs n name stop := by
  induction steps generalizing seen name with
  | zero => simp [chainEnd?] at h
  | succ steps ih =>
    rcases chainEnd?_cases h with ⟨next, hget, hrest⟩ | ⟨hget, rfl⟩
    · obtain ⟨n, hn⟩ := ih hrest
      exact ⟨n + 1, .step hget hn⟩
    · exact ⟨0, .stop hget⟩

/-- A chain that ends is followed to its end.  What was seen are spellings further
    from the end, so the chain does not come back to one of them, and there are
    no more of them than spellings. -/
theorem chainEnd?_of_leads {steps : Nat} {seen : List String} (h : Leads pairs n name stop)
    (hseen : ∀ s ∈ seen, ∃ k, n < k ∧ Leads pairs k s stop) (hdistinct : seen.Nodup)
    (hsteps : pairs.length < steps + seen.length) : chainEnd? pairs steps seen name = some stop := by
  induction steps generalizing n name seen with
  | zero =>
    exfalso
    have hkeys : seen ⊆ pairs.map Prod.fst := by
      intro s hs
      obtain ⟨k, hk, hleads⟩ := hseen s hs
      obtain ⟨k, rfl⟩ := Nat.exists_eq_add_of_lt hk
      exact hleads.mem_keys
    have hlength := (hdistinct.subperm hkeys).length_le
    rw [List.length_map] at hlength
    omega
  | succ steps ih =>
    have hnew : name ∉ seen := by
      intro hs
      obtain ⟨k, hk, hleads⟩ := hseen name hs
      exact absurd (h.unique hleads).1 (by omega)
    rw [chainEnd?, if_neg (by simpa using hnew)]
    cases h with
    | stop hnone => rw [hnone]
    | step hsome rest =>
      rw [hsome]
      apply ih rest
      · intro s hs
        rcases List.mem_cons.mp hs with rfl | hs
        · exact ⟨_, Nat.lt_succ_self _, .step hsome rest⟩
        · obtain ⟨k, hk, hleads⟩ := hseen s hs
          exact ⟨k, by omega, hleads⟩
      · exact List.nodup_cons.mpr ⟨hnew, hdistinct⟩
      · rw [List.length_cons]
        omega

/-! ### Flattening -/

/-- The identity that a spelling is flattened to, if its chain ends. -/
def endOf? (pairs : Keyed String String) (name : String) : Option String :=
  (pairs.get? name).bind (chainEnd? pairs (pairs.length + 1) [name])

theorem endOf?_eq_some_iff : endOf? pairs name = some stop ↔ ∃ n, Leads pairs (n + 1) name stop := by
  rw [endOf?, Option.bind_eq_some_iff]
  constructor
  · rintro ⟨next, hnext, hend⟩
    obtain ⟨n, hn⟩ := leads_of_chainEnd? hend
    exact ⟨n, .step hnext hn⟩
  · rintro ⟨n, h⟩
    cases h with
    | step hnext rest =>
      refine ⟨_, hnext, chainEnd?_of_leads rest ?_ (List.nodup_singleton name) ?_⟩
      · intro s hs
        obtain rfl := List.mem_singleton.mp hs
        exact ⟨n + 1, Nat.lt_succ_self n, .step hnext rest⟩
      · rw [List.length_singleton]
        omega

theorem endOf?_isSome_iff :
    (endOf? pairs name).isSome ↔ name ∈ pairs.map Prod.fst ∧ Ends pairs name := by
  rw [Option.isSome_iff_exists]
  simp only [endOf?_eq_some_iff]
  constructor
  · rintro ⟨stop, n, h⟩
    exact ⟨h.mem_keys, n + 1, stop, h⟩
  · rintro ⟨hkey, n, stop, h⟩
    cases h with
    | stop hnone => exact absurd hkey (Keyed.get?_eq_none_iff.mp hnone)
    | step hnext rest => exact ⟨stop, _, .step hnext rest⟩

/-- Each spelling whose chain ends is sent to its end, in the order of the spellings. -/
theorem flatten_eq (hdistinct : (pairs.map Prod.fst).Nodup) :
    flatten pairs = (pairs.map Prod.fst).filterMap fun name => (endOf? pairs name).map (name, ·) := by
  rw [flatten, Keyed.filterMap_eq_keys hdistinct]
  refine List.filterMap_congr fun name _ => ?_
  rw [endOf?]
  cases pairs.get? name <;> rfl

theorem keys_flatten (hdistinct : (pairs.map Prod.fst).Nodup) :
    (flatten pairs).map Prod.fst =
      (pairs.map Prod.fst).filter fun name => (endOf? pairs name).isSome := by
  rw [flatten_eq hdistinct, Keyed.keys_filterMap]

theorem get?_flatten (hdistinct : (pairs.map Prod.fst).Nodup) (name : String) :
    (flatten pairs).get? name = endOf? pairs name := by
  cases hend : endOf? pairs name with
  | none =>
    apply Keyed.get?_eq_none_iff.mpr
    rw [keys_flatten hdistinct]
    simp [hend]
  | some stop =>
    have hkey : name ∈ pairs.map Prod.fst := (endOf?_isSome_iff.mp (by rw [hend]; rfl)).1
    have hmem : (name, stop) ∈ flatten pairs := by
      rw [flatten_eq hdistinct, List.mem_filterMap]
      exact ⟨name, hkey, by rw [hend]; rfl⟩
    exact Keyed.get?_of_mem (hdistinct.sublist (keys_flatten_sublist pairs)) hmem

end Transcripts.Identity.AliasMap
