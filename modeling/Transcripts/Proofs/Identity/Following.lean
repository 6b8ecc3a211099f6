/-
  Transcripts/Proofs/Identity/Following.lean
  ==========================================
  **Following a chain of spellings comes to an end.**

  A chain is followed name by name, and the names that have been seen are kept.  It is
  followed on from a spelling that has not been seen, so what has been seen are spellings,
  each of them once, and there are no more rounds than spellings (`Walk.exists_finishes`).
  Where it stops, one look at what has been seen tells whether the chain has left the
  spellings or has come back to one of them.

  What comes of it can be said without the walk.  A spelling is sent to the name outside
  the spellings that its chain comes to, and it is dropped if its chain never leaves them.
-/
import Transcripts.Proofs.Identity.Chains

namespace Transcripts.Identity.AliasMap

variable {pairs : Keyed String String} {n : Nat} {name next stop : String}

/-! ### Walks -/

/-- How far a chain has been followed: the names that were seen, the latest first, and the
    name that it has come to. -/
structure Walk where
  seen : List String
  place : String
deriving DecidableEq, Repr

namespace Walk

/-- One more round, if the walk is at a spelling that has not been seen. -/
def next? (pairs : Keyed String String) (w : Walk) : Option Walk :=
  if w.seen.contains w.place then none
  else (pairs.get? w.place).map fun name => ⟨w.place :: w.seen, name⟩

/-- After some rounds a walk stops. -/
inductive Finishes (pairs : Keyed String String) : Nat → Walk → Walk → Prop where
  | stop {w : Walk} (h : w.next? pairs = none) : Finishes pairs 0 w w
  | round {n : Nat} {w w' w'' : Walk} (h : w.next? pairs = some w')
      (rest : Finishes pairs n w' w'') : Finishes pairs (n + 1) w w''

/-- The name that a walk has come to, unless it was there before. -/
def arrival? (w : Walk) : Option String := if w.seen.contains w.place then none else some w.place

/-- What has been seen are spellings, each of them once. -/
structure Within (pairs : Keyed String String) (w : Walk) : Prop where
  distinct : w.seen.Nodup
  spellings : w.seen ⊆ pairs.map Prod.fst

variable {w w' : Walk}

theorem next?_eq_some_iff : w.next? pairs = some w' ↔
    w.place ∉ w.seen ∧ pairs.get? w.place = some w'.place ∧ w'.seen = w.place :: w.seen := by
  obtain ⟨seen', place'⟩ := w'
  by_cases hseen : w.place ∈ w.seen
  · simp [next?, hseen]
  · simp [next?, hseen, eq_comm]

theorem within_start (name next : String) (hkey : name ∈ pairs.map Prod.fst) :
    Within pairs ⟨[name], next⟩ :=
  ⟨List.nodup_singleton name, by simpa using hkey⟩

theorem Within.length_le (h : Within pairs w) : w.seen.length ≤ pairs.length := by
  have hlength := (h.distinct.subperm h.spellings).length_le
  rwa [List.length_map] at hlength

theorem Within.next? (h : Within pairs w) (hnext : w.next? pairs = some w') : Within pairs w' := by
  obtain ⟨hnew, hget, hseen⟩ := next?_eq_some_iff.mp hnext
  have hkey : w.place ∈ pairs.map Prod.fst := Keyed.mem_keys_iff.mpr ⟨_, hget⟩
  constructor
  · rw [hseen]
    exact List.nodup_cons.mpr ⟨hnew, h.distinct⟩
  · rw [hseen]
    exact List.cons_subset.mpr ⟨hkey, h.spellings⟩

/-- A walk stops: every round sees one spelling more. -/
theorem exists_finishes (h : Within pairs w) :
    ∃ n, n + w.seen.length ≤ pairs.length ∧ ∃ w', Finishes pairs n w w' := by
  induction hleft : pairs.length - w.seen.length using Nat.strongRecOn generalizing w with
  | _ left ih =>
    cases hnext : w.next? pairs with
    | none => exact ⟨0, by rw [Nat.zero_add]; exact h.length_le, w, .stop hnext⟩
    | some w' =>
      have hmore := (h.next? hnext).length_le
      have hlength : w'.seen.length = w.seen.length + 1 := by
        rw [(next?_eq_some_iff.mp hnext).2.2, List.length_cons]
      obtain ⟨n, hn, w'', hfinishes⟩ := ih _ (by omega) (h.next? hnext) rfl
      exact ⟨n + 1, by omega, w'', .round hnext hfinishes⟩

theorem chainEnd?_of_finishes (h : Finishes pairs n w w') {steps : Nat} (hsteps : n < steps) :
    chainEnd? pairs steps w.seen w.place = w'.arrival? := by
  induction h generalizing steps with
  | @stop w hstop =>
    obtain ⟨steps, rfl⟩ := Nat.exists_eq_succ_of_ne_zero (Nat.ne_of_gt hsteps)
    rw [chainEnd?, arrival?]
    by_cases hseen : w.seen.contains w.place
    · rw [if_pos hseen, if_pos hseen]
    · rw [Walk.next?, if_neg hseen, Option.map_eq_none_iff] at hstop
      rw [if_neg hseen, if_neg hseen, hstop]
  | @round n w w' w'' hnext _ ih =>
    obtain ⟨steps, rfl⟩ := Nat.exists_eq_succ_of_ne_zero (Nat.ne_zero_of_lt hsteps)
    obtain ⟨hnew, hget, hseen⟩ := next?_eq_some_iff.mp hnext
    rw [chainEnd?, if_neg (by simpa using hnew), hget, ← ih (Nat.lt_of_succ_lt_succ hsteps), hseen]

end Walk

/-! ### Chains without the walk -/

/-- The name that a chain has come to after some steps, if it has so many. -/
def after? (pairs : Keyed String String) : Nat → String → Option String
  | 0, name => some name
  | n + 1, name => (pairs.get? name).bind (after? pairs n)

theorem after?_succ (hnext : pairs.get? name = some next) (n : Nat) :
    after? pairs (n + 1) name = after? pairs n next := by
  rw [after?, hnext, Option.bind_some]

theorem leads_iff : Leads pairs n name stop ↔
    after? pairs n name = some stop ∧ stop ∉ pairs.map Prod.fst := by
  rw [← Keyed.get?_eq_none_iff]
  constructor
  · intro h
    refine ⟨?_, h.get?_stop⟩
    induction h with
    | stop _ => rfl
    | step hnext _ ih => rw [after?_succ hnext, ih]
  · rintro ⟨hafter, hstop⟩
    induction n generalizing name with
    | zero =>
      cases hafter
      exact .stop hstop
    | succ n ih =>
      obtain ⟨next, hnext, hrest⟩ := Option.bind_eq_some_iff.mp hafter
      exact .step hnext (ih hrest)

/-- On a chain that ends, every step comes to a name from which the rest of the chain leads. -/
theorem Leads.exists_after? (h : Leads pairs n name stop) {i : Nat} (hi : i ≤ n) :
    ∃ name', after? pairs i name = some name' ∧ Leads pairs (n - i) name' stop := by
  induction i generalizing n name with
  | zero => exact ⟨name, rfl, h⟩
  | succ i ih =>
    cases h with
    | stop _ => exact absurd hi (Nat.not_succ_le_zero i)
    | step hnext rest =>
      obtain ⟨name', hname', hleads⟩ := ih rest (Nat.le_of_succ_le_succ hi)
      refine ⟨name', ?_, ?_⟩
      · rw [after?_succ hnext, hname']
      · rwa [Nat.add_sub_add_right]

/-- A chain that ends comes to no name twice. -/
theorem Leads.after?_ne (h : Leads pairs n name stop) {i j : Nat} (hlt : i < j) (hj : j ≤ n) :
    after? pairs i name ≠ after? pairs j name := by
  intro hsame
  obtain ⟨name', hname', hlead⟩ := h.exists_after? (Nat.le_of_lt (Nat.lt_of_lt_of_le hlt hj))
  obtain ⟨name'', hname'', hlead'⟩ := h.exists_after? hj
  rw [hname', hname''] at hsame
  cases hsame
  have hsteps := (hlead.unique hlead').1
  omega

theorem not_ends_iff : ¬ Ends pairs name ↔
    ∀ n, ∃ name' ∈ pairs.map Prod.fst, after? pairs n name = some name' := by
  constructor
  · intro h n
    induction n generalizing name with
    | zero =>
      refine ⟨name, ?_, rfl⟩
      by_contra hkey
      exact h ⟨0, name, .stop (Keyed.get?_eq_none_iff.mpr hkey)⟩
    | succ n ih =>
      cases hnext : pairs.get? name with
      | none => exact absurd ⟨0, name, .stop hnext⟩ h
      | some next =>
        rw [after?_succ hnext]
        exact ih (by rwa [← ends_iff_of_get? hnext])
  · rintro h ⟨n, stop, hleads⟩
    obtain ⟨hstop, hkey⟩ := leads_iff.mp hleads
    obtain ⟨name', hname', hafter⟩ := h n
    rw [hstop] at hafter
    cases hafter
    exact hkey hname'

/-! ### What is single-hop already -/

/-- A second lookup finds nothing else than the first. -/
def IsSingleHop (pairs : Keyed String String) : Prop :=
  ∀ entry ∈ pairs, (pairs.get? entry.2).getD entry.2 = entry.2

theorem isFlat_iff : IsFlat pairs ↔ IsSingleHop pairs ∧ ∀ entry ∈ pairs, entry.1 ≠ entry.2 := by
  constructor
  · intro h
    constructor
    · intro entry hentry
      rw [Keyed.get?_eq_none_iff.mpr (h entry hentry)]
      rfl
    · intro entry hentry hself
      exact h entry hentry (hself ▸ List.mem_map_of_mem hentry)
  · rintro ⟨hhop, hself⟩ entry hentry hkey
    obtain ⟨value, hvalue⟩ := Keyed.mem_keys_iff.mp hkey
    have hsame := hhop entry hentry
    rw [hvalue, Option.getD_some] at hsame
    exact hself _ (Keyed.mem_of_get? hvalue) hsame.symm

/-! ### Flattening -/

/-- **Every chain is followed to its end, and flattening gives what is found there.**
    For each spelling the walk along its chain stops, in fewer rounds than there are
    spellings, and the spelling is sent to what the walk arrives at.  That is the name
    that its chain comes to outside the spellings, no name before it repeating; a chain
    that never leaves the spellings leaves no entry.  So the spellings that are kept stay
    in their order, and exactly the mappings that are single-hop, without a name that is
    sent to itself, are left as they are. -/
theorem flatten_follows (pairs : Keyed String String) (hdistinct : (pairs.map Prod.fst).Nodup) :
    (∀ pair ∈ pairs, ∃ n < pairs.length, ∃ w, Walk.Finishes pairs n ⟨[pair.1], pair.2⟩ w ∧
      (flatten pairs).get? pair.1 = w.arrival?) ∧
    (∀ name stop, (flatten pairs).get? name = some stop ↔
      ∃ n, after? pairs (n + 1) name = some stop ∧ stop ∉ pairs.map Prod.fst ∧
        ∀ i j, i < j → j ≤ n → after? pairs i name ≠ after? pairs j name) ∧
    (∀ name ∈ pairs.map Prod.fst, (flatten pairs).get? name = none ↔
      ∀ n, ∃ name' ∈ pairs.map Prod.fst, after? pairs n name = some name') ∧
    ((flatten pairs).map Prod.fst).Sublist (pairs.map Prod.fst) ∧
    (flatten pairs = pairs ↔ IsSingleHop pairs ∧ ∀ pair ∈ pairs, pair.1 ≠ pair.2) := by
  refine ⟨?_, ?_, ?_, keys_flatten_sublist pairs, ?_⟩
  · rintro ⟨name, next⟩ hpair
    obtain ⟨n, hn, w, hfinishes⟩ :=
      Walk.exists_finishes (Walk.within_start name next (List.mem_map_of_mem hpair))
    rw [List.length_singleton] at hn
    refine ⟨n, hn, w, hfinishes, ?_⟩
    have hend := Walk.chainEnd?_of_finishes hfinishes (Nat.lt_succ_of_lt hn)
    rw [get?_flatten hdistinct, endOf?, Keyed.get?_of_mem hdistinct hpair, Option.bind_some, hend]
  · intro name stop
    rw [get?_flatten hdistinct, endOf?_eq_some_iff]
    constructor
    · rintro ⟨n, hleads⟩
      obtain ⟨hafter, hkey⟩ := leads_iff.mp hleads
      exact ⟨n, hafter, hkey, fun i j hlt hj => hleads.after?_ne hlt (Nat.le_succ_of_le hj)⟩
    · rintro ⟨n, hafter, hkey, -⟩
      exact ⟨n, leads_iff.mpr ⟨hafter, hkey⟩⟩
  · intro name hkey
    rw [get?_flatten hdistinct, ← not_ends_iff, ← Option.not_isSome_iff_eq_none, endOf?_isSome_iff]
    exact not_congr (and_iff_right hkey)
  · rw [← isFlat_iff]
    constructor
    · intro hsame
      exact hsame ▸ isFlat_flatten pairs
    · exact flatten_of_isFlat

/-- Two chains with a shared end, one that runs into a circle, and a name given as itself. -/
def tangledNames : Keyed String String :=
  [("912", "Rui M."), ("Z.", "Zé"), ("Rui M.", "Rui"), ("Zé", "José"), ("913", "Rui M."),
    ("José", "Zé"), ("Ana", "Ana")]

theorem flatten_follows_tangledNames :
    (tangledNames.map Prod.fst).Nodup ∧ (flatten tangledNames).get? "912" = some "Rui" ∧
      (flatten tangledNames).get? "Z." = none ∧ flatten tangledNames ≠ tangledNames := by
  have hdistinct : (tangledNames.map Prod.fst).Nodup := by decide
  obtain ⟨-, hsent, hdropped, -, hkept⟩ := flatten_follows tangledNames hdistinct
  refine ⟨hdistinct, ?_, ?_, ?_⟩
  · refine (hsent "912" "Rui").mpr ⟨1, by decide, by decide, ?_⟩
    intro i j hlt hj
    obtain ⟨rfl, rfl⟩ : i = 0 ∧ j = 1 := by omega
    decide
  · have hcircle : ∀ n, (∃ name ∈ tangledNames.map Prod.fst, after? tangledNames n "Zé" = some name) ∧
        ∃ name ∈ tangledNames.map Prod.fst, after? tangledNames n "José" = some name := by
      intro n
      induction n with
      | zero => exact ⟨⟨"Zé", by decide, rfl⟩, ⟨"José", by decide, rfl⟩⟩
      | succ n ih => exact ih.symm
    refine (hdropped "Z." (by decide)).mpr fun n => ?_
    cases n with
    | zero => exact ⟨"Z.", by decide, rfl⟩
    | succ n => exact (hcircle n).1
  · intro hsame
    exact (hkept.mp hsame).2 ("Ana", "Ana") (by decide) rfl

end Transcripts.Identity.AliasMap
