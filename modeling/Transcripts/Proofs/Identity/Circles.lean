/-
  Transcripts/Proofs/Identity/Circles.lean
  ========================================
  **When incoming pairs win over a map.**

  Pairs that are laid over a map replace its entries under the same spelling.  That
  is not enough for them to win: chains of pairs and old entries are flattened, and
  what runs in a circle is dropped, incoming pairs and all.

  Suppose that no incoming identity is itself an incoming spelling.  Then pairs and
  old entries take turns on a chain.  A pair leads to its identity, the map may show
  that one as a name which is an incoming spelling again, and so on.  A pair is lost
  exactly if this comes to some name twice, and then its two sides stand for
  themselves.  Otherwise both are shown as the end of the chain.
-/
import Mathlib.Logic.Relation
import Mathlib.Order.Preorder.Finite
import Transcripts.Proofs.Identity.Chains
import Transcripts.Proofs.Identity.Merging

namespace Transcripts.Identity.AliasMap

variable {m pairs : Keyed String String} {n : Nat} {name name' value stop : String}

/-- The map shows the identity of the pair under `name` as `name'`. -/
def SentOn (m pairs : Keyed String String) (name name' : String) : Prop :=
  ∃ value, pairs.get? name = some value ∧ m.get? value = some name'

/-- From a name, pairs and entries of the map in turn come to some name twice. -/
def Circular (m pairs : Keyed String String) (name : String) : Prop :=
  ∃ back, Relation.ReflTransGen (SentOn m pairs) name back ∧
    Relation.TransGen (SentOn m pairs) back back

theorem not_circular_of_new (hpair : pairs.get? name = some value)
    (hnew : m.get? value = none) : ¬ Circular m pairs name := by
  have hstuck : ∀ next, ¬ SentOn m pairs name next := by
    rintro next ⟨value', hvalue', hnext⟩
    rw [hpair] at hvalue'
    cases hvalue'
    rw [hnew] at hnext
    cases hnext
  rintro ⟨back, hreach, hloop⟩
  rcases Relation.ReflTransGen.cases_head hreach with rfl | ⟨next, hnext, _⟩
  · obtain ⟨next, hnext, _⟩ := Relation.TransGen.head'_iff.mp hloop
    exact hstuck next hnext
  · exact hstuck next hnext

/-! ### A chain that ends meets no circle -/

section Overlay

variable (hdistinct : (pairs.map Prod.fst).Nodup) (hflat : IsFlat pairs)

include hdistinct

theorem get?_overlay (m : Keyed String String) (name : String) :
    (Keyed.putAll m pairs).get? name = (pairs.get? name).or (m.get? name) := by
  rw [Keyed.get?_putAll, Keyed.ofPairs_of_nodup hdistinct]

theorem get?_overlay_pair (hpair : pairs.get? name = some value) :
    (Keyed.putAll m pairs).get? name = some value := by
  rw [get?_overlay hdistinct, hpair]
  rfl

include hflat

theorem get?_overlay_value (hpair : pairs.get? name = some value) :
    (Keyed.putAll m pairs).get? value = m.get? value := by
  have hvalue : pairs.get? value = none :=
    Keyed.get?_eq_none_iff.mpr (hflat _ (Keyed.mem_of_get? hpair))
  rw [get?_overlay hdistinct, hvalue]
  rfl

/-- Two steps along a chain lead from an incoming spelling to the next. -/
theorem leads_of_sentOn (h : SentOn m pairs name name')
    (hleads : Leads (Keyed.putAll m pairs) n name stop) :
    ∃ n', n' < n ∧ Leads (Keyed.putAll m pairs) n' name' stop := by
  obtain ⟨value, hpair, hold⟩ := h
  have hvalue : (Keyed.putAll m pairs).get? value = some name' := by
    rw [get?_overlay_value hdistinct hflat hpair, hold]
  obtain ⟨k, rfl, hrest⟩ := hleads.after (get?_overlay_pair hdistinct hpair)
  obtain ⟨l, rfl, hlast⟩ := hrest.after hvalue
  exact ⟨l, by omega, hlast⟩

theorem leads_of_reaches (h : Relation.ReflTransGen (SentOn m pairs) name name')
    (hleads : Leads (Keyed.putAll m pairs) n name stop) :
    ∃ n', Leads (Keyed.putAll m pairs) n' name' stop := by
  induction h with
  | refl => exact ⟨n, hleads⟩
  | tail _ hlast ih =>
    obtain ⟨n', hn'⟩ := ih
    obtain ⟨n'', _, hn''⟩ := leads_of_sentOn hdistinct hflat hlast hn'
    exact ⟨n'', hn''⟩

theorem leads_of_loops (h : Relation.TransGen (SentOn m pairs) name name')
    (hleads : Leads (Keyed.putAll m pairs) n name stop) :
    ∃ n', n' < n ∧ Leads (Keyed.putAll m pairs) n' name' stop := by
  induction h with
  | single hlast => exact leads_of_sentOn hdistinct hflat hlast hleads
  | tail _ hlast ih =>
    obtain ⟨n', hlt, hn'⟩ := ih
    obtain ⟨n'', hlt', hn''⟩ := leads_of_sentOn hdistinct hflat hlast hn'
    exact ⟨n'', by omega, hn''⟩

theorem not_circular_of_ends (h : Ends (Keyed.putAll m pairs) name) : ¬ Circular m pairs name := by
  rintro ⟨back, hreach, hloop⟩
  obtain ⟨n, stop, hleads⟩ := h
  obtain ⟨n', hback⟩ := leads_of_reaches hdistinct hflat hreach hleads
  -- once round the circle the same chain would be shorter
  obtain ⟨n'', hlt, hagain⟩ := leads_of_loops hdistinct hflat hloop hback
  exact absurd (hback.unique hagain).1 (by omega)

/-! ### A chain that does not end comes to a circle -/

theorem sentOn_of_not_ends (hm : IsFlat m) (hname : name ∈ pairs.map Prod.fst)
    (h : ¬ Ends (Keyed.putAll m pairs) name) :
    ∃ name', SentOn m pairs name name' ∧ name' ∈ pairs.map Prod.fst ∧
      ¬ Ends (Keyed.putAll m pairs) name' := by
  obtain ⟨value, hpair⟩ := Keyed.mem_keys_iff.mp hname
  have hvalue : ¬ Ends (Keyed.putAll m pairs) value := by
    rwa [← ends_iff_of_get? (get?_overlay_pair hdistinct hpair)]
  have hold : (Keyed.putAll m pairs).get? value = m.get? value :=
    get?_overlay_value hdistinct hflat hpair
  cases hsent : m.get? value with
  | none =>
    rw [hsent] at hold
    exact absurd ⟨0, value, .stop hold⟩ hvalue
  | some name' =>
    rw [hsent] at hold
    have hagain : ¬ Ends (Keyed.putAll m pairs) name' := by rwa [← ends_iff_of_get? hold]
    refine ⟨name', ⟨value, hpair, hsent⟩, ?_, hagain⟩
    -- the map is flat, so only a pair can lead on from where it sends
    by_contra hend
    have hkey : name' ∉ m.map Prod.fst := hm _ (Keyed.mem_of_get? hsent)
    apply hagain
    refine ⟨0, name', .stop ?_⟩
    rw [get?_overlay hdistinct, Keyed.get?_eq_none_iff.mpr hend, Keyed.get?_eq_none_iff.mpr hkey]
    rfl

theorem circular_of_not_ends (hm : IsFlat m) (hname : name ∈ pairs.map Prod.fst)
    (h : ¬ Ends (Keyed.putAll m pairs) name) : Circular m pairs name := by
  have hstep : ∀ k, k ∈ pairs.map Prod.fst ∧ ¬ Ends (Keyed.putAll m pairs) k →
      ∃ k', SentOn m pairs k k' ∧ k' ∈ pairs.map Prod.fst ∧ ¬ Ends (Keyed.putAll m pairs) k' := by
    rintro k ⟨hkey, hk⟩
    exact sentOn_of_not_ends hdistinct hflat hm hkey hk
  choose! next hnext using hstep
  have hpath : ∀ i, next^[i] name ∈ pairs.map Prod.fst ∧
      ¬ Ends (Keyed.putAll m pairs) (next^[i] name) := by
    intro i
    induction i with
    | zero => exact ⟨hname, h⟩
    | succ i ih =>
      rw [Function.iterate_succ_apply']
      exact (hnext _ ih).2
  have hsent : ∀ i, SentOn m pairs (next^[i] name) (next^[i + 1] name) := by
    intro i
    rw [Function.iterate_succ_apply']
    exact (hnext _ (hpath i)).1
  -- a path through the incoming spellings has to come to one of them again
  have hfinite := List.finite_toSet (pairs.map Prod.fst)
  obtain ⟨i, j, hlt, hsame⟩ := hfinite.exists_lt_map_eq_of_forall_mem
    (f := fun i => next^[i] name) fun i => (hpath i).1
  refine ⟨next^[i] name, ?_, ?_⟩
  · exact Nat.rel_of_forall_rel_succ_of_le (Relation.ReflTransGen (SentOn m pairs))
      (f := fun i => next^[i] name) (fun i => .single (hsent i)) (Nat.zero_le i)
  · have hloop := Nat.rel_of_forall_rel_succ_of_lt (Relation.TransGen (SentOn m pairs))
      (f := fun i => next^[i] name) (fun i => .single (hsent i)) hlt
    rwa [← hsame] at hloop

end Overlay

/-! ### What the pairs come to -/

theorem resolve_flatten (hdistinct : (pairs.map Prod.fst).Nodup) (hname : name ≠ "") :
    (flatten pairs).resolve (some name) = some ((endOf? pairs name).getD name) := by
  rw [resolve_of_ne hname, get?_flatten hdistinct]

theorem resolve_update (hm : (m.map Prod.fst).Nodup)
    (hgiven : ∀ pair ∈ pairs, pair.1 ≠ "" ∧ pair.2 ≠ "") (hname : name ≠ "") :
    (update m pairs).resolve (some name) =
      some ((endOf? (Keyed.putAll m pairs) name).getD name) := by
  have hsignificant : significant pairs = pairs :=
    List.filter_eq_self.mpr fun pair hpair => by simpa using hgiven pair hpair
  rw [update, hsignificant, resolve_flatten (Keyed.nodup_keys_putAll hm pairs) hname]

theorem endOf?_getD_of_leads (h : Leads pairs n name stop) :
    (endOf? pairs name).getD name = stop := by
  cases h with
  | stop hnone => rw [endOf?, hnone]; rfl
  | step hnext rest => rw [endOf?_eq_some_iff.mpr ⟨_, .step hnext rest⟩]; rfl

theorem endOf?_of_not_ends (h : ¬ Ends pairs name) : endOf? pairs name = none := by
  rw [← Option.not_isSome_iff_eq_none, endOf?_isSome_iff]
  rintro ⟨_, hends⟩
  exact h hends

/-- **Incoming pairs win, unless they are caught in a circle.**  A pair's two sides are
    shown as one identity exactly if pairs and entries of the map do not run in a
    circle from its spelling on.  If they do, each side stands for itself. -/
theorem resolve_update_pair {m : AliasMap} (hm : Reachable m) {pairs : Keyed String String}
    (hdistinct : (pairs.map Prod.fst).Nodup)
    (hgiven : ∀ pair ∈ pairs, pair.1 ≠ "" ∧ pair.2 ≠ "") (hflat : IsFlat pairs) :
    ∀ pair ∈ pairs,
      ((m.update pairs).resolve (some pair.1) = (m.update pairs).resolve (some pair.2) ↔
        ¬ Circular m pairs pair.1) ∧
      (Circular m pairs pair.1 →
        (m.update pairs).resolve (some pair.1) = some pair.1 ∧
          (m.update pairs).resolve (some pair.2) = some pair.2) := by
  rintro ⟨name, value⟩ hpair
  obtain ⟨hname, hvalue⟩ := hgiven _ hpair
  have hkey : name ∈ pairs.map Prod.fst := List.mem_map_of_mem hpair
  have hnext : (Keyed.putAll m pairs).get? name = some value :=
    get?_overlay_pair hdistinct (Keyed.get?_of_mem hdistinct hpair)
  rw [resolve_update hm.nodup_keys hgiven hname, resolve_update hm.nodup_keys hgiven hvalue]
  by_cases hends : Ends (Keyed.putAll m pairs) name
  · have hcircle : ¬ Circular m pairs name := not_circular_of_ends hdistinct hflat hends
    refine ⟨iff_of_true ?_ hcircle, fun h => absurd h hcircle⟩
    obtain ⟨n, stop, hleads⟩ := hends
    obtain ⟨k, rfl, hrest⟩ := hleads.after hnext
    rw [endOf?_getD_of_leads hleads, endOf?_getD_of_leads hrest]
  · have hcircle : Circular m pairs name :=
      circular_of_not_ends hdistinct hflat hm.isFlat hkey hends
    have hvalue : ¬ Ends (Keyed.putAll m pairs) value := by rwa [← ends_iff_of_get? hnext]
    rw [endOf?_of_not_ends hends, endOf?_of_not_ends hvalue]
    refine ⟨iff_of_false ?_ (not_not.mpr hcircle), fun _ => ⟨rfl, rfl⟩⟩
    intro hsame
    -- no incoming identity is an incoming spelling, so the two sides differ
    cases hsame
    exact hflat _ hpair hkey

/-- Two nicknames. -/
def nicknames : AliasMap := flatten (.ofPairs [("Rui M.", "Rui"), ("Zé", "José")])

/-- One pair goes on from an entry, the other turns an entry round. -/
def incomingNames : Keyed String String := [("José", "J. Silva"), ("Rui", "Rui M.")]

theorem resolve_update_pair_nicknames :
    Reachable nicknames ∧ (incomingNames.map Prod.fst).Nodup ∧
      (∀ pair ∈ incomingNames, pair.1 ≠ "" ∧ pair.2 ≠ "") ∧ IsFlat incomingNames ∧
      (nicknames.update incomingNames).resolve (some "José") =
        (nicknames.update incomingNames).resolve (some "J. Silva") ∧
      (nicknames.update incomingNames).resolve (some "Rui") = some "Rui" := by
  have hreachable : Reachable nicknames := .start _
  have hdistinct : (incomingNames.map Prod.fst).Nodup := by decide
  have hgiven : ∀ pair ∈ incomingNames, pair.1 ≠ "" ∧ pair.2 ≠ "" := by decide
  have hflat : IsFlat incomingNames := by decide
  have hpairs := resolve_update_pair hreachable hdistinct hgiven hflat
  refine ⟨hreachable, hdistinct, hgiven, hflat, ?_, ?_⟩
  · apply (hpairs ("José", "J. Silva") (by decide)).1.mpr
    have hpair : incomingNames.get? "José" = some "J. Silva" := by decide
    exact not_circular_of_new hpair (by decide +kernel)
  · have hback : SentOn nicknames incomingNames "Rui" "Rui" :=
      ⟨"Rui M.", by decide, by decide +kernel⟩
    exact ((hpairs ("Rui", "Rui M.") (by decide)).2 ⟨"Rui", .refl, .single hback⟩).1

/-- An incoming pair that turns an entry round is lost with it. -/
theorem turned_pair_is_lost :
    Reachable nicknames ∧ IsFlat [("Rui", "Rui M.")] ∧
      (nicknames.update [("Rui", "Rui M.")]).resolve (some "Rui") = some "Rui" ∧
      (nicknames.update [("Rui", "Rui M.")]).resolve (some "Rui M.") = some "Rui M." :=
  ⟨.start _, by decide, by decide +kernel, by decide +kernel⟩

end Transcripts.Identity.AliasMap
