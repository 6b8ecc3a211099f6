/-
  Transcripts/Proofs/Identity/SelfPairs.lean
  ==========================================
  **Names that are given as themselves.**

  A pair of a name with itself says only that the name is shown as it is.  It is
  dropped when a mapping is flattened, and the name then stands for itself.  But
  before that it is followed like any other pair, and a chain that comes to it from
  another name runs in a circle.  So the other name is dropped with it and stands for
  itself too, although it was given an identity.

  Without such pairs a chain goes the same way and ends where it would have met the
  circle.  This is the only difference that they make.
-/
import Transcripts.Proofs.Identity.Circles

namespace Transcripts.Identity.AliasMap

/-- The pairs that give a name something else than itself. -/
def withoutSelfPairs (pairs : Keyed String String) : Keyed String String :=
  pairs.filter fun (name, value) => name ≠ value

section Chains

variable {pairs : Keyed String String} {n : Nat} {name next stop : String}

theorem not_ends_of_self (hself : pairs.get? stop = some stop) : ¬ Ends pairs stop := by
  rintro ⟨n, last, hleads⟩
  obtain ⟨k, rfl, hrest⟩ := hleads.after hself
  have hlength := (hrest.unique hleads).1
  omega

variable (hdistinct : (pairs.map Prod.fst).Nodup)

include hdistinct

theorem nodup_keys_withoutSelfPairs : ((withoutSelfPairs pairs).map Prod.fst).Nodup :=
  hdistinct.sublist (List.filter_sublist.map Prod.fst)

theorem get?_withoutSelfPairs_eq_some_iff :
    (withoutSelfPairs pairs).get? name = some next ↔ pairs.get? name = some next ∧ name ≠ next := by
  rw [withoutSelfPairs, Keyed.get?_filter hdistinct, Option.filter_eq_some_iff, decide_eq_true_iff]

theorem get?_of_withoutSelfPairs_eq_none (h : (withoutSelfPairs pairs).get? name = none) :
    pairs.get? name = none ∨ pairs.get? name = some name := by
  cases hget : pairs.get? name with
  | none => exact .inl rfl
  | some value =>
    right
    by_contra hother
    have hne : name ≠ value := by
      rintro rfl
      exact hother rfl
    have hkept := (get?_withoutSelfPairs_eq_some_iff hdistinct).mpr ⟨hget, hne⟩
    rw [h] at hkept
    cases hkept

/-- A chain that ends never comes to a pair of a name with itself. -/
theorem leads_withoutSelfPairs (h : Leads pairs n name stop) :
    Leads (withoutSelfPairs pairs) n name stop := by
  induction h with
  | @stop name hnone =>
    apply Leads.stop
    rw [withoutSelfPairs, Keyed.get?_filter hdistinct, hnone]
    rfl
  | @step n name next stop hnext rest ih =>
    have hne : name ≠ next := by
      rintro rfl
      exact not_ends_of_self hnext ⟨n, stop, rest⟩
    exact .step ((get?_withoutSelfPairs_eq_some_iff hdistinct).mpr ⟨hnext, hne⟩) ih

theorem leads_of_withoutSelfPairs (h : Leads (withoutSelfPairs pairs) n name stop)
    (hstop : pairs.get? stop = none) : Leads pairs n name stop := by
  induction h with
  | stop _ => exact .stop hstop
  | step hnext _ ih =>
    exact .step ((get?_withoutSelfPairs_eq_some_iff hdistinct).mp hnext).1 (ih hstop)

theorem ends_iff_of_leads_withoutSelfPairs (h : Leads (withoutSelfPairs pairs) n name stop) :
    Ends pairs name ↔ Ends pairs stop := by
  induction h with
  | stop _ => exact Iff.rfl
  | step hnext _ ih =>
    have hpair := ((get?_withoutSelfPairs_eq_some_iff hdistinct).mp hnext).1
    exact (ends_iff_of_get? hpair).trans ih

end Chains

/-! ### Who is shown otherwise -/

/-- From a name, pairs lead to another one that is given as itself. -/
def ComesToSelf (pairs : Keyed String String) (name : String) : Prop :=
  ∃ n stop, Leads (withoutSelfPairs pairs) (n + 1) name stop ∧ pairs.get? stop = some stop

section Resolving

variable {pairs : Keyed String String} {n : Nat} {name stop : String}
variable (hdistinct : (pairs.map Prod.fst).Nodup) (hname : name ≠ "")

include hdistinct hname

/-- With the pairs of names with themselves such a name is left alone, without them it
    is shown as the one that it comes to. -/
theorem resolve_of_comesToSelf (hleads : Leads (withoutSelfPairs pairs) (n + 1) name stop)
    (hself : pairs.get? stop = some stop) :
    (flatten pairs).resolve (some name) = some name ∧
      (flatten (withoutSelfPairs pairs)).resolve (some name) = some stop := by
  have hends : ¬ Ends pairs name := by
    rw [ends_iff_of_leads_withoutSelfPairs hdistinct hleads]
    exact not_ends_of_self hself
  rw [resolve_flatten hdistinct hname, endOf?_of_not_ends hends,
    resolve_flatten (nodup_keys_withoutSelfPairs hdistinct) hname, endOf?_getD_of_leads hleads]
  exact ⟨rfl, rfl⟩

theorem resolve_of_not_comesToSelf (h : ¬ ComesToSelf pairs name) :
    (flatten pairs).resolve (some name) = (flatten (withoutSelfPairs pairs)).resolve (some name) := by
  rw [resolve_flatten hdistinct hname,
    resolve_flatten (nodup_keys_withoutSelfPairs hdistinct) hname]
  by_cases hends : Ends (withoutSelfPairs pairs) name
  · obtain ⟨n, stop, hleads⟩ := hends
    rw [endOf?_getD_of_leads hleads]
    rcases get?_of_withoutSelfPairs_eq_none hdistinct hleads.get?_stop with hnone | hself
    · rw [endOf?_getD_of_leads (leads_of_withoutSelfPairs hdistinct hleads hnone)]
    · cases hleads with
      | stop _ =>
        -- the name itself is given as itself, and stands for itself in both
        rw [endOf?_of_not_ends (not_ends_of_self hself)]
        rfl
      | step hnext rest => exact absurd ⟨_, stop, .step hnext rest, hself⟩ h
  · have hends' : ¬ Ends pairs name := by
      rintro ⟨n, stop, hleads⟩
      exact hends ⟨n, stop, leads_withoutSelfPairs hdistinct hleads⟩
    rw [endOf?_of_not_ends hends, endOf?_of_not_ends hends']

end Resolving

/-- **Pairs of a name with itself matter to those who come to them, and to nobody
    else.**  A name is shown the same with and without these pairs, unless pairs lead
    from it to another name that is given as itself.  Then it is shown as that one
    without them, and with them it stands for itself. -/
theorem resolve_withoutSelfPairs (mapping : List (String × String)) (name : String) :
    let pairs := Keyed.ofPairs mapping
    ((flatten pairs).resolve (some name) = (flatten (withoutSelfPairs pairs)).resolve (some name) ↔
      name = "" ∨ ¬ ComesToSelf pairs name) ∧
    ∀ n stop, name ≠ "" → Leads (withoutSelfPairs pairs) (n + 1) name stop →
      pairs.get? stop = some stop →
      (flatten pairs).resolve (some name) = some name ∧
        (flatten (withoutSelfPairs pairs)).resolve (some name) = some stop := by
  intro pairs
  have hdistinct : (pairs.map Prod.fst).Nodup := Keyed.nodup_keys_ofPairs mapping
  refine ⟨?_, fun n stop hname hleads hself => resolve_of_comesToSelf hdistinct hname hleads hself⟩
  by_cases hname : name = ""
  · subst hname
    exact iff_of_true rfl (.inl rfl)
  · rw [or_iff_right hname]
    constructor
    · rintro hsame ⟨n, stop, hleads, hself⟩
      obtain ⟨halone, hshown⟩ := resolve_of_comesToSelf hdistinct hname hleads hself
      rw [halone, hshown] at hsame
      exact hleads.ne_stop (Option.some.inj hsame)
    · exact resolve_of_not_comesToSelf hdistinct hname

/-- Nicknames of a name that is given as itself, and of one that is not. -/
def selfNamed : List (String × String) :=
  [("912", "Rui"), ("Rui", "Rui"), ("Zé", "José"), ("Zezinho", "Zé"), ("Ana", "Ana")]

theorem resolve_withoutSelfPairs_selfNamed :
    (flatten (.ofPairs selfNamed)).resolve (some "Zezinho") =
        (flatten (withoutSelfPairs (.ofPairs selfNamed))).resolve (some "Zezinho") ∧
      Leads (withoutSelfPairs (.ofPairs selfNamed)) 1 "912" "Rui" ∧
      (Keyed.ofPairs selfNamed).get? "Rui" = some "Rui" ∧
      (flatten (.ofPairs selfNamed)).resolve (some "912") = some "912" ∧
      (flatten (withoutSelfPairs (.ofPairs selfNamed))).resolve (some "912") = some "Rui" := by
  have hleads : Leads (withoutSelfPairs (.ofPairs selfNamed)) 1 "912" "Rui" :=
    .step (by decide) (.stop (by decide))
  have hself : (Keyed.ofPairs selfNamed).get? "Rui" = some "Rui" := by decide
  refine ⟨?_, hleads, hself, ?_⟩
  · apply (resolve_withoutSelfPairs selfNamed "Zezinho").1.mpr
    right
    rintro ⟨n, stop, hend, hstop⟩
    have hnext : (withoutSelfPairs (.ofPairs selfNamed)).get? "Zezinho" = some "Zé" := by decide
    have hjose : Leads (withoutSelfPairs (.ofPairs selfNamed)) 2 "Zezinho" "José" :=
      .step hnext (.step (by decide) (.stop (by decide)))
    obtain ⟨_, rfl⟩ := hend.unique hjose
    exact absurd hstop (by decide)
  · exact (resolve_withoutSelfPairs selfNamed "912").2 0 "Rui" (by decide) hleads hself

/-- A spelling loses its identity if that one is given as itself. -/
theorem self_pair_costs_spelling :
    (flatten (.ofPairs [("912", "Rui"), ("Rui", "Rui")])).resolve (some "912") = some "912" ∧
      (flatten (withoutSelfPairs (.ofPairs [("912", "Rui"), ("Rui", "Rui")]))).resolve (some "912") =
        some "Rui" := by
  decide +kernel

end Transcripts.Identity.AliasMap
