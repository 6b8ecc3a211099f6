/-
  Transcripts/Proofs/Collection/Fallible.lean
  ===========================================
  **Steps that may fail, one after another.**

  A chain of steps runs to its end exactly if each step does, and a list is gone
  through to its end exactly if each of its elements can be.
-/

namespace Transcripts

variable {ε α β : Type}

/-- What runs to its end ran each of its steps to the end. -/
theorem exists_of_bind_eq_ok {x : Except ε α} {f : α → Except ε β} {b : β}
    (h : (x >>= f) = .ok b) : ∃ a, x = .ok a ∧ f a = .ok b := by
  cases x with
  | error e => exact absurd h (by simp [bind, Except.bind])
  | ok a => exact ⟨a, rfl, h⟩

/-- Two steps run to the end where both do, if the first one's value makes no
    difference to that. -/
theorem exists_bind_iff {x : Except ε α} {f : α → Except ε β} {P : Prop}
    (hf : ∀ a, (∃ b, f a = .ok b) ↔ P) : (∃ b, (x >>= f) = .ok b) ↔ (∃ a, x = .ok a) ∧ P := by
  cases x with
  | error e => simp [bind, Except.bind]
  | ok a => simpa [bind, Except.bind] using hf a

theorem mapError_eq_ok_iff {ε' : Type} {x : Except ε α} {f : ε → ε'} {a : α} :
    x.mapError f = .ok a ↔ x = .ok a := by
  cases x with
  | error e => exact iff_of_false nofun nofun
  | ok a' =>
    constructor
    · intro h
      rw [Except.ok.inj h]
    · intro h
      rw [Except.ok.inj h]
      rfl

theorem exists_of_map_eq_ok {x : Except ε α} {f : α → β} {b : β} (h : x.map f = .ok b) :
    ∃ a, x = .ok a ∧ f a = b := by
  cases x with
  | error e => simp [Except.map] at h
  | ok a => exact ⟨a, rfl, Except.ok.inj h⟩

theorem toOption_eq_some_iff {x : Except ε α} {a : α} : x.toOption = some a ↔ x = .ok a := by
  cases x with
  | error e => exact iff_of_false nofun nofun
  | ok a' => simp [Except.toOption]

/-- Two steps fail only as they may where each does that is come to. -/
theorem failsOnly_bind_iff {allowed : ε → Prop} {x : Except ε α} {f : α → Except ε β} :
    (∀ e, (x >>= f) = .error e → allowed e) ↔
      (∀ e, x = .error e → allowed e) ∧ ∀ a, x = .ok a → ∀ e, f a = .error e → allowed e := by
  cases x with
  | error e => simp [bind, Except.bind]
  | ok a => simp [bind, Except.bind]

/-! A property of a result, or of a fault, can be checked. -/

instance decidableOnResult {P : α → Prop} [DecidablePred P] :
    (x : Except ε α) → Decidable (∀ a, x = .ok a → P a)
  | .ok a => decidable_of_iff (P a) ⟨fun h _ hok => Except.ok.inj hok ▸ h, fun h => h a rfl⟩
  | .error _ => isTrue nofun

instance decidableOnFault {P : ε → Prop} [DecidablePred P] :
    (x : Except ε α) → Decidable (∀ e, x = .error e → P e)
  | .ok _ => isTrue nofun
  | .error e => decidable_of_iff (P e) ⟨fun h _ herror => Except.error.inj herror ▸ h, fun h => h e rfl⟩

/-! ### A value that may be missing -/

section Missing

variable {o : Option α} {f : α → Except ε β}

theorem mapM_some_eq (a : α) : (some a).mapM f = (f a).map some := rfl

theorem exists_mapM_option_iff : (∃ b, o.mapM f = .ok b) ↔ ∀ a ∈ o, ∃ b, f a = .ok b := by
  cases o with
  | none => exact iff_of_true ⟨none, rfl⟩ nofun
  | some a =>
    rw [mapM_some_eq]
    cases hf : f a with
    | error e => simp [hf, Except.map]
    | ok b => simp [hf, Except.map]

theorem mapM_option_cases {b : Option β} (h : o.mapM f = .ok b) :
    (∀ a ∈ o, ∃ x ∈ b, f a = .ok x) ∧ (o = none → b = none) := by
  cases o with
  | none =>
    obtain rfl := Except.ok.inj h
    exact ⟨nofun, fun _ => rfl⟩
  | some a =>
    rw [mapM_some_eq] at h
    obtain ⟨x, hx, rfl⟩ := exists_of_map_eq_ok h
    exact ⟨by simpa using hx, nofun⟩

/-- A step for a value that may be missing fails only as it may where it does for the value. -/
theorem failsOnly_mapM_option {allowed : ε → Prop} (h : ∀ a ∈ o, ∀ e, f a = .error e → allowed e) :
    ∀ e, o.mapM f = .error e → allowed e := by
  intro e he
  cases o with
  | none => cases he
  | some a =>
    rw [mapM_some_eq] at he
    cases hf : f a with
    | error e' =>
      rw [hf] at he
      obtain rfl := Except.error.inj he
      exact h a rfl e' hf
    | ok b =>
      rw [hf] at he
      cases he

end Missing

/-! ### Lists -/

variable {l : List α}

theorem exists_mapM_iff {f : α → Except ε β} :
    (∃ l', l.mapM f = .ok l') ↔ ∀ a ∈ l, ∃ b, f a = .ok b := by
  induction l with
  | nil => exact iff_of_true ⟨[], rfl⟩ (fun _ ha => absurd ha List.not_mem_nil)
  | cons a l ih =>
    rw [List.mapM_cons, List.forall_mem_cons, ← ih]
    constructor
    · rintro ⟨l', h⟩
      obtain ⟨b, hb, h⟩ := exists_of_bind_eq_ok h
      obtain ⟨bs, hbs, _⟩ := exists_of_bind_eq_ok h
      exact ⟨⟨b, hb⟩, bs, hbs⟩
    · rintro ⟨⟨b, hb⟩, bs, hbs⟩
      exact ⟨b :: bs, by rw [hb, hbs]; rfl⟩

theorem mapM_map {γ δ : Type} {f : α → Except ε β} {g : γ → Except ε δ} {change : α → γ} {h : β → δ}
    (hg : ∀ a ∈ l, g (change a) = (f a).map h) : (l.map change).mapM g = (l.mapM f).map (List.map h) := by
  induction l with
  | nil => rfl
  | cons a l ih =>
    obtain ⟨ha, hl⟩ := List.forall_mem_cons.mp hg
    rw [List.map_cons, List.mapM_cons, List.mapM_cons, ha, ih hl]
    cases f a with
    | error e => rfl
    | ok b => cases l.mapM f <;> rfl

theorem mapM_eq_ok {f : α → Except ε β} {g : α → β} (h : ∀ a ∈ l, f a = .ok (g a)) :
    l.mapM f = .ok (l.map g) := by
  induction l with
  | nil => rfl
  | cons a l ih =>
    obtain ⟨ha, hl⟩ := List.forall_mem_cons.mp h
    rw [List.mapM_cons, ha, ih hl]
    rfl

/-- What each result is traced back to is the list that was gone through. -/
theorem map_of_mapM_eq_ok {f : α → Except ε β} {g : β → α} (hg : ∀ {a b}, f a = .ok b → g b = a)
    {l' : List β} (h : l.mapM f = .ok l') : l'.map g = l := by
  induction l generalizing l' with
  | nil =>
    obtain rfl := Except.ok.inj h
    rfl
  | cons a l ih =>
    rw [List.mapM_cons] at h
    obtain ⟨b, hb, h⟩ := exists_of_bind_eq_ok h
    obtain ⟨bs, hbs, h⟩ := exists_of_bind_eq_ok h
    obtain rfl := Except.ok.inj h
    rw [List.map_cons, hg hb, ih hbs]

theorem filterAuxM_eq_ok_iff {p : α → Except ε Bool} {acc l' : List α} :
    l.filterAuxM p acc = .ok l' ↔ (∀ a ∈ l, ∃ b, p a = .ok b) ∧
      l' = (l.filter fun a => (p a).toOption = some true).reverse ++ acc := by
  induction l generalizing acc with
  | nil => simp [List.filterAuxM, pure, Except.pure, eq_comm]
  | cons a l ih =>
    rw [List.filterAuxM, List.forall_mem_cons]
    cases hp : p a with
    | error e => simp [bind, Except.bind]
    | ok b =>
      simp only [bind, Except.bind]
      rw [ih]
      cases b <;> simp [hp, Except.toOption]

/-- Elements that are changed and then judged, as the elements themselves are judged. -/
theorem filterM_map {p : β → Except ε Bool} {q : α → Except ε Bool} {f : α → β}
    (h : ∀ a ∈ l, p (f a) = q a) : (l.map f).filterM p = (l.filterM q).map (List.map f) := by
  have haux (acc : List α) :
      (l.map f).filterAuxM p (acc.map f) = (l.filterAuxM q acc).map (List.map f) := by
    induction l generalizing acc with
    | nil => rfl
    | cons a l ih =>
      obtain ⟨ha, hl⟩ := List.forall_mem_cons.mp h
      rw [List.map_cons, List.filterAuxM, List.filterAuxM, ha]
      cases q a with
      | error e => rfl
      | ok b =>
        cases b with
        | true => exact ih hl (a :: acc)
        | false => exact ih hl acc
  rw [List.filterM, List.filterM, show ([] : List β) = [].map f from rfl, haux]
  cases l.filterAuxM q [] with
  | error e => rfl
  | ok found => exact congrArg Except.ok List.map_reverse.symm

/-- A list is filtered to its end if each of its elements can be judged. -/
theorem filterM_eq_ok_iff {p : α → Except ε Bool} {l' : List α} :
    l.filterM p = .ok l' ↔ (∀ a ∈ l, ∃ b, p a = .ok b) ∧
      l' = l.filter fun a => (p a).toOption = some true := by
  rw [List.filterM]
  constructor
  · intro h
    obtain ⟨found, hfound, h⟩ := exists_of_bind_eq_ok h
    obtain ⟨hall, rfl⟩ := filterAuxM_eq_ok_iff.mp hfound
    exact ⟨hall, by simpa using (Except.ok.inj h).symm⟩
  · rintro ⟨hall, rfl⟩
    rw [filterAuxM_eq_ok_iff.mpr ⟨hall, rfl⟩]
    exact congrArg Except.ok (by simp)

end Transcripts
