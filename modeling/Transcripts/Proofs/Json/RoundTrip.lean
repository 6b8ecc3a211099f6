/-
  Transcripts/Proofs/Json/RoundTrip.lean
  ======================================
  **JSON values are read as they were written.**

  Every part of a value is followed by a comma, a line break or the end of the
  text, none of which continues a number, and the space that the writer puts in
  is the space that the reader drops.  So each value is read up to where it
  ends, and the induction is on the depth to which its containers are nested.
  The values that are written have plain texts; they are read with texts of any
  kind.

  Numbers that are not whole are left aside: no project is written with any.
-/
import Transcripts.Proofs.Collection.NormalForm
import Transcripts.Proofs.Json.Plain
import Transcripts.Proofs.Json.Scalar

namespace Transcripts.Json

open Transcripts.Numeral
open Transcripts.Text

/-! ### Values that can be read -/

/-- A value whose containers are nested no deeper than `depth`, whose objects have
    distinct names, and whose numbers the reader can give: whole numbers of at most
    `maxDigits` digits, and others as `numbers` allows. -/
def Within {τ : Type} (numbers : Binary64 → Prop) : (depth : Nat) → Json τ → Prop
  | _, .null | _, .bool _ | _, .string _ => True
  | _, .int n => FitsDigits n
  | _, .number x => numbers x
  | 0, .array _ | 0, .object _ => False
  | depth + 1, .array items => ∀ v ∈ items, Within numbers depth v
  | depth + 1, .object fields =>
    (fields.map Prod.fst).Nodup ∧ ∀ field ∈ fields, Within numbers depth field.2

/-- No number but whole ones. -/
abbrev OnlyWhole : Binary64 → Prop := fun _ => False

/-! ### Space -/

theorem skipSpace_newLine (indent : Nat) (rest : List Char) :
    skipSpace (newLine indent ++ rest) = skipSpace rest := by
  have hspace : ∀ c ∈ newLine indent, isSpace c = true := by
    intro c hc
    rcases List.mem_cons.mp hc with rfl | hc
    · decide
    · rw [List.eq_of_mem_replicate hc]
      decide
  rw [skipSpace, List.dropWhile_append_of_pos hspace, skipSpace]

theorem skipSpace_cons {c : Char} (hc : isSpace c = false) (rest : List Char) :
    skipSpace (c :: rest) = c :: rest := by
  rw [skipSpace, List.dropWhile_cons_of_neg (by simp [hc])]

theorem skipSpace_newLine_cons {c : Char} (hc : isSpace c = false) (indent : Nat)
    (rest : List Char) : skipSpace (newLine indent ++ c :: rest) = c :: rest := by
  rw [skipSpace_newLine, skipSpace_cons hc]

theorem endsNumber_newLine (indent : Nat) (rest : List Char) :
    EndsNumber (newLine indent ++ rest) :=
  endsNumber_cons (by decide) _

theorem skipSpace_writeString (s : String) (rest : List Char) :
    skipSpace (writeString s ++ rest) = writeString s ++ rest :=
  skipSpace_cons (by decide) _

/-! ### Items and fields -/

section Parts

variable {τ : Type} {one : List Char → Except Halt (Json τ × List Char)} {limit : Nat}
  {cs rest rest' rest'' : List Char}

theorem readItems_last {v : Json τ} (hone : one cs = .ok (v, rest))
    (hclose : skipSpace rest = ']' :: rest') : readItems one (limit + 1) cs = .ok ([v], rest') := by
  rw [readItems, hone]
  simp only [bind, Except.bind, hclose]
  rfl

theorem readItems_next {v : Json τ} {vs : List (Json τ)} (hone : one cs = .ok (v, rest))
    (hcomma : skipSpace rest = ',' :: rest')
    (hrest : readItems one limit (skipSpace rest') = .ok (vs, rest'')) :
    readItems one (limit + 1) cs = .ok (v :: vs, rest'') := by
  rw [readItems, hone]
  simp only [bind, Except.bind, hcomma, hrest]
  rfl

variable [Textual τ]

theorem readFields_last {field : τ × Json τ} (hone : readField one cs = .ok (field, rest))
    (hclose : skipSpace rest = '}' :: rest') :
    readFields one (limit + 1) cs = .ok ([field], rest') := by
  rw [readFields, hone]
  simp only [bind, Except.bind, hclose]
  rfl

theorem readFields_next {field : τ × Json τ} {fields : List (τ × Json τ)}
    (hone : readField one cs = .ok (field, rest)) (hcomma : skipSpace rest = ',' :: rest')
    (hrest : readFields one limit (skipSpace rest') = .ok (fields, rest'')) :
    readFields one (limit + 1) cs = .ok (field :: fields, rest'') := by
  rw [readFields, hone]
  simp only [bind, Except.bind, hcomma, hrest]
  rfl

/-- Whether a value is read as it is written, up to where it ends, with no space
    in front of it. -/
def ReadsBack (one : List Char → Except Halt (Json τ × List Char)) (indent : Nat) (v : Json) : Prop :=
  (∀ rest, EndsNumber rest → one (writeAt indent v ++ rest) = .ok (v.lift, rest)) ∧
    ∀ rest, skipSpace (writeAt indent v ++ rest) = writeAt indent v ++ rest

/-- Items are read up to the bracket behind them. -/
theorem readItems_written {indent closing : Nat} {v : Json} {vs : List Json}
    (hone : ∀ w ∈ v :: vs, ReadsBack one indent w) (hlimit : vs.length < limit) :
    readItems one limit
        (writeAt indent v ++ (writeItems indent vs ++ (newLine closing ++ ']' :: rest))) =
      .ok (liftItems (v :: vs), rest) := by
  obtain ⟨hv, hvs⟩ := List.forall_mem_cons.mp hone
  obtain ⟨limit, rfl⟩ : ∃ k, limit = k + 1 := ⟨limit - 1, by omega⟩
  induction vs generalizing v limit with
  | nil =>
    exact readItems_last (hv.1 _ (endsNumber_newLine closing _))
      (skipSpace_newLine_cons (by decide) closing rest)
  | cons w ws ih =>
    obtain ⟨hw, hws⟩ := List.forall_mem_cons.mp hvs
    obtain ⟨limit, rfl⟩ : ∃ k, limit = k + 1 := ⟨limit - 1, by simp at hlimit; omega⟩
    simp only [writeItems, List.cons_append, List.append_assoc]
    refine readItems_next (hv.1 _ (endsNumber_cons (by decide) _)) (skipSpace_cons (by decide) _) ?_
    rw [skipSpace_newLine, hw.2]
    exact ih hvs hw hws limit (by simpa using hlimit)

variable [LT τ] [LawfulTextual τ]

theorem readField_written {indent : Nat} {name : String} {v : Json} (hone : ReadsBack one indent v)
    (hrest : EndsNumber rest) :
    readField one (writeString name ++ ':' :: ' ' :: (writeAt indent v ++ rest)) =
      .ok ((Textual.literal name, v.lift), rest) := by
  have hspace : skipSpace (' ' :: (writeAt indent v ++ rest)) = writeAt indent v ++ rest :=
    hone.2 rest
  have hcolon := skipSpace_cons (show isSpace ':' = false by decide)
  simp only [writeString, List.cons_append, List.append_assoc, List.nil_append, readField]
  rw [readString_writeString]
  simp only [bind, Except.bind, hcolon, hspace, hone.1 rest hrest]
  rfl

/-- Fields are read up to the brace behind them. -/
theorem readFields_written {indent closing : Nat} {name : String} {v : Json}
    {fields : List (String × Json)}
    (hone : ∀ field ∈ (name, v) :: fields, ReadsBack one indent field.2)
    (hlimit : fields.length < limit) :
    readFields one limit
        (writeString name ++ ':' :: ' ' :: (writeAt indent v ++
          (writeFields indent fields ++ (newLine closing ++ '}' :: rest)))) =
      .ok (liftFields ((name, v) :: fields), rest) := by
  obtain ⟨hv, hfields⟩ := List.forall_mem_cons.mp hone
  obtain ⟨limit, rfl⟩ : ∃ k, limit = k + 1 := ⟨limit - 1, by omega⟩
  induction fields generalizing name v limit with
  | nil =>
    exact readFields_last (readField_written hv (endsNumber_newLine closing _))
      (skipSpace_newLine_cons (by decide) closing rest)
  | cons field fields ih =>
    obtain ⟨hv', hrest⟩ := List.forall_mem_cons.mp hfields
    obtain ⟨limit, rfl⟩ : ∃ k, limit = k + 1 := ⟨limit - 1, by simp at hlimit; omega⟩
    simp only [writeFields, List.cons_append, List.append_assoc]
    refine readFields_next (readField_written hv (endsNumber_cons (by decide) _))
      (skipSpace_cons (by decide) _) ?_
    rw [skipSpace_newLine, skipSpace_writeString]
    exact ih hfields hv' hrest limit (by simpa using hlimit)

end Parts

/-! ### Values -/

section Values

variable {τ : Type} [DecidableEq τ] [Textual τ]

/-- What is neither a text nor a container is read as a scalar. -/
theorem readValue_scalar {depth : Nat} {c : Char} (hquote : c ≠ '"') (harray : c ≠ '[')
    (hobject : c ≠ '{') (cs : List Char) :
    readValue depth (c :: cs) = (readScalar (c :: cs) : Except Halt (Json τ × List Char)) := by
  rw [readValue]
  all_goals simp [hquote, harray, hobject]

theorem readValue_array {depth : Nat} {cs rest : List Char} {items : List (Json τ)}
    (hitems : readItems (readValue depth) ((skipSpace cs).length + 1) (skipSpace cs) =
      .ok (items, rest)) (hopen : ∀ rest, skipSpace cs ≠ ']' :: rest) :
    readValue (depth + 1) ('[' :: cs) = .ok (.array items, rest) := by
  rw [readValue]
  split
  · next h => exact absurd h (hopen _)
  · rw [hitems]
    rfl

theorem readValue_object {depth : Nat} {cs rest : List Char} (fields : List (τ × Json τ))
    (hfields : readFields (readValue depth) ((skipSpace cs).length + 1) (skipSpace cs) =
      .ok (fields, rest)) (hopen : ∀ rest, skipSpace cs ≠ '}' :: rest) :
    readValue (depth + 1) ('{' :: cs) = .ok (.object (Keyed.ofPairs fields), rest) := by
  rw [readValue]
  split
  · next h => exact absurd h (hopen _)
  · rw [hfields]
    rfl

/-- Whether a character can be the first one of a value. -/
def beginsValue (c : Char) : Bool :=
  isDigitChar c || ['-', 'n', 't', 'f', '"', '[', '{'].contains c

theorem ne_of_beginsValue {c d : Char} (hc : beginsValue c = true) (hd : beginsValue d = false) :
    c ≠ d := by
  rintro rfl
  exact Bool.false_ne_true (hd.symm.trans hc)

theorem not_space_of_beginsValue {c : Char} (hc : beginsValue c = true) : isSpace c = false := by
  simp [isSpace, ne_of_beginsValue hc (show beginsValue ' ' = false by decide),
    ne_of_beginsValue hc (show beginsValue '\t' = false by decide),
    ne_of_beginsValue hc (show beginsValue '\n' = false by decide),
    ne_of_beginsValue hc (show beginsValue '\r' = false by decide)]

theorem writeAt_head {depth : Nat} {v : Json} (hv : v.Within OnlyWhole depth) (indent : Nat) :
    ∃ c cs, writeAt indent v = c :: cs ∧ beginsValue c = true := by
  cases v with
  | null => exact ⟨_, _, rfl, by decide⟩
  | bool b => cases b <;> exact ⟨_, _, rfl, by decide⟩
  | int n =>
    rw [writeAt, toList_toString]
    split
    · exact ⟨_, _, rfl, by decide⟩
    · obtain ⟨c, cs, hdigits, hc⟩ := toDigits_head n.natAbs
      exact ⟨c, cs, hdigits, by rw [beginsValue, hc, Bool.true_or]⟩
  | number x => cases depth <;> exact hv.elim
  | string s => exact ⟨_, _, rfl, by decide⟩
  | array items => cases items <;> exact ⟨_, _, rfl, by decide⟩
  | object fields =>
    rcases fields with _ | ⟨⟨name, v⟩, fields⟩ <;> exact ⟨_, _, rfl, by decide⟩

theorem readValue_int {depth : Nat} {n : Int} (hn : FitsDigits n) {rest : List Char}
    (hrest : EndsNumber rest) :
    readValue depth ((toString n).toList ++ rest) = .ok ((.int n : Json τ), rest) := by
  obtain ⟨c, cs, htext, hc⟩ : ∃ c cs, (toString n).toList = c :: cs ∧ (c = '-' ∨ isDigitChar c = true) := by
    rw [toList_toString]
    split
    · exact ⟨_, _, rfl, .inl rfl⟩
    · obtain ⟨c, cs, hdigits, hc⟩ := toDigits_head n.natAbs
      exact ⟨c, cs, hdigits, .inr hc⟩
  have hscalar := readScalar_int (τ := τ) hn hrest
  rw [htext, List.cons_append] at hscalar ⊢
  rw [readValue_scalar, hscalar]
  all_goals
    rintro rfl
    rcases hc with hc | hc <;> exact absurd hc (by decide)

theorem skipSpace_writeAt {depth : Nat} {v : Json} (hv : v.Within OnlyWhole depth) (indent : Nat)
    (rest : List Char) : skipSpace (writeAt indent v ++ rest) = writeAt indent v ++ rest := by
  obtain ⟨c, cs, hwrite, hc⟩ := writeAt_head hv indent
  rw [hwrite, List.cons_append, skipSpace_cons (not_space_of_beginsValue hc)]

theorem length_le_writeItems (indent : Nat) (vs : List Json) :
    vs.length ≤ (writeItems indent vs).length := by
  induction vs with
  | nil => exact Nat.le_refl 0
  | cons v vs ih =>
    simp only [writeItems, List.length_cons, List.length_append]
    omega

theorem length_le_writeFields (indent : Nat) (fields : List (String × Json)) :
    fields.length ≤ (writeFields indent fields).length := by
  induction fields with
  | nil => exact Nat.le_refl 0
  | cons field fields ih =>
    simp only [writeFields, List.length_cons, List.length_append]
    omega

/-- **Values are read as they were written.**  A value that can be read, with no
    number in it but whole ones, is read up to where it ends. -/
theorem readValue_writeAt [LT τ] [LawfulTextual τ] : ∀ {depth : Nat} {v : Json},
    v.Within OnlyWhole depth → ∀ (indent : Nat) {rest : List Char}, EndsNumber rest →
      readValue depth (writeAt indent v ++ rest) = .ok ((v.lift : Json τ), rest)
  | _, .null, _, _, _, _ => readValue_scalar (by decide) (by decide) (by decide) _
  | _, .bool true, _, _, _, _ => readValue_scalar (by decide) (by decide) (by decide) _
  | _, .bool false, _, _, _, _ => readValue_scalar (by decide) (by decide) (by decide) _
  | 0, .int _, hv, _, _, hrest => readValue_int hv hrest
  | _ + 1, .int _, hv, _, _, hrest => readValue_int hv hrest
  | 0, .number _, hv, _, _, _ => hv.elim
  | _ + 1, .number _, hv, _, _, _ => hv.elim
  | _, .string s, _, _, rest, _ => by
    simp only [writeAt, writeString, List.cons_append, List.append_assoc, List.nil_append]
    rw [readValue, readString_writeString]
    rfl
  | 0, .array _, hv, _, _, _ => hv.elim
  | 0, .object _, hv, _, _, _ => hv.elim
  | depth + 1, .array [], _, _, _, _ => rfl
  | depth + 1, .object [], _, _, _, _ => rfl
  | depth + 1, .array (v :: vs), hv, indent, rest, _ => by
    have hone : ∀ w ∈ v :: vs, ReadsBack (readValue (τ := τ) depth) (indent + 2) w := fun w hw =>
      ⟨fun rest hrest => readValue_writeAt (hv w hw) _ hrest, skipSpace_writeAt (hv w hw) _⟩
    obtain ⟨c, cs, hwrite, hc⟩ := writeAt_head (hv v List.mem_cons_self) (indent + 2)
    simp only [writeAt, List.cons_append, List.append_assoc, List.nil_append]
    refine readValue_array ?_ fun tail => ?_
    · rw [skipSpace_newLine, (hone v List.mem_cons_self).2]
      refine readItems_written hone (Nat.lt_succ_of_le ?_)
      have := length_le_writeItems (indent + 2) vs
      simp only [List.length_append]
      omega
    · rw [skipSpace_newLine, (hone v List.mem_cons_self).2, hwrite, List.cons_append]
      exact fun h => ne_of_beginsValue hc (by decide) (List.cons.inj h).1
  | depth + 1, .object ((name, v) :: fields), hv, indent, rest, _ => by
    have hone : ∀ field ∈ (name, v) :: fields,
        ReadsBack (readValue (τ := τ) depth) (indent + 2) field.2 :=
      fun field hfield => ⟨fun rest hrest => readValue_writeAt (hv.2 field hfield) _ hrest,
        skipSpace_writeAt (hv.2 field hfield) _⟩
    simp only [writeAt, List.cons_append, List.append_assoc, List.nil_append]
    have hnames : ((liftFields ((name, v) :: fields)).map (Prod.fst : τ × Json τ → τ)).Nodup := by
      have hliterals := hv.1.map (Textual.literal_injective (τ := τ))
      rw [liftFields_eq_map, List.map_map]
      rwa [List.map_map] at hliterals
    rw [readValue_object (liftFields ((name, v) :: fields)), Keyed.ofPairs_of_nodup hnames, lift]
    · rw [skipSpace_newLine, skipSpace_writeString]
      refine readFields_written hone (Nat.lt_succ_of_le ?_)
      have := length_le_writeFields (indent + 2) fields
      simp only [List.length_append, List.length_cons]
      omega
    · intro tail
      rw [skipSpace_newLine, skipSpace_writeString]
      exact fun h => absurd (List.cons.inj h).1 (by decide)

/-- **A written value is read.**  The text of a value that can be read, with no
    number in it but whole ones, is the text of that value. -/
theorem read_write [LT τ] [LawfulTextual τ] {v : Json} (hv : v.Within OnlyWhole maxNesting) :
    read v.write.toList = .ok (v.lift : Json τ) := by
  obtain ⟨c, cs, hwrite, hc⟩ := writeAt_head hv 0
  have hmark : (writeAt 0 v).head? ≠ some '\ufeff' := by
    rw [hwrite, List.head?_cons]
    exact fun h => ne_of_beginsValue hc (by decide) (Option.some.inj h)
  have hspace : skipSpace (writeAt 0 v) = writeAt 0 v := by
    simpa using skipSpace_writeAt hv 0 []
  have hvalue : readValue maxNesting (writeAt 0 v) = .ok ((v.lift : Json τ), []) := by
    have hends : EndsNumber [] := by simp [EndsNumber]
    simpa using readValue_writeAt (τ := τ) hv 0 hends
  rw [write, String.toList_ofList, read, readDocument, if_neg hmark, hspace]
  simp only [bind, Except.bind, pure, Except.pure, hvalue]
  rfl

end Values

/-! ### Line ends -/

theorem return_not_mem_newLine (indent : Nat) : '\r' ∉ newLine indent := by
  intro h
  rcases List.mem_cons.mp h with h | h
  · exact absurd h (by decide)
  · exact absurd (List.eq_of_mem_replicate h) (by decide)

theorem return_not_mem_writeString (s : String) : '\r' ∉ writeString s := by
  simp [writeString, return_not_mem_escapeChar]

theorem return_not_mem_writeItems {indent : Nat} {vs : List Json}
    (h : ∀ v ∈ vs, '\r' ∉ writeAt indent v) : '\r' ∉ writeItems indent vs := by
  induction vs with
  | nil => exact List.not_mem_nil
  | cons v vs ih =>
    obtain ⟨hv, hvs⟩ := List.forall_mem_cons.mp h
    simp [writeItems, return_not_mem_newLine, hv, ih hvs]

theorem return_not_mem_writeFields {indent : Nat} {fields : List (String × Json)}
    (h : ∀ field ∈ fields, '\r' ∉ writeAt indent field.2) : '\r' ∉ writeFields indent fields := by
  induction fields with
  | nil => exact List.not_mem_nil
  | cons field fields ih =>
    obtain ⟨hfield, hfields⟩ := List.forall_mem_cons.mp h
    simp [writeFields, return_not_mem_newLine, return_not_mem_writeString, hfield, ih hfields]

theorem return_not_mem_toString (n : Int) : '\r' ∉ (toString n).toList := by
  rw [toList_toString]
  intro h
  rcases List.mem_append.mp h with h | h
  · split at h
    · exact absurd h (by decide)
    · exact List.not_mem_nil h
  · exact absurd (isDigitChar_of_mem_toDigits h) (by decide)

/-- A carriage return is only ever written as an escape. -/
theorem return_not_mem_writeAt : ∀ {depth : Nat} {v : Json}, v.Within OnlyWhole depth →
    ∀ (indent : Nat), '\r' ∉ writeAt indent v
  | _, .null, _, _ => by simp [writeAt]
  | _, .bool true, _, _ => by simp [writeAt]
  | _, .bool false, _, _ => by simp [writeAt]
  | _, .int n, _, _ => return_not_mem_toString n
  | 0, .number _, hv, _ => hv.elim
  | _ + 1, .number _, hv, _ => hv.elim
  | _, .string s, _, _ => return_not_mem_writeString s
  | 0, .array _, hv, _ => hv.elim
  | 0, .object _, hv, _ => hv.elim
  | _ + 1, .array [], _, _ => by simp [writeAt]
  | _ + 1, .object [], _, _ => by simp [writeAt]
  | _ + 1, .array (v :: vs), hv, indent => by
    obtain ⟨hv, hvs⟩ := List.forall_mem_cons.mp hv
    have hfirst := return_not_mem_writeAt hv (indent + 2)
    have hitems := return_not_mem_writeItems fun w hw => return_not_mem_writeAt (hvs w hw) (indent + 2)
    simp [writeAt, return_not_mem_newLine, hfirst, hitems]
  | _ + 1, .object ((name, v) :: fields), hv, indent => by
    obtain ⟨hv, hfields⟩ := List.forall_mem_cons.mp hv.2
    have hfirst := return_not_mem_writeAt hv (indent + 2)
    have hrest := return_not_mem_writeFields fun field h =>
      return_not_mem_writeAt (hfields field h) (indent + 2)
    simp [writeAt, return_not_mem_newLine, return_not_mem_writeString, hfirst, hrest]

end Transcripts.Json
