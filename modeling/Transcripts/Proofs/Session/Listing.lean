/-
  Transcripts/Proofs/Session/Listing.lean
  =======================================
  **Source files, as they are listed and as they are deleted.**

  The listing counts the sessions of each source file in one pass.  A deletion does
  not look at it: it goes through the sessions again and asks each for its file.
  Both put sessions without a file under one name, and there may be a file that
  really has this name.  Still they agree, because both go by the same label of a
  session and by nothing else.

  What carries this is that the listing can be said at once: the labels in the order
  in which they first come, each with the number of sessions that have it.
-/
import Mathlib.Algebra.BigOperators.Group.List.Lemmas
import Mathlib.Algebra.GroupWithZero.Nat
import Mathlib.Data.List.Induction
import Mathlib.Data.List.Perm.Lattice
import Transcripts.Proofs.Session.OrderedMap

namespace Transcripts

/-! ### First occurrences, and how often each occurs -/

theorem firstOccurrences_concat (xs : List String) (x : String) :
    firstOccurrences (xs ++ [x]) =
      if x ∈ xs then firstOccurrences xs else firstOccurrences xs ++ [x] := by
  rw [firstOccurrences, List.foldl_append, ← firstOccurrences]
  by_cases hx : x ∈ xs
  · have hseen : (firstOccurrences xs).contains x = true :=
      List.contains_iff_mem.mpr (mem_firstOccurrences.mpr hx)
    rw [if_pos hx, List.foldl_cons, if_pos hseen]
    rfl
  · have hnew : ¬ (firstOccurrences xs).contains x = true := by
      intro hseen
      exact hx (mem_firstOccurrences.mp (List.contains_iff_mem.mp hseen))
    rw [if_neg hx, List.foldl_cons, if_neg hnew]
    rfl

theorem firstOccurrences_filter (p : String → Bool) (xs : List String) :
    firstOccurrences (xs.filter p) = (firstOccurrences xs).filter p := by
  induction xs using List.reverseRecOn with
  | nil => rfl
  | append_singleton xs x ih =>
    rw [List.filter_append, firstOccurrences_concat]
    by_cases hp : p x = true
    · have hmem : x ∈ xs.filter p ↔ x ∈ xs := by
        rw [List.mem_filter, and_iff_left hp]
      rw [List.filter_cons_of_pos hp, List.filter_nil, firstOccurrences_concat, ih]
      by_cases hx : x ∈ xs
      · rw [if_pos hx, if_pos (hmem.mpr hx)]
      · rw [if_neg hx, if_neg (mt hmem.mp hx), List.filter_append, List.filter_cons_of_pos hp,
          List.filter_nil]
    · rw [List.filter_cons_of_neg hp, List.filter_nil, List.append_nil, ih]
      by_cases hx : x ∈ xs
      · rw [if_pos hx]
      · rw [if_neg hx, List.filter_append, List.filter_cons_of_neg hp, List.filter_nil,
          List.append_nil]

/-- Distinct texts, as far as they occur, occur together as often as any of them does. -/
theorem sum_counts {ks : List String} (hks : ks.Nodup) (xs : List String) :
    ((ks.filter (xs.contains ·)).map fun k => xs.count k).sum = xs.countP (ks.contains ·) := by
  rw [← List.sum_map_count_dedup_filter_eq_countP]
  apply List.Perm.sum_eq
  apply List.Perm.map
  apply (List.perm_ext_iff_of_nodup (hks.filter _) (xs.nodup_dedup.filter _)).mpr
  intro x
  simp only [List.mem_filter, List.mem_dedup, List.contains_iff_mem, and_comm]

namespace SessionStore

/-! ### The listing -/

def labels (store : SessionStore) : List String := store.map (·.sourceLabel)

theorem labels_concat (store : SessionStore) (s : Session) :
    labels (store ++ [s]) = labels store ++ [s.sourceLabel] := List.map_append

theorem sourceFiles_concat (store : SessionStore) (s : Session) :
    sourceFiles (store ++ [s]) =
      store.sourceFiles.put s.sourceLabel ((store.sourceFiles.get? s.sourceLabel).getD 0 + 1) := by
  rw [sourceFiles, List.foldl_append]
  rfl

/-- The names that are listed, in order. -/
theorem keys_sourceFiles (store : SessionStore) :
    store.sourceFiles.map Prod.fst = firstOccurrences store.labels := by
  induction store using List.reverseRecOn with
  | nil => rfl
  | append_singleton store s ih =>
    have hknown : s.sourceLabel ∈ (sourceFiles store).map Prod.fst ↔ s.sourceLabel ∈ labels store := by
      rw [ih, mem_firstOccurrences]
    rw [sourceFiles_concat, labels_concat, firstOccurrences_concat]
    by_cases hs : s.sourceLabel ∈ labels store
    · rw [if_pos hs, Keyed.keys_put_of_mem (hknown.mpr hs), ih]
    · rw [if_neg hs, Keyed.put_of_not_mem (mt hknown.mp hs), List.map_append, ih]
      rfl

theorem nodup_keys_sourceFiles (store : SessionStore) :
    (store.sourceFiles.map Prod.fst).Nodup := by
  rw [keys_sourceFiles]
  exact nodup_firstOccurrences _

/-- What is listed under a name: how many sessions have it, if any. -/
theorem get?_sourceFiles (store : SessionStore) (name : String) :
    store.sourceFiles.get? name =
      if name ∈ store.labels then some (store.labels.count name) else none := by
  induction store using List.reverseRecOn with
  | nil => rfl
  | append_singleton store s ih =>
    rw [sourceFiles_concat, Keyed.get?_put, labels_concat, List.count_append]
    by_cases hname : name = s.sourceLabel
    · -- the label of the session itself, which is counted from zero if it is new
      subst hname
      rw [ih]
      by_cases hknown : s.sourceLabel ∈ labels store
      · simp [hknown]
      · simp [hknown, List.count_eq_zero_of_not_mem hknown]
    · rw [ih]
      simp [hname, Ne.symm hname]

theorem sourceFiles_eq (store : SessionStore) :
    store.sourceFiles =
      (firstOccurrences store.labels).map fun name => (name, store.labels.count name) := by
  calc
    store.sourceFiles = store.sourceFiles.filterMap some := List.filterMap_some.symm
    _ = (firstOccurrences store.labels).filterMap fun name =>
        (store.sourceFiles.get? name).bind fun count => some (name, count) := by
      rw [Keyed.filterMap_eq_keys store.nodup_keys_sourceFiles, keys_sourceFiles]
    _ = (firstOccurrences store.labels).map fun name => (name, store.labels.count name) := by
      apply List.filterMap_eq_map_iff_forall_eq_some.mpr
      intro name hname
      rw [get?_sourceFiles, if_pos (mem_firstOccurrences.mp hname)]
      rfl

/-- Every session is counted, and once. -/
theorem sum_sourceFiles (store : SessionStore) : store.sourceFiles.values.sum = store.length := by
  have hall : ∀ name ∈ firstOccurrences store.labels, store.labels.contains name = true := by
    intro name hname
    exact List.contains_iff_mem.mpr (mem_firstOccurrences.mp hname)
  have hsum := sum_counts (nodup_firstOccurrences store.labels) store.labels
  rw [List.filter_eq_self.mpr hall] at hsum
  rw [sourceFiles_eq, Keyed.values, List.map_map]
  refine hsum.trans ?_
  rw [List.countP_eq_length.mpr, labels, List.length_map]
  intro name hname
  exact List.contains_iff_mem.mpr (mem_firstOccurrences.mpr hname)

/-! ### Deleting what is listed -/

section Deleting

variable (store : SessionStore) (names : List String)

theorem labels_deleteFiles :
    (store.deleteFiles names).1.labels = store.labels.filter fun name => !names.contains name := by
  rw [labels, labels, List.filter_map]
  rfl

/-- Of the listing, the entries of the deleted files are gone. -/
theorem sourceFiles_deleteFiles :
    (store.deleteFiles names).1.sourceFiles =
      store.sourceFiles.filter fun file => !names.contains file.1 := by
  rw [sourceFiles_eq, sourceFiles_eq, labels_deleteFiles, firstOccurrences_filter, List.filter_map]
  apply List.map_congr_left
  intro name hname
  have hcount : (store.labels.filter fun name => !names.contains name).count name =
      store.labels.count name := List.count_filter (List.mem_filter.mp hname).2
  rw [hcount]

/-- As many sessions are deleted as have one of the names. -/
theorem snd_deleteFiles : (store.deleteFiles names).2 = store.labels.countP (names.contains ·) := by
  rw [deleteFiles, length_dropWhere, ← List.countP_eq_length_filter, labels, List.countP_map]
  rfl

/-- What is listed under the names, however often each of them is given. -/
theorem filterMap_sourceFiles :
    (firstOccurrences names).filterMap store.sourceFiles.get? =
      ((firstOccurrences names).filter (store.labels.contains ·)).map fun name =>
        store.labels.count name := by
  rw [← List.filterMap_eq_filter, List.map_filterMap]
  apply List.filterMap_congr
  intro name _
  rw [get?_sourceFiles]
  by_cases hname : name ∈ store.labels
  · simp [hname, Option.guard]
  · simp [hname, Option.guard]

/-- **What is listed is what is deleted.**  A deletion of source files takes away as many
    sessions as the listing shows for those of the names that it has, each counted once.
    The listing is then the one before without these names, the others in their order
    and with their counts.  It lists no name twice, and its counts add up to the number
    of sessions. -/
theorem deleteFiles_listed :
    (store.deleteFiles names).2 = ((firstOccurrences names).filterMap store.sourceFiles.get?).sum ∧
      (store.deleteFiles names).1.sourceFiles =
        store.sourceFiles.filter (fun file => !names.contains file.1) ∧
      store.sourceFiles.values.sum = store.length ∧ store.sourceFiles.keys.Nodup := by
  refine ⟨?_, store.sourceFiles_deleteFiles names, store.sum_sourceFiles,
    store.nodup_keys_sourceFiles⟩
  have hsame : ∀ name, (firstOccurrences names).contains name = names.contains name := by
    intro name
    rw [Bool.eq_iff_iff, List.contains_iff_mem, List.contains_iff_mem, mem_firstOccurrences]
  rw [snd_deleteFiles, filterMap_sourceFiles, sum_counts (nodup_firstOccurrences names)]
  simp only [hsame]

/-- One session has no file, another comes from a file of the name that stands for none. -/
example :
    let call (id file : String) : Session :=
      { id, target := "", date := "", kind := .audio, content := "", sourceFile := file }
    let store := [call "1" "", call "2" "a.pdf", call "3" "Unknown", call "4" "b.pdf"]
    sourceFiles store = [("Unknown", 2), ("a.pdf", 1), ("b.pdf", 1)] ∧
      (deleteFiles store ["Unknown", "c.pdf", "Unknown"]).2 = 2 ∧
      sourceFiles (deleteFiles store ["Unknown", "c.pdf", "Unknown"]).1 =
        [("a.pdf", 1), ("b.pdf", 1)] := by
  decide +kernel

end Deleting

end SessionStore

end Transcripts
