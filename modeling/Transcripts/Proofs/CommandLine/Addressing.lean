/-
  Transcripts/Proofs/CommandLine/Addressing.lean
  ==============================================
  **Which tags are found by their names.**

  A tag is looked up by its id, or else by its name in any case.  The name that is
  looked for is trimmed and the names of the tags are not, so it matters whether a
  stored name has blanks at its ends.  A name that was given to a tag has none, but a
  name that was loaded is kept as it is.

  A tag with such a name is not found by it: lowering keeps the blanks, so what has
  lost them is no spelling of the name in another case.  The lookup fails, or finds
  another tag; only an id that happens to be the same text makes up for it.
-/
import Transcripts.CommandLine.Response
import Transcripts.Proofs.Tag.Changes
import Transcripts.Proofs.Text.Trimming

namespace Transcripts

open Transcripts.Text

/-! ### Names in a store of tags -/

/-- Ids are distinct, and a tag whose name has blanks at its ends is one of the given
    tags, unchanged. -/
structure TagStore.NamedFrom (given : List Tag) (store : TagStore) : Prop where
  distinct : (store.map (·.id)).Nodup
  named : ∀ t ∈ store, trimmed t.name = t.name ∨ t ∈ given

namespace Workspace

/-- What is done to the tags of a workspace. -/
inductive TagChange where
  | create (stamp : TagStore.Stamp) (name : String) (sessionIds : Option (List String))
  | rename (id name : String)
  | delete (id : String)

def TagChange.edit : TagChange → Edit
  | .create stamp name sessionIds => .createTag stamp name sessionIds
  | .rename id name => .renameTag id name
  | .delete id => .deleteTag id

/-- The workspace after a change of its tags, which may be refused. -/
def change (w : Workspace) (c : TagChange) : Workspace := w.edit c.edit

/-- A new tag is given an id that no tag has. -/
def TagChange.Fresh (w : Workspace) : TagChange → Prop
  | .create stamp .. => stamp.id ∉ w.tags.map (·.id)
  | .rename .. | .delete _ => True

/-- Each new id of a run is fresh when it is given. -/
def FreshChanges : Workspace → List TagChange → Prop
  | _, [] => True
  | w, c :: run => c.Fresh w ∧ FreshChanges (w.change c) run

section Names

variable {w : Workspace} {given : List Tag}

theorem namedFrom_restore (h : (w.tags.map (·.id)).Nodup) (p : Project) :
    (w.restore p).tags.NamedFrom (w.tags ++ p.tags) where
  distinct := TagStore.nodup_ids_extend h p.tags
  named := fun _ ht => .inr (List.mem_append.mpr (TagStore.mem_of_mem_extend ht))

/-- Only loading lets blanks in. -/
theorem namedFrom_change (h : w.tags.NamedFrom given) {c : TagChange} (hfresh : c.Fresh w) :
    (w.change c).tags.NamedFrom given := by
  cases c with
  | create stamp name sessionIds =>
    refine orUnchanged_fst_of (P := fun w => w.tags.NamedFrom given) h fun r hr => ?_
    obtain ⟨tag, hid, hname, hr⟩ := createTag_cases hr
    rw [hr]
    have htrimmed : trimmed tag.name = tag.name := by rw [hname, trimmed_trimmed]
    have hnew : tag.id ∉ w.tags.map (·.id) := by
      rw [hid]
      exact hfresh
    exact {
      distinct := List.nodup_cons.mpr ⟨hnew, h.distinct⟩
      named := List.forall_mem_cons.mpr ⟨.inl htrimmed, h.named⟩ }
  | rename id name =>
    refine orUnchanged_fst_of (P := fun w => w.tags.NamedFrom given) h fun r hr => ?_
    obtain ⟨⟨tags, tag⟩, hrename, hr⟩ := exists_of_bind_eq_ok hr
    have hrename := mapError_eq_ok_iff.mp hrename
    rw [← Except.ok.inj hr]
    refine ⟨?_, fun t ht => ?_⟩
    · show (tags.map (·.id)).Nodup
      rw [TagStore.ids_rename hrename]
      exact h.distinct
    · obtain ⟨found, _, _, rfl⟩ := TagStore.rename_cases hrename
      obtain ⟨old, hold, rfl⟩ := List.mem_map.mp ht
      split
      · exact .inl (trimmed_trimmed name)
      · exact h.named old hold
  | delete id =>
    exact {
      distinct := h.distinct.sublist (List.filter_sublist.map _)
      named := fun t ht => h.named t (List.mem_filter.mp ht).1 }

theorem namedFrom_run (h : w.tags.NamedFrom given) {run : List TagChange} (hfresh : FreshChanges w run) :
    (run.foldl change w).tags.NamedFrom given := by
  induction run generalizing w with
  | nil => exact h
  | cons c run ih => exact ih (namedFrom_change h hfresh.1) hfresh.2

end Names

end Workspace

namespace CommandLine

/-! ### The lookup -/

/-- The name of a tag leads to a stored tag that has it for its id, or that has the same
    name in any case. -/
def Addressed (w : Workspace) (t : Tag) : Prop :=
  ∃ u ∈ w.tags, findTag w t.name = .ok u.id ∧ (u.id = t.name ∨ lowered u.name = lowered t.name)

section Lookup

variable {w : Workspace} {ref : String} {t : Tag}

theorem findTag_of_id (h : ref ∈ w.tags.map (·.id)) : findTag w ref = .ok ref := by
  have hfound : w.tags.get? ref ≠ none := fun hnone => TagStore.get?_eq_none_iff.mp hnone h
  rw [findTag, if_pos (Option.isSome_iff_ne_none.mpr hfound)]

theorem findTag_eq_ok_iff (h : ref ∉ w.tags.map (·.id)) {id : String} :
    findTag w ref = .ok id ↔
      ∃ u, w.tags.find? (fun u => lowered u.name = lowered (trimmed ref)) = some u ∧ u.id = id := by
  rw [findTag, TagStore.get?_eq_none_iff.mpr h]
  simp only [Option.isSome_none, Bool.false_eq_true, if_false]
  split
  · next u hu => simp [hu]
  · next hnone => simp [hnone]

/-- **Which names lead to their tags.** -/
theorem addressed_iff (hdistinct : (w.tags.map (·.id)).Nodup) (ht : t ∈ w.tags) :
    Addressed w t ↔ trimmed t.name = t.name ∨ t.name ∈ w.tags.map (·.id) := by
  by_cases hid : t.name ∈ w.tags.map (·.id)
  · obtain ⟨u, hu, hname⟩ := List.mem_map.mp hid
    refine iff_of_true ⟨u, hu, ?_, .inl hname⟩ (.inr hid)
    rw [hname]
    exact findTag_of_id hid
  · rw [or_iff_left hid]
    constructor
    · rintro ⟨u, hu, hfound, hmeant⟩
      have hlowered : lowered u.name = lowered t.name := by
        refine hmeant.resolve_left fun hname => hid ?_
        rw [← hname]
        exact List.mem_map_of_mem hu
      obtain ⟨v, hv, hsame⟩ := (findTag_eq_ok_iff hid).mp hfound
      obtain rfl : v = u := List.inj_on_of_nodup_map hdistinct (List.mem_of_find?_eq_some hv) hu hsame
      have hwanted : lowered v.name = lowered (trimmed t.name) := by simpa using List.find?_some hv
      exact lowered_trimmed_eq_iff.mp (hwanted.symm.trans hlowered)
    · intro htrimmed
      have hsome : (w.tags.find? fun u => lowered u.name = lowered (trimmed t.name)).isSome = true := by
        rw [List.find?_isSome]
        exact ⟨t, ht, by simp [htrimmed]⟩
      obtain ⟨u, hu⟩ := Option.isSome_iff_exists.mp hsome
      have hwanted : lowered u.name = lowered (trimmed t.name) := by simpa using List.find?_some hu
      refine ⟨u, List.mem_of_find?_eq_some hu, (findTag_eq_ok_iff hid).mpr ⟨u, hu, rfl⟩, .inr ?_⟩
      rw [hwanted, htrimmed]

end Lookup

/-! ### Runs -/

/-- **A listed tag is found by its name, unless blanks were loaded with it.**  Whatever
    was done to the tags of a workspace after a project was merged in, the name of a tag
    leads to it, or to another tag of that name, exactly if the name has no blanks at its
    ends or is itself the id of a tag.  A tag whose name has such blanks was there before
    or came with the project. -/
theorem addressed_iff_of_run {w : Workspace} (hdistinct : (w.tags.map (·.id)).Nodup) (p : Project)
    {run : List Workspace.TagChange} (hfresh : Workspace.FreshChanges (w.restore p) run) :
    let w' := run.foldl Workspace.change (w.restore p)
    ∀ t ∈ w'.tags,
      (Addressed w' t ↔ trimmed t.name = t.name ∨ t.name ∈ w'.tags.map (·.id)) ∧
        (trimmed t.name = t.name ∨ t ∈ w.tags ∨ t ∈ p.tags) := by
  intro w' t ht
  have hnamed : w'.tags.NamedFrom (w.tags ++ p.tags) :=
    Workspace.namedFrom_run (Workspace.namedFrom_restore hdistinct p) hfresh
  refine ⟨addressed_iff hnamed.distinct ht, ?_⟩
  rw [← List.mem_append]
  exact hnamed.named t ht

/-- Two tags with a blank at one end of the name, which is the id of one of them. -/
def paddedProject : Project where
  version := "1.1"
  tags := [
    { id := "t1", name := " gato", timestamp := 0, sessionIds := [] },
    { id := "t2", name := "Rui", timestamp := 0, sessionIds := [] },
    { id := "a ", name := "a ", timestamp := 0, sessionIds := [] }]

/-- A tag is made and another renamed with blanks around the names, and one is renamed
    that is not there. -/
def namingRun : List Workspace.TagChange :=
  [.create ⟨"t3", 0⟩ " GATO " (some []), .rename "t2" " Zé ", .rename "t9" "b", .delete "t9"]

theorem addressed_iff_of_run_padded :
    let w := namingRun.foldl Workspace.change (Workspace.restore {} paddedProject)
    (({} : Workspace).tags.map (·.id)).Nodup ∧
      Workspace.FreshChanges (Workspace.restore {} paddedProject) namingRun ∧
      w.tags.map (fun t => (t.id, t.name)) =
        [("t3", "GATO"), ("t1", " gato"), ("t2", "Zé"), ("a ", "a ")] ∧
      (∀ t ∈ w.tags, Addressed w t ↔ t.id ≠ "t1") ∧ findTag w " gato" = .ok "t3" := by
  intro w
  have hdistinct : (({} : Workspace).tags.map (·.id)).Nodup := List.nodup_nil
  have hfresh : Workspace.FreshChanges (Workspace.restore {} paddedProject) namingRun := by
    refine ⟨?_, trivial, trivial, trivial, trivial⟩
    show "t3" ∉ _
    decide +kernel
  have hnames : ∀ t ∈ w.tags,
      trimmed t.name = t.name ∨ t.name ∈ w.tags.map (·.id) ↔ t.id ≠ "t1" := by decide +kernel
  refine ⟨hdistinct, hfresh, by decide +kernel, fun t ht => ?_, by decide +kernel⟩
  exact ((addressed_iff_of_run hdistinct paddedProject hfresh) t ht).1.trans (hnames t ht)

/-- A project with one tag, which has a blank before its name, as a file has it. -/
def paddedFile : Json :=
  .object [("sessions", .array []), ("savedTags", .array [
    .object [("id", .string "t1"), ("name", .string " gato")]])]

/-- The tag is loaded with its name as it is, and no tag is found by that name. -/
theorem padded_name_is_not_found :
    ∃ p, (Project.ofBytes paddedFile.write.toUTF8.toList).result = .ok p ∧
      let w := Workspace.ofProject p .dateDescending Identity.firstLineSpeaker
      w.tags.map (·.name) = [" gato"] ∧ findTag w " gato" = .error (.tag (.unknownTag " gato")) := by
  have hreads : Project.Reads paddedFile.write.toUTF8.toList (.ok paddedFile) :=
    Project.reads_write (by simp [paddedFile, Json.Within, Json.maxNesting])
  refine ⟨{ version := "1.1", tags := [{ id := "t1", name := " gato", timestamp := 0, sessionIds := [] }] },
    ?_, ?_, ?_⟩
  · rw [Project.ofBytes_of_reads hreads]
    decide +kernel
  · decide +kernel
  · decide +kernel

end CommandLine

end Transcripts
