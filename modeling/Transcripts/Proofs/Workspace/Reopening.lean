/-
  Transcripts/Proofs/Workspace/Reopening.lean
  ===========================================
  **A workspace that is saved is reopened as it was.**

  Reopening merges the saved project into an empty workspace.  The merge drops
  sessions and tags with an id that is known, drops aliases with an empty side,
  and flattens chains, so a workspace comes back only if none of this finds
  anything to do.  That is so for every workspace that began empty: whatever is
  done to it keeps its collections sound, and sound collections are merged into
  empty ones unchanged.

  The search reads nothing else of a workspace than these collections and what it
  is asked for, so both workspaces answer every search alike.

  The projects that are merged in have plain texts.  A surrogate in one of them
  would stay in the workspace, which then could not be saved.
-/
import Transcripts.Proofs.Identity.Flatness
import Transcripts.Proofs.Project.RoundTrip
import Transcripts.Proofs.Workspace.Stores
import Transcripts.Workspace.Basic

namespace Transcripts

open Transcripts.Identity
open Transcripts.Search
open Transcripts.Text

namespace Workspace

/-! ### Editing a workspace -/

/-- What changes the contents of a workspace, not what is searched for.  Merging in a
    project does so as well, but is kept apart. -/
inductive Edit where
  | mergeAlias (raws : List String) (display : String)
  | createTag (stamp : TagStore.Stamp) (name : String) (sessionIds : Option (List String))
  | renameTag (id name : String)
  | deleteTag (id : String)
  | deleteSessions (ids : List String)
  | deleteSourceFiles (names : List String)
  | link (id ref : String)
  | unlink (id ref : String)
  | removeReference (ref : String)

/-- What an operation gives, or the workspace as it was if the operation is refused. -/
def orUnchanged {ε : Type} (w : Workspace) : Except ε Workspace → Workspace
  | .ok w' => w'
  | .error _ => w

def edit (w : Workspace) : Edit → Workspace
  | .mergeAlias raws display => w.orUnchanged (w.mergeAlias raws display)
  | .createTag stamp name ids => w.orUnchanged ((w.createTag stamp name ids).map (·.1))
  | .renameTag id name => w.orUnchanged ((w.renameTag id name).map (·.1))
  | .deleteTag id => (w.deleteTag id).1
  | .deleteSessions ids => (w.deleteSessions ids).1
  | .deleteSourceFiles names => (w.deleteSourceFiles names).1
  | .link id ref => w.orUnchanged ((w.link id ref).map (·.1))
  | .unlink id ref => w.orUnchanged ((w.unlink id ref).map (·.1))
  | .removeReference ref => w.orUnchanged ((w.removeReference ref).map (·.1))

/-- The id of a new tag is fresh, and the clock reads a number that can be written. -/
def Edit.Permitted (w : Workspace) : Edit → Prop
  | .createTag stamp _ _ => stamp.id ∉ w.tags.map (·.id) ∧ Json.FitsDigits stamp.timestamp
  | _ => True

/-- The workspaces that editing, and merging in the projects of files, lead to from an
    empty one. -/
inductive Reached (sort : SortOption) (speaker : SpeakerFinder) : Workspace → Prop where
  | start : Reached sort speaker { sort, speaker }
  | edit {w : Workspace} (h : Reached sort speaker w) (e : Edit) (permitted : e.Permitted w) :
      Reached sort speaker (w.edit e)
  | restore {w : Workspace} (h : Reached sort speaker w) (file : List UInt8) (p : Project)
      (loaded : (Project.load file).result = .ok (p.lift : Project RawText)) :
      Reached sort speaker (w.restore p)

/-! ### Each operation keeps the collections sound -/

/-- Each collection of a workspace is sound. -/
structure Sound (w : Workspace) : Prop where
  sessions : SessionStore.Sound w.sessions
  aliases : AliasMap.Tidy w.aliases
  tags : TagStore.Sound w.tags
  legal : LegalRegistry.Sound w.legal

theorem sound_start (sort : SortOption) (speaker : SpeakerFinder) :
    Sound { sort, speaker } where
  sessions := SessionStore.sound_nil
  aliases := AliasMap.tidy_nil
  tags := TagStore.sound_nil
  legal := LegalRegistry.sound_nil

/-- What an edit keeps: the collections are sound, and what is searched for stays as
    it was, less the tags and sessions that are gone. -/
structure Preserves (w w' : Workspace) : Prop where
  sound : w'.Sound
  filters : w'.filters = w.filters := by rfl
  viewOnly : w'.viewOnly = w.viewOnly := by rfl
  sort : w'.sort = w.sort := by rfl
  speaker : w'.speaker = w.speaker := by rfl
  activeTags : w'.activeTags.Sublist w.activeTags := by exact List.Sublist.refl _
  selection : w'.selection.Sublist w.selection := by exact List.Sublist.refl _

section Step

variable {w w' : Workspace}

/-- What holds before an operation and after it, if it is not refused, holds after it. -/
theorem orUnchanged_of {ε : Type} {P : Workspace → Prop} (h : P w) {result : Except ε Workspace}
    (hresult : ∀ w', result = .ok w' → P w') : P (w.orUnchanged result) := by
  cases result with
  | error fault => exact h
  | ok w' => exact hresult w' rfl

theorem orUnchanged_fst_of {ε α : Type} {P : Workspace → Prop} (h : P w)
    {result : Except ε (Workspace × α)} (hresult : ∀ r, result = .ok r → P r.1) :
    P (w.orUnchanged (result.map (·.1))) := by
  refine orUnchanged_of (P := P) h fun w' hw' => ?_
  obtain ⟨r, hr, rfl⟩ := exists_of_map_eq_ok hw'
  exact hresult r hr

theorem preserves_mergeAlias (h : w.Sound) {raws : List String} {display : String}
    (hmerge : w.mergeAlias raws display = .ok w') : Preserves w w' := by
  obtain ⟨aliases, haliases, hw'⟩ := exists_of_bind_eq_ok hmerge
  rw [← Except.ok.inj hw']
  exact { sound := { h with
    aliases := AliasMap.tidy_merge h.aliases (mapError_eq_ok_iff.mp haliases) } }

/-- Wherever the sessions of a new tag come from, it is made in the same way. -/
theorem createTag_creates {stamp : TagStore.Stamp} {name : String} {sessionIds : Option (List String)}
    {r : Workspace × Tag} (hcreate : w.createTag stamp name sessionIds = .ok r) :
    ∃ ids fromSelection tags, w.tags.create stamp name ids none fromSelection = .ok (tags, r.2) ∧
      r.1 = { w with tags } := by
  have hnamed (ids : List String) (fromSelection : Bool)
      (hr : ((w.tags.create stamp name ids none fromSelection).mapError WorkspaceFault.tag >>=
        fun created => pure ({ w with tags := created.1 }, created.2)) = .ok r) :
      ∃ ids fromSelection tags, w.tags.create stamp name ids none fromSelection = .ok (tags, r.2) ∧
        r.1 = { w with tags } := by
    obtain ⟨⟨tags, tag⟩, htags, hr⟩ := exists_of_bind_eq_ok hr
    rw [← Except.ok.inj hr]
    exact ⟨ids, fromSelection, tags, mapError_eq_ok_iff.mp htags, rfl⟩
  unfold createTag at hcreate
  cases sessionIds with
  | some ids => exact hnamed ids false hcreate
  | none =>
    simp only at hcreate
    split at hcreate
    · obtain ⟨ids, _, hcreate⟩ := exists_of_bind_eq_ok hcreate
      exact hnamed ids false hcreate
    · exact hnamed _ true hcreate

theorem preserves_createTag (h : w.Sound) {stamp : TagStore.Stamp} {name : String}
    {sessionIds : Option (List String)} {r : Workspace × Tag} (hid : stamp.id ∉ w.tags.map (·.id))
    (htime : Json.FitsDigits stamp.timestamp)
    (hcreate : w.createTag stamp name sessionIds = .ok r) : Preserves w r.1 := by
  obtain ⟨ids, fromSelection, tags, htags, hr⟩ := createTag_creates hcreate
  rw [hr]
  exact { sound := { h with tags := TagStore.sound_create h.tags hid htime htags } }

theorem preserves_renameTag (h : w.Sound) {id name : String} {r : Workspace × Tag}
    (hrename : w.renameTag id name = .ok r) : Preserves w r.1 := by
  obtain ⟨⟨tags, tag⟩, htags, hr⟩ := exists_of_bind_eq_ok hrename
  rw [← Except.ok.inj hr]
  exact { sound := { h with
    tags := TagStore.sound_rename h.tags (mapError_eq_ok_iff.mp htags) } }

/-- To modify a session is to modify it in the store. -/
theorem modifySession_cases {id : String} {change : Session → Session} {r : Workspace × Session}
    (hmodify : w.modifySession id change = .ok r) :
    ∃ sessions, w.sessions.modify? id change = some (sessions, r.2) ∧ r.1 = { w with sessions } := by
  rw [modifySession] at hmodify
  split at hmodify
  · next sessions s hsessions =>
    rw [← Except.ok.inj hmodify]
    exact ⟨sessions, hsessions, rfl⟩
  · simp at hmodify

theorem preserves_modifySession (h : w.Sound) {id : String} {change : Session → Session}
    {r : Workspace × Session} (hmodify : w.modifySession id change = .ok r)
    (hid : ∀ s : Session, (change s).id = s.id)
    (hstorable : ∀ s : Session, s.Storable → (change s).Storable) : Preserves w r.1 := by
  obtain ⟨sessions, hsessions, hr⟩ := modifySession_cases hmodify
  rw [hr]
  exact { sound := { h with
    sessions := SessionStore.sound_modify h.sessions hid hstorable hsessions } }

theorem preserves_link (h : w.Sound) {id ref : String} {r : Workspace × Session}
    (hlink : w.link id ref = .ok r) : Preserves w r.1 := by
  rw [link] at hlink
  split at hlink
  · exact preserves_modifySession h hlink (fun _ => rfl) fun _ hs => Session.storable_link hs ref
  · simp at hlink

theorem preserves_unlink (h : w.Sound) {id ref : String} {r : Workspace × Session}
    (hunlink : w.unlink id ref = .ok r) : Preserves w r.1 :=
  preserves_modifySession h hunlink (fun _ => rfl) fun _ hs => Session.storable_unlink hs ref

theorem preserves_removeReference (h : w.Sound) {ref : String} {r : Workspace × Nat}
    (hremove : w.removeReference ref = .ok r) : Preserves w r.1 := by
  rw [removeReference] at hremove
  split at hremove
  · simp at hremove
  · next legal hlegal =>
    rw [← Except.ok.inj hremove]
    exact { sound := { h with
      legal := LegalRegistry.sound_remove h.legal hlegal
      sessions := SessionStore.sound_unlinkEverywhere h.sessions ref } }

theorem preserves_restore (h : w.Sound) {p : Project} (hp : p.Storable) :
    Preserves w (w.restore p) where
  sound := {
    sessions := SessionStore.sound_addAll h.sessions hp.sessions
    aliases := AliasMap.tidy_update h.aliases p.aliases
    tags := TagStore.sound_extend h.tags hp.tags
    legal := LegalRegistry.sound_extend h.legal hp.legalReferences }

theorem preserves_edit (h : w.Sound) {e : Edit} (permitted : e.Permitted w) :
    Preserves w (w.edit e) := by
  have hself : Preserves w w := { sound := h }
  cases e with
  | mergeAlias raws display =>
    exact orUnchanged_of (P := Preserves w) hself fun _ hw' => preserves_mergeAlias h hw'
  | createTag stamp name ids =>
    exact orUnchanged_fst_of (P := Preserves w) hself fun _ hr =>
      preserves_createTag h permitted.1 permitted.2 hr
  | renameTag id name =>
    exact orUnchanged_fst_of (P := Preserves w) hself fun _ hr => preserves_renameTag h hr
  | deleteTag id =>
    exact {
      sound := { h with tags := TagStore.sound_delete h.tags id }
      activeTags := List.filter_sublist }
  | deleteSessions ids =>
    exact {
      sound := { h with sessions := SessionStore.sound_filter h.sessions _ }
      selection := List.filter_sublist }
  | deleteSourceFiles names =>
    exact {
      sound := { h with sessions := SessionStore.sound_filter h.sessions _ }
      selection := List.filter_sublist }
  | link id ref => exact orUnchanged_fst_of (P := Preserves w) hself fun _ hr => preserves_link h hr
  | unlink id ref => exact orUnchanged_fst_of (P := Preserves w) hself fun _ hr => preserves_unlink h hr
  | removeReference ref =>
    exact orUnchanged_fst_of (P := Preserves w) hself fun _ hr => preserves_removeReference h hr

theorem storable_of_loaded {file : List UInt8} {p : Project}
    (loaded : (Project.load file).result = .ok (p.lift : Project RawText)) : p.Storable :=
  Project.storable_lift_iff.mp (Project.storable_of_load loaded)

end Step

/-! ### Whatever is done to an empty workspace -/

section Reached

variable {sort : SortOption} {speaker : SpeakerFinder} {w : Workspace}

theorem sound_of_reached (h : Reached sort speaker w) : w.Sound := by
  induction h with
  | start => exact sound_start sort speaker
  | edit _ e permitted ih => exact (preserves_edit ih permitted).sound
  | restore _ file p loaded ih => exact (preserves_restore ih (storable_of_loaded loaded)).sound

/-- Editing alone neither searches nor selects. -/
theorem atRest_of_reached (h : Reached sort speaker w) :
    w.filters = {} ∧ w.activeTags = [] ∧ w.selection = [] ∧ w.viewOnly = false ∧
      w.sort = sort ∧ w.speaker = speaker := by
  induction h with
  | start => exact ⟨rfl, rfl, rfl, rfl, rfl, rfl⟩
  | restore _ file p loaded ih => exact ih
  | edit hreached e permitted ih =>
    obtain ⟨hfilters, hactive, hselection, hview, hsort, hspeaker⟩ := ih
    have hkept := preserves_edit (sound_of_reached hreached) permitted
    refine ⟨hkept.filters.trans hfilters, ?_, ?_, hkept.viewOnly.trans hview,
      hkept.sort.trans hsort, hkept.speaker.trans hspeaker⟩
    · exact List.eq_nil_of_sublist_nil (hactive ▸ hkept.activeTags)
    · exact List.eq_nil_of_sublist_nil (hselection ▸ hkept.selection)

/-! ### Saving and reopening -/

theorem storable_snapshot (h : w.Sound) : w.snapshot.Storable where
  version := show (Project.currentVersion : String) ≠ "" by decide
  sessions := h.sessions.storable
  tags := h.tags.storable
  aliases := h.aliases.distinct
  legalReferences := by
    intro r hr
    obtain ⟨entry, hentry, rfl⟩ := List.mem_map.mp hr
    exact h.legal.storable entry hentry

/-- Sound collections are merged into empty ones unchanged. -/
theorem ofProject_snapshot (h : w.Sound) (sort : SortOption) (speaker : SpeakerFinder) :
    ofProject w.snapshot sort speaker =
      { sessions := w.sessions, aliases := w.aliases, tags := w.tags, legal := w.legal,
        sort, speaker } := by
  have hsessions : SessionStore.addAll [] w.sessions = w.sessions :=
    SessionStore.addAll_nil_of_distinct h.sessions.distinct
  have haliases : AliasMap.update [] w.aliases = w.aliases := AliasMap.update_nil_of_tidy h.aliases
  have htags : TagStore.extend [] w.tags = w.tags := TagStore.extend_of_distinct h.tags.distinct
  have hlegal : LegalRegistry.extend [] w.legal.all = w.legal := LegalRegistry.extend_nil_all h.legal
  simp only [ofProject, restore, Stores.restore, snapshot, Stores.snapshot, hsessions, haliases,
    htags, hlegal]

/-- **A workspace is reopened as it was saved.**  A workspace that editing and files
    without surrogates lead to from an empty one is saved as a text that is loaded
    without a warning.  What is reopened from it has the same sessions, tags, aliases
    and legal references in the same order, and answers every search as the
    workspace itself does. -/
theorem reopens_as_saved (h : Reached sort speaker w) (sort' : SortOption) :
    ∃ (text : String) (p : Project), Project.save w.snapshot.lift = .ok text ∧
      Project.load text.toUTF8.toList = ⟨[], .ok (p.lift : Project RawText)⟩ ∧
      ofProject p sort' speaker = { w with sort := sort' } ∧
      ∀ (inputs : SearchInputs) (option : SortOption),
        ((ofProject p sort' speaker).commit { inputs with sort := some option }).search =
          (w.commit { inputs with sort := some option }).search := by
  have hsound := sound_of_reached h
  have hreopened : ofProject w.snapshot sort' speaker = { w with sort := sort' } := by
    obtain ⟨hfilters, hactive, hselection, hview, _, hspeaker⟩ := atRest_of_reached h
    rw [ofProject_snapshot hsound, hfilters, hactive, hselection, hview, hspeaker]
  refine ⟨w.snapshot.toText, w.snapshot, Project.save_lift _,
    Project.load_toText (storable_snapshot hsound), hreopened, ?_⟩
  intro inputs option
  rw [hreopened]
  rfl

end Reached

/-- A project with a session and a tag that come twice, and with a chain and a
    circle of aliases. -/
def repetitiveProject : Project where
  version := "1"
  sessions := [
    { id := "S1", target := "", date := "1.2.2024", kind := .sms, content := "" },
    { id := "S2", target := "", date := "", kind := .audio, content := "olá" },
    { id := "S1", target := "", date := "", kind := .audio, content := "", legalReferenceIds := ["r2"] }]
  tags := [
    { id := "t1", name := "a", timestamp := 0, sessionIds := [] },
    { id := "t1", name := "b", timestamp := 0, sessionIds := ["S1"] }]
  aliases := [("Zé", "Zeca"), ("Zeca", "José"), ("x", "y"), ("y", "x"), ("", "z")]
  legalReferences := [
    { id := "r1", category := .fact, label := "a" }, { id := "r2", category := .tag, label := "b" }]

def editedWorkspace : Workspace :=
  [.mergeAlias ["José"] " Zé ", .createTag ⟨"t2", 1700000001000⟩ "all" (some ["S2", "S1", "S2"]),
    .link "S2" "r1", .removeReference "r2", .deleteSessions ["S1"]].foldl edit
      (restore {} repetitiveProject)

theorem reopens_as_saved_edited :
    Reached .dateDescending firstLineSpeaker editedWorkspace ∧
      (editedWorkspace.sessions.map fun s => (s.id, s.legalReferenceIds)) = [("S2", ["r1"])] ∧
      (editedWorkspace.tags.map fun t => (t.id, t.sessionIds)) = [("t2", ["S2", "S1"]), ("t1", [])] ∧
      editedWorkspace.aliases = [("Zeca", "Zé"), ("José", "Zé")] ∧
      ∃ (text : String) (p : Project), Project.save editedWorkspace.snapshot.lift = .ok text ∧
        Project.load text.toUTF8.toList = ⟨[], .ok (p.lift : Project RawText)⟩ ∧
        ofProject p .sourceName firstLineSpeaker = { editedWorkspace with sort := .sourceName } ∧
        ∀ (inputs : SearchInputs) (option : SortOption),
          ((ofProject p .sourceName firstLineSpeaker).commit { inputs with sort := some option }).search =
            (editedWorkspace.commit { inputs with sort := some option }).search := by
  have hstart : Reached .dateDescending firstLineSpeaker {} := .start
  have hrestored : Reached .dateDescending firstLineSpeaker (restore {} repetitiveProject) := by
    refine hstart.restore repetitiveProject.toText.toUTF8.toList repetitiveProject ?_
    rw [Project.load_toText (by decide +kernel)]
  have hmerged := hrestored.edit (.mergeAlias ["José"] " Zé ") trivial
  have htagged := hmerged.edit (.createTag ⟨"t2", 1700000001000⟩ "all" (some ["S2", "S1", "S2"]))
    ⟨by decide +kernel, by decide +kernel⟩
  have hlinked := htagged.edit (.link "S2" "r1") trivial
  have hremoved := hlinked.edit (.removeReference "r2") trivial
  have hdeleted := hremoved.edit (.deleteSessions ["S1"]) trivial
  exact ⟨hdeleted, by decide +kernel, by decide +kernel, by decide +kernel,
    reopens_as_saved hdeleted .sourceName⟩

/-- What a file with a surrogate leaves in empty stores cannot be saved. -/
theorem restored_surrogate_is_not_saved :
    (Project.load Project.surrogateFile).result = .ok (Project.surrogateProject 0) ∧
      (Stores.restore {} (Project.surrogateProject 0)).snapshot.save = .error ⟨0, 1, 0⟩ ∧
      ¬ ∃ text, (Stores.restore {} (Project.surrogateProject 0)).snapshot.save = .ok text := by
  have hsave : (Stores.restore {} (Project.surrogateProject 0)).snapshot.save =
      .error ⟨0, 1, 0⟩ := by
    decide +kernel
  refine ⟨by decide +kernel, hsave, ?_⟩
  rintro ⟨text, htext⟩
  exact absurd (hsave.symm.trans htext) (by simp)

end Workspace

end Transcripts
