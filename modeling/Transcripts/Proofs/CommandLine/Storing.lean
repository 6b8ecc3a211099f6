/-
  Transcripts/Proofs/CommandLine/Storing.lean
  ===========================================
  **When a run writes the project file.**

  A run that fails, or that only looks at the project, leaves every file as it
  was; any other run writes the project file.  What a command stores before it
  fails stays stored, so this depends on the order in which a command does things:
  one that changes the workspace stores it once, after the last step that can fail.
-/
import Transcripts.CommandLine.Run
import Transcripts.Yaml.Reader

namespace Transcripts.CommandLine

open Transcripts.Files

/-! ### What an action stores -/

namespace Action

variable {α β : Type}

@[simp] theorem stored_pure (x : α) : (pure x : Action α).stored = [] := rfl

@[simp] theorem stored_attempt (result : Except CommandFault α) : (attempt result).stored = [] := rfl

@[simp] theorem stored_print (lines : List String) : (print lines).stored = [] := by
  simp [print, stored, Step.stored?, Function.comp_def]

theorem stored_bind_of_ok {first : Action α} {x : α} (next : α → Action β)
    (h : first.result = .ok x) : (first >>= next).stored = first.stored ++ (next x).stored := by
  simp [bind, h, stored]

theorem result_bind_of_ok {first : Action α} {x : α} (next : α → Action β)
    (h : first.result = .ok x) : (first >>= next).result = (next x).result := by
  simp [bind, h]

theorem stored_bind_of_error {first : Action α} {fault : CommandFault} (next : α → Action β)
    (h : first.result = .error fault) : (first >>= next).stored = first.stored := by
  simp [bind, h, stored]

theorem result_bind_of_error {first : Action α} {fault : CommandFault} (next : α → Action β)
    (h : first.result = .error fault) : (first >>= next).result = .error fault := by
  simp [bind, h]

/-- An action that stores nothing. -/
def Reads (a : Action α) : Prop := a.stored = []

/-- An action that stores one workspace, and none if it fails. -/
def Commits (a : Action α) : Prop :=
  match a.result with
  | .ok _ => ∃ w, a.stored = [w]
  | .error _ => a.stored = []

theorem Reads.bind {first : Action α} {next : α → Action β} (hfirst : first.Reads)
    (hnext : ∀ x, (next x).Reads) : (first >>= next).Reads := by
  cases h : first.result with
  | ok x => rw [Reads, stored_bind_of_ok next h, hfirst, hnext x, List.append_nil]
  | error fault => rw [Reads, stored_bind_of_error next h, hfirst]

/-- What fails before the last part of an action has stored nothing. -/
theorem Reads.bind_commits {first : Action α} {next : α → Action β} (hfirst : first.Reads)
    (hnext : ∀ x, (next x).Commits) : (first >>= next).Commits := by
  cases h : first.result with
  | ok x =>
    rw [Commits, result_bind_of_ok next h, stored_bind_of_ok next h, hfirst, List.nil_append]
    exact hnext x
  | error fault =>
    rw [Commits, result_bind_of_error next h]
    exact (stored_bind_of_error next h).trans hfirst

theorem reads_forM {f : α → Action Unit} (hf : ∀ x, (f x).Reads) (xs : List α) :
    (xs.forM f).Reads := by
  induction xs with
  | nil => exact stored_pure ()
  | cons x xs ih => exact (hf x).bind fun _ => ih

theorem reads_tryOn (result : Except WorkspaceFault α) : (tryOn result).Reads := stored_attempt _

theorem reads_shown (lines : List String) : (shown lines).Reads :=
  Reads.bind (stored_print lines) fun _ => stored_pure none

theorem commits_changed (w : Workspace) (lines : List String) (created : Option Tag) :
    (changed w lines created).Commits := by
  have htold : (do print lines; return created : Response).stored = [] :=
    Reads.bind (stored_print lines) fun _ => stored_pure created
  refine ⟨w, ?_⟩
  rw [changed, stored_bind_of_ok (x := ()) _ rfl, htold]
  rfl

end Action

/-! ### What a command stores -/

/-- Whether a command asks for a change of the project.  A search does if its result is
    to be saved as a tag. -/
def Command.changes : Command → Bool
  | .search request => request.saveTag.isSome
  | .identities .. | .listTags | .listFiles => false
  | .mergeAlias .. | .renameTag .. | .deleteTag _ | .deleteFiles _ | .deleteSessions _ => true

section Respond

variable (stamp : TagStore.Stamp) (usualLimit : Nat) (w : Workspace)

theorem reads_search {request : SearchRequest} (hrequest : request.saveTag = none) :
    (search stamp usualLimit w request).Reads := by
  apply (Action.reads_tryOn _).bind
  rintro ⟨w, sessions⟩
  apply Action.Reads.bind (Action.stored_print _)
  intro _
  rw [hrequest]
  exact Action.stored_pure none

theorem commits_search {request : SearchRequest} {name : String}
    (hrequest : request.saveTag = some name) :
    (search stamp usualLimit w request).Commits := by
  apply (Action.reads_tryOn _).bind_commits
  rintro ⟨w, sessions⟩
  apply Action.Reads.bind_commits (Action.stored_print _)
  intro _
  rw [hrequest]
  -- the results are printed by now, and the name may still be refused
  apply (Action.reads_tryOn _).bind_commits
  rintro ⟨w, tag⟩
  exact Action.commits_changed w _ (some tag)

theorem reads_listTags : (listTags w).Reads := by
  rw [listTags]
  split
  · exact Action.reads_shown _
  · apply Action.Reads.bind (Action.stored_print _)
    intro _
    refine Action.Reads.bind (Action.reads_forM (fun tag => ?_) w.tags) fun _ => Action.stored_pure none
    exact Action.Reads.bind (Action.stored_attempt _) fun _ => Action.stored_print _

/-- A command that asks for no change stores nothing. -/
theorem reads_respond {command : Command} (h : command.changes = false) :
    (respond stamp usualLimit w command).Reads := by
  cases command with
  | search request => exact reads_search stamp usualLimit w (by simpa [Command.changes] using h)
  | identities which raw =>
    rw [respond, identities]
    split <;> exact Action.reads_shown _
  | listTags => exact reads_listTags w
  | listFiles =>
    rw [respond, listFiles]
    split <;> exact Action.reads_shown _
  | mergeAlias | renameTag | deleteTag | deleteFiles | deleteSessions => simp [Command.changes] at h

/-- A command that asks for a change stores one workspace, unless it fails. -/
theorem commits_respond {command : Command} (h : command.changes = true) :
    (respond stamp usualLimit w command).Commits := by
  cases command with
  | search request =>
    obtain ⟨name, hname⟩ := Option.isSome_iff_exists.mp h
    exact commits_search stamp usualLimit w hname
  | mergeAlias display raws =>
    apply (Action.reads_tryOn _).bind_commits
    intro w
    exact Action.commits_changed w _ none
  | renameTag tag name =>
    apply (Action.reads_tryOn _).bind_commits
    intro id
    apply (Action.reads_tryOn _).bind_commits
    rintro ⟨w, tag⟩
    exact Action.commits_changed w _ none
  | deleteTag tag =>
    apply (Action.reads_tryOn _).bind_commits
    intro id
    exact Action.commits_changed (w.deleteTag id).1 _ none
  | deleteFiles names => exact Action.commits_changed _ _ none
  | deleteSessions ids => exact Action.commits_changed _ _ none
  | identities | listTags | listFiles => simp [Command.changes] at h

end Respond

/-! ### What a run writes -/

/-- Whether arguments ask for a change of the project. -/
def asksForChange (arguments : List String) : Bool :=
  ((Invocation.ofArguments arguments).toOption.bind (·.command)).any Command.changes

/-- A run that comes to a command carries it out on the project.  Any other run writes
    nothing, and ends well only if no change is asked for. -/
theorem run_cases (s : Surroundings) (arguments : List String) :
    (∃ (command : Command) (settings : Settings) (w : Workspace),
      asksForChange arguments = command.changes ∧
      projectPath? s arguments = some settings.projectPath ∧
      run s arguments =
        .ofResponse settings.projectPath (respond s.stamp settings.defaultLimit w command)) ∨
    ((run s arguments).saved = [] ∧
      ((run s arguments).exitCode = 0 → asksForChange arguments = false)) := by
  cases hi : Invocation.ofArguments arguments with
  | error stop =>
    right
    constructor
    · rw [run, hi]
      cases stop <;> rfl
    · intro _
      rw [asksForChange, hi]
      rfl
  | ok i =>
    cases hsettings : settingsOf s i with
    | error fault =>
      have hrun : run s arguments = .failing (.failure fault) := by simp only [run, hi, hsettings]
      rw [hrun]
      exact .inr ⟨rfl, fun hwell => absurd hwell Nat.one_ne_zero⟩
    | ok settings =>
      cases hcommand : i.command with
      | none =>
        right
        constructor
        · simp only [run, hi, hsettings, hcommand]
          rfl
        · intro _
          simp [asksForChange, hi, Except.toOption, hcommand]
      | some command =>
        have hrun : run s arguments = runCommand s settings command := by
          simp only [run, hi, hsettings, hcommand]
        rw [hrun, runCommand]
        cases openWorkspace s.files settings with
        | error fault => exact .inr ⟨rfl, fun hwell => absurd hwell Nat.one_ne_zero⟩
        | ok w =>
          refine .inl ⟨command, settings, w, ?_, ?_, rfl⟩
          · simp [asksForChange, hi, Except.toOption, hcommand]
          · simp [projectPath?, hi, Except.toOption, hsettings]

section OfResponse

variable {response : Response} (path : Path)

/-- What is stored is saved, in the same order. -/
theorem saved_ofResponse (response : Response) :
    (Outcome.ofResponse path response).saved = response.stored.map fun w => (path, storedBytes w) := by
  rw [Outcome.saved, Outcome.ofResponse, List.filterMap_map, Action.stored, List.map_filterMap]
  congr 1
  funext step
  cases step <;> rfl

theorem saved_of_reads (h : response.Reads) : (Outcome.ofResponse path response).saved = [] := by
  rw [saved_ofResponse, h, List.map_nil]

theorem saved_of_commits (h : response.Commits) :
    (∃ w, (Outcome.ofResponse path response).saved = [(path, storedBytes w)] ∧
      (Outcome.ofResponse path response).exitCode = 0) ∨
    ((Outcome.ofResponse path response).saved = [] ∧
      (Outcome.ofResponse path response).exitCode ≠ 0) := by
  rw [Action.Commits] at h
  cases hresult : response.result with
  | ok created =>
    rw [hresult] at h
    obtain ⟨w, hw⟩ := h
    refine .inl ⟨w, ?_, by simp [Outcome.ofResponse, Outcome.exitCode, hresult]⟩
    rw [saved_ofResponse, hw, List.map_singleton]
  | error fault =>
    rw [hresult] at h
    refine .inr ⟨saved_of_reads path h, ?_⟩
    simp [Outcome.ofResponse, Outcome.exitCode, hresult, Problem.exitCode]

end OfResponse

/-- A run that fails, or that is not asked for a change, writes no file. -/
theorem saved_run_eq_nil {s : Surroundings} {arguments : List String}
    (h : (run s arguments).exitCode ≠ 0 ∨ asksForChange arguments = false) :
    (run s arguments).saved = [] := by
  rcases run_cases s arguments with ⟨command, settings, w, hasks, _, hrun⟩ | ⟨hnone, _⟩
  · rw [hasks] at h
    rw [hrun] at h ⊢
    cases hchanges : command.changes with
    | false => exact saved_of_reads _ (reads_respond _ _ _ hchanges)
    | true =>
      have hfails := h.resolve_right (by simp [hchanges])
      rcases saved_of_commits settings.projectPath
          (commits_respond s.stamp settings.defaultLimit w hchanges) with ⟨_, _, hwell⟩ | ⟨hnone, _⟩
      · exact absurd hwell hfails
      · exact hnone
  · exact hnone

/-- A run that is asked for a change and does not fail writes the project file. -/
theorem saved_run_of_change {s : Surroundings} {arguments : List String}
    (hwell : (run s arguments).exitCode = 0) (hchange : asksForChange arguments = true) :
    ∃ path w, projectPath? s arguments = some path ∧
      (run s arguments).saved = [(path, storedBytes w)] := by
  rcases run_cases s arguments with ⟨command, settings, w, hasks, hpath, hrun⟩ | ⟨_, hnot⟩
  · rw [hrun] at hwell ⊢
    have hchanges : command.changes = true := hasks.symm.trans hchange
    rcases saved_of_commits settings.projectPath
        (commits_respond s.stamp settings.defaultLimit w hchanges) with ⟨w', hsaved, _⟩ | ⟨_, hfails⟩
    · exact ⟨settings.projectPath, w', hpath, hsaved⟩
    · exact absurd hwell hfails
  · exact absurd (hnot hwell) (by simp [hchange])

/-- **When files change.**  A run that fails, or that is not asked for a change of the
    project, leaves all files as they were.  Any other run writes the project file. -/
theorem filesAfter_run (environment : Environment) (users : Users) (files : Tree)
    (readSettings : Settings.Reader) (logLevels : List String) (stamp : TagStore.Stamp)
    (arguments : List String) :
    let s : Surroundings :=
      { environment, users, files := files.read, readSettings, logLevels, stamp }
    let outcome := run s arguments
    (outcome.exitCode ≠ 0 ∨ asksForChange arguments = false → outcome.filesAfter files = files) ∧
      (outcome.exitCode = 0 → asksForChange arguments = true →
        ∃ path w, projectPath? s arguments = some path ∧
          outcome.filesAfter files = files.write path (storedBytes w)) := by
  intro s outcome
  constructor
  · intro h
    rw [Outcome.filesAfter, saved_run_eq_nil h, List.foldl_nil]
  · intro hwell hchange
    obtain ⟨path, w, hpath, hsaved⟩ := saved_run_of_change hwell hchange
    exact ⟨path, w, hpath, by rw [Outcome.filesAfter, hsaved, List.foldl_cons, List.foldl_nil]⟩

def greetingFiles : Tree :=
  let text := "\x7b\"sessions\": [\x7b\"sessionId\": \"S1\", \"content\": \"Olá, Ana.\"\x7d]\x7d"
  [(⟨.relative, ["p.json"]⟩, text.toUTF8.toList)]

def greetingSurroundings : Surroundings where
  environment := [("HOME", "/home/ana")]
  users := ⟨fun _ => none, none⟩
  files := greetingFiles.read
  readSettings := Yaml.readBytes
  logLevels := ["DEBUG", "WARNING"]
  stamp := ⟨"t1", 0⟩

def searchAndSave (name : String) : List String := ["-p", "p.json", "search", "ola", "--save-tag", name]

/-- A name that is blank is refused only after the results are printed. -/
theorem filesAfter_run_searchAndSave :
    (run greetingSurroundings (searchAndSave " ")).printed ≠ "" ∧
      (run greetingSurroundings (searchAndSave " ")).exitCode = 1 ∧
      (run greetingSurroundings (searchAndSave " ")).filesAfter greetingFiles = greetingFiles ∧
      (run greetingSurroundings (searchAndSave "greetings")).exitCode = 0 ∧
      ∃ w, (run greetingSurroundings (searchAndSave "greetings")).filesAfter greetingFiles =
        greetingFiles.write ⟨.relative, ["p.json"]⟩ (storedBytes w) := by
  have hprinted : (run greetingSurroundings (searchAndSave " ")).printed ≠ "" := by decide +kernel
  have hrefused : (run greetingSurroundings (searchAndSave " ")).exitCode = 1 := by decide +kernel
  have hwell : (run greetingSurroundings (searchAndSave "greetings")).exitCode = 0 := by decide +kernel
  have hchange : asksForChange (searchAndSave "greetings") = true := by decide +kernel
  have hpath : projectPath? greetingSurroundings (searchAndSave "greetings") =
      some ⟨.relative, ["p.json"]⟩ := by decide +kernel
  have hfails : (run greetingSurroundings (searchAndSave " ")).exitCode ≠ 0 := by simp [hrefused]
  have hruns := filesAfter_run [("HOME", "/home/ana")] ⟨fun _ => none, none⟩ greetingFiles Yaml.readBytes
    ["DEBUG", "WARNING"] ⟨"t1", 0⟩
  have hkept := (hruns (searchAndSave " ")).1 (.inl hfails)
  obtain ⟨path, w, hpath', hwritten⟩ := (hruns (searchAndSave "greetings")).2 hwell hchange
  obtain rfl := Option.some.inj (hpath'.symm.trans hpath)
  exact ⟨hprinted, hrefused, hkept, hwell, w, hwritten⟩

end Transcripts.CommandLine
