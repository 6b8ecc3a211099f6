/-
  Transcripts/Proofs/Settings/Sources.lean
  ========================================
  **Each setting is decided by itself, by the first source that can.**

  The sources are the environment, the settings file and a usual value, and they
  differ in what they do with a value that cannot be used.  In the environment it is
  passed over, and what the file says stays; in the file most such values stop the
  load.  So a setting is stated once, by what each source makes of it, and the same
  three cases decide all four.

  The usual path of the project is worked out before it is known whether it is needed,
  and that takes a home folder, even where the folder for data is set.  A file that is
  accepted shows that there is one.  Where there is neither, nothing is loaded,
  whatever the environment says.
-/
import Transcripts.Proofs.Numeral.Literal
import Transcripts.Proofs.Settings.Faults

namespace Transcripts.Settings

open Transcripts.Files
open Transcripts.Numeral
open Transcripts.Search
open Transcripts.Text
open Transcripts.Yaml.Value (field?)

/-! ### Settings and their sources -/

/-- A setting, by what its sources make of it. -/
structure Setting (α : Type) where
  /-- The variable of the environment that it is set by. -/
  name : String
  /-- What a usable text in the environment means. -/
  reads : String → α → Prop
  /-- The usable value in the file. -/
  written? : Entries → Option Yaml.Value
  means : Yaml.Value → α → Prop
  usual : α → Prop

namespace Setting

variable {α : Type}

/-- The environment has a usable text for a value. -/
def SetBy (setting : Setting α) (env : Environment) (x : α) : Prop :=
  ∃ text ∈ env.get? setting.name, setting.reads text x

/-- The value of a setting, by the first source that can be used. -/
inductive Decides (setting : Setting α) (env : Environment) (entries : Entries) (x : α) : Prop where
  | environment (h : setting.SetBy env x)
  | file (hunset : ∀ y, ¬ setting.SetBy env y) {v : Yaml.Value} (hv : setting.written? entries = some v)
      (h : setting.means v x)
  | usual (hunset : ∀ y, ¬ setting.SetBy env y) (hmissing : setting.written? entries = none)
      (h : setting.usual x)

/-- A choice that the file makes for a setting exactly if a value is written for it. -/
structure Chosen (setting : Setting α) (entries : Entries) (choice : Option α) : Prop where
  written : ∀ v ∈ setting.written? entries, ∃ x ∈ choice, setting.means v x
  missing : setting.written? entries = none → choice = none

theorem decides_or {setting : Setting α} {env : Environment} {entries : Entries} {a b : Option α} {x : α}
    (ha : ∀ y, y ∈ a ↔ setting.SetBy env y) (hb : setting.Chosen entries b) (hx : setting.usual x) :
    setting.Decides env entries ((a.or b).getD x) := by
  cases a with
  | some y => exact .environment ((ha y).mp rfl)
  | none =>
    have hunset : ∀ y, ¬ setting.SetBy env y := fun y hy => Option.not_mem_none y ((ha y).mpr hy)
    cases hwritten : setting.written? entries with
    | none =>
      rw [hb.missing hwritten]
      exact .usual hunset hwritten hx
    | some v =>
      obtain ⟨y, rfl, hmeans⟩ := hb.written v hwritten
      exact .file hunset hwritten hmeans

end Setting

/-- What stands in the entries for searching. -/
def searchField? (entries : Entries) (name : String) : Option Yaml.Value :=
  (searchEntries entries).toOption.bind fun search => field? search name

def projectPathSetting (users : Users) (env : Environment) : Setting Path where
  name := "CALLSCOPE_PROJECT"
  reads text p := text ≠ "" ∧ p = Path.ofText text
  written? entries := given? entries "project_path"
  means v p := ∃ s, v = .text s ∧ expandHome? users env (Path.ofText s) = some p
  usual p := usualProjectPath? users env = some p

def logLevelSetting : Setting String where
  name := "CALLSCOPE_LOG_LEVEL"
  reads text level := text ≠ "" ∧ level = raised text
  written? entries := given? entries "log_level"
  means v level := level = raised v.asText
  usual level := level = "WARNING"

/-- The order of results, which is named in any case. -/
def sortSetting : Setting SortOption where
  name := "CALLSCOPE_SORT"
  reads text option := lowered text = option.text
  written? entries := searchField? entries "default_sort"
  means v option := lowered v.asText = option.text
  usual option := option = .dateDescending

/-- The number of results, which is positive. -/
def limitSetting : Setting Nat where
  name := "CALLSCOPE_LIMIT"
  reads text n := IsLiteral text.toList n ∧ 0 < n
  written? entries := searchField? entries "default_limit"
  means v n := wholeNumber v = .ok (some (n : Int)) ∧ 0 < n
  usual n := n = 50

/-- Settings each of which is decided by itself. -/
structure Decided (users : Users) (env : Environment) (entries : Entries) (s : Settings) : Prop where
  projectPath : (projectPathSetting users env).Decides env entries s.projectPath
  logLevel : logLevelSetting.Decides env entries s.logLevel
  defaultSort : sortSetting.Decides env entries s.defaultSort
  defaultLimit : limitSetting.Decides env entries s.defaultLimit
  positive : 0 < s.defaultLimit

/-! ### The environment -/

section Environment

variable {env : Environment}

theorem sortNamed?_eq_some_iff {text : String} {option : SortOption} :
    sortNamed? text = some option ↔ lowered text = option.text := by
  rw [sortNamed?]
  generalize lowered text = name
  constructor
  · intro h
    have hname := List.find?_some h
    exact (of_decide_eq_true hname).symm
  · rintro rfl
    cases option <;> rfl

theorem positive?_eq_some_iff {n : Int} {k : Nat} : positive? n = some k ↔ n = k ∧ 0 < k := by
  rw [positive?]
  split
  · rw [Option.some.injEq]
    omega
  · simp only [reduceCtorEq, false_iff]
    omega

theorem mem_map_setVariable?_iff {α : Type} {f : String → α} {name : String} {x : α} :
    x ∈ (setVariable? env name).map f ↔ ∃ text ∈ env.get? name, text ≠ "" ∧ x = f text := by
  simp only [setVariable?, Option.mem_def, Option.map_eq_some_iff, Option.filter_eq_some_iff,
    Bool.not_eq_true', String.isEmpty_eq_false_iff]
  constructor
  · rintro ⟨text, ⟨htext, hne⟩, rfl⟩
    exact ⟨text, htext, hne, rfl⟩
  · rintro ⟨text, htext, hne, rfl⟩
    exact ⟨text, ⟨htext, hne⟩, rfl⟩

theorem mem_environment_defaultSort_iff {option : SortOption} :
    option ∈ (environmentChoices env).defaultSort ↔ sortSetting.SetBy env option := by
  rw [environmentChoices, Setting.SetBy, Option.mem_def, Option.bind_eq_some_iff]
  simp only [sortNamed?_eq_some_iff]
  rfl

theorem mem_environment_defaultLimit_iff {n : Nat} :
    n ∈ (environmentChoices env).defaultLimit ↔ limitSetting.SetBy env n := by
  have hread : ∀ text : String, (integer? text.toList).bind positive? = some n ↔
      IsLiteral text.toList n ∧ 0 < n := by
    intro text
    simp only [Option.bind_eq_some_iff, positive?_eq_some_iff, integer?_eq_some_iff]
    constructor
    · rintro ⟨k, hk, rfl, hpos⟩
      exact ⟨hk, hpos⟩
    · rintro ⟨hn, hpos⟩
      exact ⟨n, hn, rfl, hpos⟩
  show (env.get? "CALLSCOPE_LIMIT").bind (fun text => (integer? text.toList).bind positive?) = some n ↔ _
  rw [Option.bind_eq_some_iff]
  simp only [hread]
  rfl

end Environment

/-! ### The file -/

section File

variable {users : Users} {env : Environment} {entries : Entries}

theorem projectPathOf_cases {v : Yaml.Value} {p : Path} (h : projectPathOf users env v = .ok p) :
    ∃ s, v = .text s ∧ expandHome? users env (Path.ofText s) = some p := by
  cases v with
  | text s =>
    rw [projectPathOf] at h
    split at h
    · next q hq => exact ⟨s, rfl, hq.trans (congrArg some (Except.ok.inj h))⟩
    · cases h
  | _ => cases h

theorem textOf_cases {v : Yaml.Value} {text : String} (h : textOf v = .ok text) : text = v.asText := by
  rw [textOf] at h
  split at h
  · exact (Except.ok.inj h).symm
  · cases h

theorem sortOf_cases {v : Yaml.Value} {option : SortOption} (h : sortOf v = .ok option) :
    lowered v.asText = option.text := by
  obtain ⟨text, htext, h⟩ := exists_of_bind_eq_ok h
  obtain rfl := textOf_cases htext
  split at h
  · next hnamed =>
    rw [← Except.ok.inj h]
    exact sortNamed?_eq_some_iff.mp hnamed
  · cases h

theorem limitOf_cases {v : Yaml.Value} {n : Nat} (h : limitOf v = .ok n) :
    wholeNumber v = .ok (some (n : Int)) ∧ 0 < n := by
  obtain ⟨k?, hwhole, h⟩ := exists_of_bind_eq_ok h
  split at h
  · next hpositive =>
    obtain rfl := Except.ok.inj h
    obtain ⟨k, rfl, hk⟩ := Option.bind_eq_some_iff.mp hpositive
    obtain ⟨rfl, hpos⟩ := positive?_eq_some_iff.mp hk
    exact ⟨hwhole, hpos⟩
  · cases h

/-- Choices that the file makes exactly for what is written in it. -/
structure FileChosen (users : Users) (env : Environment) (entries : Entries) (c : Choices) : Prop where
  projectPath : (projectPathSetting users env).Chosen entries c.projectPath
  logLevel : logLevelSetting.Chosen entries c.logLevel
  defaultSort : sortSetting.Chosen entries c.defaultSort
  defaultLimit : limitSetting.Chosen entries c.defaultLimit

theorem Setting.chosen_of_mapM {α : Type} {setting : Setting α} {f : Yaml.Value → Except SettingsFault α}
    {choice : Option α} (h : (setting.written? entries).mapM f = .ok choice)
    (hf : ∀ {v x}, f v = .ok x → setting.means v x) : setting.Chosen entries choice := by
  obtain ⟨hwritten, hmissing⟩ := mapM_option_cases h
  refine ⟨fun v hv => ?_, hmissing⟩
  obtain ⟨x, hx, hvx⟩ := hwritten v hv
  exact ⟨x, hx, hf hvx⟩

theorem fileChosen_of_fileChoices {c : Choices} (h : fileChoices users env entries = .ok c) :
    FileChosen users env entries c := by
  obtain ⟨path, hpath, h⟩ := exists_of_bind_eq_ok h
  obtain ⟨level, hlevel, h⟩ := exists_of_bind_eq_ok h
  obtain ⟨search, hsearch, h⟩ := exists_of_bind_eq_ok h
  obtain ⟨sort, hsort, h⟩ := exists_of_bind_eq_ok h
  obtain ⟨limit, hlimit, h⟩ := exists_of_bind_eq_ok h
  obtain rfl := Except.ok.inj h
  have hfield : ∀ name, searchField? entries name = field? search name := by
    intro name
    rw [searchField?, hsearch]
    rfl
  refine ⟨Setting.chosen_of_mapM hpath projectPathOf_cases, Setting.chosen_of_mapM hlevel ?_,
    Setting.chosen_of_mapM (f := sortOf) ?_ sortOf_cases, Setting.chosen_of_mapM (f := limitOf) ?_ limitOf_cases⟩
  · intro v x hv
    obtain ⟨text, htext, hx⟩ := exists_of_bind_eq_ok hv
    rw [← Except.ok.inj hx, textOf_cases htext]
    rfl
  · exact (congrArg (Option.mapM sortOf) (hfield _)).trans hsort
  · exact (congrArg (Option.mapM limitOf) (hfield _)).trans hlimit

end File

/-! ### What is loaded -/

section Loading

variable {read : Reader} {users : Users} {env : Environment} {files : Access}
  {path : Option Path} {entries : Entries}

/-- The entries of a file that is accepted by itself; none without a file. -/
def Accepted (read : Reader) (users : Users) (env : Environment) (files : Access)
    (entries : Entries) : Option Path → Prop
  | none => entries = []
  | some path => ∃ bytes s, files path = .ok bytes ∧ entriesOfBytes read bytes = .ok entries ∧
      ofFile read users env files path = .ok s

theorem decided_of_choices {usual : Path} (husual : usualProjectPath? users env = some usual) {c : Choices}
    (hc : FileChosen users env entries c) :
    Decided users env entries (ofChoices usual ((environmentChoices env).orElse c)) := by
  have hlimit : limitSetting.Decides env entries
      (ofChoices usual ((environmentChoices env).orElse c)).defaultLimit :=
    Setting.decides_or (fun _ => mem_environment_defaultLimit_iff) hc.defaultLimit rfl
  refine ⟨Setting.decides_or (fun _ => mem_map_setVariable?_iff) hc.projectPath husual,
    Setting.decides_or (fun _ => mem_map_setVariable?_iff) hc.logLevel rfl,
    Setting.decides_or (fun _ => mem_environment_defaultSort_iff) hc.defaultSort rfl, hlimit, ?_⟩
  cases hlimit with
  | environment h =>
    obtain ⟨text, _, _, hpos⟩ := h
    exact hpos
  | file _ _ h => exact h.2
  | usual _ _ h =>
    rw [show _ = 50 from h]
    decide

theorem load_eq (h : Accepted read users env files entries path) :
    load read users env files path = (do
      let usual ← usualPath users env
      let choices ← fileChoices users env entries
      return ofChoices usual ((environmentChoices env).orElse choices)) := by
  cases path with
  | none =>
    obtain rfl : entries = [] := h
    have hnothing : fileChoices users env [] = .ok {} := rfl
    rw [load, hnothing]
    cases usualPath users env <;> rfl
  | some path =>
    obtain ⟨bytes, s, hfile, hentries, -⟩ := h
    rw [load, loadFile_eq hfile, hentries]
    show ((usualPath users env >>= _) >>= _) = _
    simp only [bind_assoc, pure_bind]

theorem usualProjectPath?_of_usualPath {usual : Path} (h : usualPath users env = .ok usual) :
    usualProjectPath? users env = some usual := by
  rw [usualPath] at h
  split at h
  · next p hp => exact hp.trans (congrArg some (Except.ok.inj h))
  · cases h

/-- A file is accepted by itself where each of its steps is. -/
theorem ofFile_cases {path : Path} {bytes : Bytes} {s : Settings} (hfile : files path = .ok bytes)
    (hentries : entriesOfBytes read bytes = .ok entries) (h : ofFile read users env files path = .ok s) :
    (∃ usual, usualPath users env = .ok usual) ∧ ∃ choices, fileChoices users env entries = .ok choices := by
  rw [ofFile_eq hfile] at h
  obtain ⟨written, hwritten, h⟩ := exists_of_bind_eq_ok h
  obtain rfl : entries = written := Except.ok.inj (hentries.symm.trans hwritten)
  obtain ⟨usual, husual, h⟩ := exists_of_bind_eq_ok h
  obtain ⟨choices, hchoices, h⟩ := exists_of_bind_eq_ok h
  exact ⟨⟨usual, husual⟩, choices, hchoices⟩

theorem exists_fileChoices_of_accepted (h : Accepted read users env files entries path) :
    ∃ choices, fileChoices users env entries = .ok choices := by
  cases path with
  | none =>
    obtain rfl : entries = [] := h
    exact ⟨{}, rfl⟩
  | some path =>
    obtain ⟨bytes, s, hfile, hentries, hload⟩ := h
    exact (ofFile_cases hfile hentries hload).2

/-- A file that is accepted shows that there is a home folder. -/
theorem exists_usualPath_of_accepted {path : Path} (h : Accepted read users env files entries (some path)) :
    ∃ usual, usualPath users env = .ok usual := by
  obtain ⟨bytes, s, hfile, hentries, hload⟩ := h
  exact (ofFile_cases hfile hentries hload).1

/-- **Each setting is decided by itself, by the first source that can.**  With a file that
    is accepted by itself, settings are loaded; without a file they are if the user has a
    home folder.  Each setting that is loaded comes from the environment if that has a
    usable value for it, else from the file if a value is written there, else it is the
    usual one. -/
theorem load_decided_iff (h : Accepted read users env files entries path) :
    ((∃ s, load read users env files path = .ok s) ↔ path.isSome = true ∨ HasHome users env) ∧
      ∀ s, load read users env files path = .ok s → Decided users env entries s := by
  rw [load_eq h, ← exists_usualPath_iff]
  obtain ⟨choices, hchoices⟩ := exists_fileChoices_of_accepted h
  refine ⟨?_, fun s hload => ?_⟩
  · constructor
    · rintro ⟨s, hload⟩
      obtain ⟨usual, husual, -⟩ := exists_of_bind_eq_ok hload
      exact .inr ⟨usual, husual⟩
    · intro hsource
      have husual : ∃ usual, usualPath users env = .ok usual := by
        rcases hsource with hpath | husual
        · obtain ⟨path, rfl⟩ := Option.isSome_iff_exists.mp hpath
          exact exists_usualPath_of_accepted h
        · exact husual
      obtain ⟨usual, husual⟩ := husual
      rw [husual, hchoices]
      exact ⟨_, rfl⟩
  · obtain ⟨usual, husual, hload⟩ := exists_of_bind_eq_ok hload
    rw [hchoices] at hload
    obtain rfl := Except.ok.inj hload
    exact decided_of_choices (usualProjectPath?_of_usualPath husual) (fileChosen_of_fileChoices hchoices)

/-- Of what the environment says, the level and the limit can be used, not the order.  It
    says nothing of a home folder. -/
def mixedEnvironment : Environment :=
  [("CALLSCOPE_PROJECT", ""), ("CALLSCOPE_LOG_LEVEL", "info"), ("CALLSCOPE_SORT", "newest"),
    ("CALLSCOPE_LIMIT", " +1_0 ")]

def mixedFile : String :=
  "log_level: debug\nsearch:\n  default_sort: Source_Num\n  default_limit: 7\n"

theorem load_decided_iff_mixed :
    let files : Access := fun _ => .ok (asciiBytes mixedFile)
    let path := some (Path.ofText "c.yaml")
    let usual := Path.ofText "/home/ana/.local/share/callscope/project.json"
    load Yaml.readBytes fewUsers mixedEnvironment files path = .ok ⟨usual, "INFO", .sourceNumber, 10⟩ ∧
      ∃ entries, Accepted Yaml.readBytes fewUsers mixedEnvironment files entries path ∧
        Decided fewUsers mixedEnvironment entries ⟨usual, "INFO", .sourceNumber, 10⟩ := by
  intro files path usual
  have hread : (entriesOfBytes Yaml.readBytes (asciiBytes mixedFile)).toOption.isSome = true := by
    decide +kernel
  obtain ⟨entries, hentries⟩ := Option.isSome_iff_exists.mp hread
  have hentries := toOption_eq_some_iff.mp hentries
  have hload : ofFile Yaml.readBytes fewUsers mixedEnvironment files (Path.ofText "c.yaml") =
      .ok ⟨usual, "DEBUG", .sourceNumber, 7⟩ := by decide +kernel
  have haccepted : Accepted Yaml.readBytes fewUsers mixedEnvironment files entries path :=
    ⟨asciiBytes mixedFile, _, rfl, hentries, hload⟩
  have hloaded : load Yaml.readBytes fewUsers mixedEnvironment files path =
      .ok ⟨usual, "INFO", .sourceNumber, 10⟩ := by decide +kernel
  exact ⟨hloaded, entries, haccepted, (load_decided_iff haccepted).2 _ hloaded⟩

/-- The environment says where the project is, and still nothing is loaded. -/
theorem project_without_home_is_not_loaded :
    let env := [("HOME", "~x"), ("CALLSCOPE_PROJECT", "/p")]
    (projectPathSetting fewUsers env).SetBy env (Path.ofText "/p") ∧
      ∀ read files, load read fewUsers env files none = .error .noHome := by
  intro env
  refine ⟨⟨"/p", rfl, by decide, rfl⟩, fun read files => ?_⟩
  have hnothing : Accepted read fewUsers env files [] none := rfl
  have husual : usualPath fewUsers env = .error .noHome := rfl
  rw [load_eq hnothing, husual]
  rfl

end Loading

end Transcripts.Settings
