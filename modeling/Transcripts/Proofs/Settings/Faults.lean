/-
  Transcripts/Proofs/Settings/Faults.lean
  =======================================
  **Which settings files are refused for what is wrong with them.**

  A file that is no YAML, or no mapping, or that has a sort option or a limit that
  cannot be used, is refused with a fault that says so.  But any value can stand under
  any name, and only the sort option and the limit are looked at before they are used.
  A path is opened as a path whatever it is, an infinite number has no whole part, and
  even a fault that is to show a value ends in another where the value has a number
  with too many digits in it.

  So a load that is orderly, with settings or with a fault of the file, is one of a
  manageable mapping.  The steps come one after another, and a value behind one that
  is refused is not reached.
-/
import Mathlib.Data.List.DropRight
import Transcripts.Proofs.Collection.Fallible
import Transcripts.Settings.File
import Transcripts.Yaml.Reader

namespace Transcripts

open Transcripts.Files
open Transcripts.Search
open Transcripts.Text
open Transcripts.Yaml.Value (field?)

/-- Whether a fault says what is wrong with the text of the file. -/
def SettingsFault.isRefusal : SettingsFault → Bool
  | .notYaml | .notMapping | .searchNotMapping | .unknownSort _ | .invalidLimit _ => true
  | .access _ | .unread _ | .pathKind _ | .pathBytes | .infiniteLimit | .notShown _ | .noHome |
    .nullInUserName => false

/-- Whether the text of a file is not YAML, or asks for what is not known. -/
def Yaml.FileFault.isDefect : FileFault → Bool
  | .content (.defect _) => true
  | .content _ | .notUtf8 _ => false

namespace Yaml.Value

/-- Whether a value can be shown. -/
def isShowable (v : Value) : Bool := (v.showFault? maxShown).isNone

def isInfinite : Value → Bool
  | .real (.infinite _) => true
  | _ => false

def isPositive : Value → Bool
  | .int n => 0 < n
  | _ => false

end Yaml.Value

namespace Settings

/-- A step that ends with its value, or with a fault that says what is wrong with the
    file. -/
def IsOrderly {α : Type} (x : Except SettingsFault α) : Prop :=
  ∀ fault, x = .error fault → fault.isRefusal = true

section Steps

variable {α β : Type}

theorem isOrderly_ok (a : α) : IsOrderly (.ok a : Except SettingsFault α) := nofun

theorem isOrderly_error_iff {fault : SettingsFault} :
    IsOrderly (.error fault : Except SettingsFault α) ↔ fault.isRefusal = true := by
  simp [IsOrderly]

theorem isOrderly_bind_iff {x : Except SettingsFault α} {f : α → Except SettingsFault β} :
    IsOrderly (x >>= f) ↔ IsOrderly x ∧ ∀ a, x = .ok a → IsOrderly (f a) :=
  failsOnly_bind_iff

/-- Two steps are orderly where both are, if the first one's value makes no difference
    to that. -/
theorem isOrderly_bind_of_all {x : Except SettingsFault α} {f : α → Except SettingsFault β} {Q : Prop}
    (hf : ∀ a, IsOrderly (f a) ↔ Q) : IsOrderly (x >>= f) ↔ IsOrderly x ∧ ((∃ a, x = .ok a) → Q) := by
  rw [isOrderly_bind_iff]
  simp only [hf, exists_imp]

theorem isOrderly_bind_pure_iff {x : Except SettingsFault α} {f : α → β} :
    IsOrderly (x >>= fun a => pure (f a)) ↔ IsOrderly x := by
  rw [isOrderly_bind_iff]
  exact and_iff_left fun a _ => isOrderly_ok (f a)

theorem isOrderly_mapM_iff {o : Option α} {f : α → Except SettingsFault β} :
    IsOrderly (o.mapM f) ↔ ∀ a ∈ o, IsOrderly (f a) := by
  cases o with
  | none => exact iff_of_true (isOrderly_ok none) nofun
  | some a =>
    have hmap : (some a).mapM f = f a >>= fun b => pure (some b) := by
      rw [bind_pure_comp]
      rfl
    rw [hmap, isOrderly_bind_pure_iff]
    simp

/-- A step that has no fault for what is wrong with the file. -/
def NeverRefuses (x : Except SettingsFault α) : Prop := ∀ fault, x = .error fault → fault.isRefusal = false

theorem isOrderly_iff_of_neverRefuses {x : Except SettingsFault α} (h : NeverRefuses x) :
    IsOrderly x ↔ ∃ a, x = .ok a := by
  cases x with
  | error fault =>
    refine iff_of_false ?_ nofun
    rw [isOrderly_error_iff, h fault rfl]
    exact Bool.false_ne_true
  | ok a => exact iff_of_true (isOrderly_ok a) ⟨a, rfl⟩

theorem isOrderly_bind_of_neverRefuses {x : Except SettingsFault α}
    {f : α → Except SettingsFault β} {Q : Prop} (hx : NeverRefuses x)
    (hf : ∀ a, IsOrderly (f a) ↔ Q) : IsOrderly (x >>= f) ↔ (∃ a, x = .ok a) ∧ Q := by
  rw [isOrderly_bind_of_all hf, isOrderly_iff_of_neverRefuses hx]
  exact and_congr_right fun hok => imp_iff_right hok

end Steps

/-! ### The home folder -/

section Home

variable {users : Users} {env : Environment}

theorem head?_withoutSlashes (home : String) :
    let kept := (home.toList.reverse.dropWhile (· = '/')).reverse
    (if kept.isEmpty then "/" else String.ofList kept).toList.head? = some '~' ↔
      home.toList.head? = some '~' := by
  intro kept
  have hkept : kept = home.toList.rdropWhile (· = '/') := rfl
  cases hcase : kept with
  | nil =>
    refine iff_of_false (by decide) fun htilde => ?_
    rw [hkept, List.rdropWhile_eq_nil_iff] at hcase
    have hslash := hcase '~' (List.mem_of_mem_head? htilde)
    exact absurd hslash (by decide)
  | cons c cs =>
    have hprefix : c :: cs <+: home.toList := by
      rw [← hcase, hkept]
      exact List.rdropWhile_prefix _ _
    obtain ⟨rest, hrest⟩ := hprefix
    rw [← hrest]
    simp

/-- The user who runs the program has a home folder, set by the environment or else known
    to the system, and it does not begin with a tilde. -/
def HasHome (users : Users) (env : Environment) : Prop :=
  ∃ home ∈ (env.get? "HOME").or users.ownHome?, home.toList.head? ≠ some '~'

instance : Decidable (HasHome users env) :=
  inferInstanceAs (Decidable (∃ home ∈ (env.get? "HOME").or users.ownHome?, home.toList.head? ≠ some '~'))

theorem isSome_home?_iff : (home? users env []).isSome = true ↔ HasHome users env := by
  rw [home?, Option.isSome_map, homeText?, HasHome, List.isEmpty_nil, if_pos rfl]
  cases (env.get? "HOME").or users.ownHome? with
  | none => exact iff_of_false nofun nofun
  | some home =>
    have hhead := head?_withoutSlashes home
    simpa [Option.filter_some] using not_congr hhead

theorem exists_usualPath_iff : (∃ usual, usualPath users env = .ok usual) ↔ HasHome users env := by
  rw [← isSome_home?_iff, usualPath, usualProjectPath?]
  cases home? users env [] with
  | none => exact iff_of_false nofun nofun
  | some home => exact iff_of_true ⟨_, rfl⟩ rfl

theorem neverRefuses_usualPath : NeverRefuses (usualPath users env) := by
  intro fault h
  rw [usualPath] at h
  split at h
  · cases h
  · obtain rfl := Except.error.inj h
    rfl

end Home

/-! ### The values of the file -/

section Values

variable {users : Users} {env : Environment} {v : Yaml.Value}

/-- A text that is the path of a project, with a home folder where it begins with a tilde. -/
def IsPlace (users : Users) (env : Environment) : Yaml.Value → Prop
  | .text s => (expandHome? users env (Path.ofText s)).isSome = true
  | _ => False

theorem exists_projectPathOf_iff : (∃ p, projectPathOf users env v = .ok p) ↔ IsPlace users env v := by
  cases v with
  | text s =>
    rw [projectPathOf, IsPlace]
    cases expandHome? users env (Path.ofText s) with
    | some p => exact iff_of_true ⟨p, rfl⟩ rfl
    | none => exact iff_of_false nofun nofun
  | _ => exact iff_of_false nofun id

theorem neverRefuses_projectPathOf : NeverRefuses (projectPathOf users env v) := by
  intro fault h
  cases v with
  | text s =>
    rw [projectPathOf] at h
    split at h
    · cases h
    · obtain rfl := Except.error.inj h
      rw [missingHome]
      split <;> rfl
  | _ =>
    obtain rfl := Except.error.inj h
    rfl

theorem showFault?_of_showable (h : v.isShowable = true) : v.showFault? Yaml.Value.maxShown = none :=
  Option.isNone_iff_eq_none.mp h

theorem exists_showFault?_of_not_showable (h : ¬ v.isShowable = true) :
    ∃ fault, v.showFault? Yaml.Value.maxShown = some fault :=
  Option.ne_none_iff_exists'.mp fun hnone => h (Option.isNone_iff_eq_none.mpr hnone)

theorem textOf_of_showable (h : v.isShowable = true) : textOf v = .ok v.asText := by
  rw [textOf, showFault?_of_showable h]

theorem exists_textOf_iff : (∃ text, textOf v = .ok text) ↔ v.isShowable = true := by
  by_cases h : v.isShowable = true
  · exact iff_of_true ⟨v.asText, textOf_of_showable h⟩ h
  · obtain ⟨fault, hfault⟩ := exists_showFault?_of_not_showable h
    rw [textOf, hfault]
    exact iff_of_false nofun h

theorem neverRefuses_textOf : NeverRefuses (textOf v) := by
  intro fault h
  rw [textOf] at h
  split at h
  · cases h
  · obtain rfl := Except.error.inj h
    rfl

theorem faultWith_isRefusal {fault : String → SettingsFault} (h : ∀ shown, (fault shown).isRefusal = true) :
    (faultWith fault v).isRefusal = v.isShowable := by
  by_cases hshow : v.isShowable = true
  · rw [faultWith, showFault?_of_showable hshow, hshow]
    exact h v.shown
  · obtain ⟨showFault, hfault⟩ := exists_showFault?_of_not_showable hshow
    rw [faultWith, hfault]
    exact ((Bool.not_eq_true _).mp hshow).symm

theorem sortOf_of_showable (h : v.isShowable = true) :
    sortOf v = match sortNamed? v.asText with
      | some option => .ok option
      | none => .error (.unknownSort v.shown) := by
  rw [sortOf, textOf_of_showable h, faultWith, showFault?_of_showable h]
  show (match sortNamed? v.asText with
    | some option => pure option
    | none => throw (SettingsFault.unknownSort v.shown)) = _
  cases sortNamed? v.asText with
  | some option => rfl
  | none => rfl

theorem isOrderly_sortOf_iff : IsOrderly (sortOf v) ↔ v.isShowable = true := by
  constructor
  · intro h
    rw [sortOf, isOrderly_bind_iff, isOrderly_iff_of_neverRefuses neverRefuses_textOf, exists_textOf_iff] at h
    exact h.1
  · intro h
    rw [sortOf_of_showable h]
    split
    · exact isOrderly_ok _
    · exact isOrderly_error_iff.mpr rfl

theorem exists_sortOf_iff :
    (∃ option, sortOf v = .ok option) ↔ v.isShowable = true ∧ (sortNamed? v.asText).isSome = true := by
  by_cases h : v.isShowable = true
  · rw [sortOf_of_showable h]
    cases sortNamed? v.asText with
    | none => simp
    | some option => simp [h]
  · refine iff_of_false ?_ fun hboth => h hboth.1
    rintro ⟨option, hsort⟩
    refine h (isOrderly_sortOf_iff.mp ?_)
    rw [hsort]
    exact isOrderly_ok option

/-- A limit that is a whole number, or none, is used or refused. -/
theorem isOrderly_limitOf_of_ok {n? : Option Int} (h : wholeNumber v = .ok n?) :
    IsOrderly (limitOf v) ↔ v.isShowable = true ∨ (n?.bind positive?).isSome = true := by
  rw [limitOf, h]
  show IsOrderly ((pure n? : Except SettingsFault _) >>= _) ↔ _
  rw [pure_bind]
  cases n?.bind positive? with
  | some n => exact iff_of_true (isOrderly_ok n) (.inr rfl)
  | none =>
    show IsOrderly (.error _) ↔ _
    rw [isOrderly_error_iff, faultWith_isRefusal fun _ => rfl]
    simp

/-- A limit that is used or refused. -/
def LimitManageable (v : Yaml.Value) : Prop :=
  v.isInfinite = false ∧ (v.isShowable = true ∨ v.isPositive = true)

theorem isOrderly_limitOf_iff : IsOrderly (limitOf v) ↔ LimitManageable v := by
  rw [LimitManageable]
  cases v with
  | int n =>
    rw [isOrderly_limitOf_of_ok rfl]
    by_cases hn : 0 < n
    · simp [Yaml.Value.isInfinite, Yaml.Value.isPositive, positive?, hn]
    · simp [Yaml.Value.isInfinite, Yaml.Value.isPositive, positive?, hn]
  | real x =>
    cases x with
    | infinite negative =>
      exact iff_of_false (mt isOrderly_error_iff.mp Bool.false_ne_true) (fun h => Bool.noConfusion h.1)
    | _ => exact iff_of_true ((isOrderly_limitOf_of_ok rfl).mpr (.inl rfl)) ⟨rfl, .inl rfl⟩
  | list | pairs | map | set =>
    rw [isOrderly_limitOf_of_ok rfl]
    simp [Yaml.Value.isInfinite, Yaml.Value.isPositive]
  | _ => exact iff_of_true ((isOrderly_limitOf_of_ok rfl).mpr (.inl rfl)) ⟨rfl, .inl rfl⟩

end Values

instance (users : Users) (env : Environment) : DecidablePred (IsPlace users env)
  | .text s => inferInstanceAs (Decidable ((expandHome? users env (Path.ofText s)).isSome = true))
  | .null | .bool _ | .int _ | .real _ | .bytes _ | .date _ | .moment _ | .list _ | .pairs _ | .map _ |
    .set _ | .enclosing _ => inferInstanceAs (Decidable False)

/-! ### The mapping -/

/-- Entries for searching that are used or refused.  The limit is looked at only if the sort
    option is not refused before. -/
structure SearchManageable (search : Entries) : Prop where
  defaultSort : ∀ v ∈ field? search "default_sort", v.isShowable = true
  defaultLimit : (∀ v ∈ field? search "default_sort", (sortNamed? v.asText).isSome = true) →
    ∀ v ∈ field? search "default_limit", LimitManageable v

/-- A mapping whose values are used or refused. -/
structure Manageable (users : Users) (env : Environment) (entries : Entries) : Prop where
  projectPath : ∀ v ∈ given? entries "project_path", IsPlace users env v
  logLevel : ∀ v ∈ given? entries "log_level", v.isShowable = true
  search : ∀ search, searchEntries entries = .ok search → SearchManageable search

instance : DecidablePred LimitManageable := fun v =>
  inferInstanceAs (Decidable (v.isInfinite = false ∧ (v.isShowable = true ∨ v.isPositive = true)))

instance (search : Entries) : Decidable (SearchManageable search) :=
  decidable_of_iff
    ((∀ v ∈ field? search "default_sort", v.isShowable = true) ∧
      ((∀ v ∈ field? search "default_sort", (sortNamed? v.asText).isSome = true) →
        ∀ v ∈ field? search "default_limit", LimitManageable v))
    ⟨fun ⟨h₁, h₂⟩ => ⟨h₁, h₂⟩, fun ⟨h₁, h₂⟩ => ⟨h₁, h₂⟩⟩

instance (users : Users) (env : Environment) (entries : Entries) :
    Decidable (Manageable users env entries) :=
  decidable_of_iff
    ((∀ v ∈ given? entries "project_path", IsPlace users env v) ∧
      (∀ v ∈ given? entries "log_level", v.isShowable = true) ∧
      ∀ search, searchEntries entries = .ok search → SearchManageable search)
    ⟨fun ⟨h₁, h₂, h₃⟩ => ⟨h₁, h₂, h₃⟩, fun ⟨h₁, h₂, h₃⟩ => ⟨h₁, h₂, h₃⟩⟩

section Mapping

variable {users : Users} {env : Environment} {entries : Entries}

theorem isOrderly_searchEntries : IsOrderly (searchEntries entries) := by
  rw [searchEntries]
  split
  · exact isOrderly_ok _
  · exact isOrderly_ok _
  · exact isOrderly_ok _
  · exact isOrderly_error_iff.mpr rfl

theorem isOrderly_searchChoices_iff {search : Entries} (choose : Option SortOption → Option Nat → Choices) :
    IsOrderly (do
      let defaultSort ← (field? search "default_sort").mapM sortOf
      let defaultLimit ← (field? search "default_limit").mapM limitOf
      return choose defaultSort defaultLimit) ↔ SearchManageable search := by
  have hlimit : ∀ sort, IsOrderly (do
      let defaultLimit ← (field? search "default_limit").mapM limitOf
      return choose sort defaultLimit) ↔ ∀ v ∈ field? search "default_limit", LimitManageable v := by
    intro sort
    rw [isOrderly_bind_pure_iff, isOrderly_mapM_iff]
    simp only [isOrderly_limitOf_iff]
  rw [isOrderly_bind_of_all hlimit, isOrderly_mapM_iff, exists_mapM_option_iff]
  simp only [isOrderly_sortOf_iff, exists_sortOf_iff]
  constructor
  · rintro ⟨hsort, hlimit⟩
    exact ⟨hsort, fun hnamed => hlimit fun v hv => ⟨hsort v hv, hnamed v hv⟩⟩
  · rintro ⟨hsort, hlimit⟩
    exact ⟨hsort, fun hnamed => hlimit fun v hv => (hnamed v hv).2⟩

theorem isOrderly_fileChoices_iff :
    IsOrderly (fileChoices users env entries) ↔ Manageable users env entries := by
  have hsearch : ∀ path level, IsOrderly (do
      let search ← searchEntries entries
      let defaultSort ← (field? search "default_sort").mapM sortOf
      let defaultLimit ← (field? search "default_limit").mapM limitOf
      return ({ projectPath := path, logLevel := level, defaultSort, defaultLimit } : Choices)) ↔
        ∀ search, searchEntries entries = .ok search → SearchManageable search := by
    intro path level
    rw [isOrderly_bind_iff, and_iff_right isOrderly_searchEntries]
    exact forall₂_congr fun search _ => isOrderly_searchChoices_iff _
  have hlevel : ∀ v : Yaml.Value, NeverRefuses (do return raised (← textOf v)) := by
    intro v
    exact failsOnly_bind_iff.mpr ⟨neverRefuses_textOf, fun _ _ => nofun⟩
  have hraised : ∀ v : Yaml.Value, (∃ level, (do return raised (← textOf v)) = Except.ok level) ↔
      v.isShowable = true := by
    intro v
    have hbind := exists_bind_iff (x := textOf v) (P := True) fun text => iff_true_intro ⟨raised text, rfl⟩
    rw [and_true, exists_textOf_iff] at hbind
    exact hbind
  rw [fileChoices,
    isOrderly_bind_of_neverRefuses (failsOnly_mapM_option fun _ _ => neverRefuses_projectPathOf) fun path =>
      isOrderly_bind_of_neverRefuses (failsOnly_mapM_option fun v _ => hlevel v) (hsearch path)]
  simp only [exists_mapM_option_iff, exists_projectPathOf_iff, hraised]
  exact ⟨fun ⟨hpath, hshown, hsearch⟩ => ⟨hpath, hshown, hsearch⟩,
    fun ⟨hpath, hshown, hsearch⟩ => ⟨hpath, hshown, hsearch⟩⟩

end Mapping

/-! ### The file -/

section File

variable {read : Reader} {users : Users} {env : Environment} {bytes : Bytes}

/-- Bytes that a reader gives a value for, or finds a defect in. -/
def ReadsAsYaml (read : Reader) (bytes : Bytes) : Prop :=
  ∀ fault, read bytes = .error fault → fault.isDefect = true

theorem isOrderly_entriesOfBytes (h : ReadsAsYaml read bytes) : IsOrderly (entriesOfBytes read bytes) := by
  rw [entriesOfBytes]
  cases hread : read bytes with
  | error fault =>
    have hdefect := h fault hread
    match fault with
    | .content (.defect defect) => exact isOrderly_error_iff.mpr rfl
    | .content (.noCharacter _) | .content (.scalar _) | .content .tooDeep | .notUtf8 _ =>
      exact absurd hdefect Bool.false_ne_true
  | ok v =>
    show IsOrderly ((pure v : Except SettingsFault _) >>= _)
    rw [pure_bind]
    split
    · exact isOrderly_ok _
    · exact isOrderly_ok _
    · exact isOrderly_error_iff.mpr rfl

theorem loadFile_eq {files : Access} {path : Path} (h : files path = .ok bytes) :
    loadFile read users env files path = (do
      let entries ← entriesOfBytes read bytes
      let usual ← usualPath users env
      let choices ← fileChoices users env entries
      return (usual, choices)) := by
  rw [loadFile, h]
  rfl

theorem ofFile_eq {files : Access} {path : Path} (h : files path = .ok bytes) :
    ofFile read users env files path = (do
      let entries ← entriesOfBytes read bytes
      let usual ← usualPath users env
      let choices ← fileChoices users env entries
      return ofChoices usual choices) := by
  rw [ofFile, loadFile_eq h]
  simp only [bind_assoc, pure_bind]

/-- **Which settings files are refused for what is wrong with them.**  Whatever reads
    the file: if it gives a value or finds a defect, the load gives settings or is
    refused with a fault that says what is wrong with the file, exactly if the user has
    a home folder and the values in the file are manageable: the path of the project is
    a text, with a home folder where it asks for one, all that is shown can be shown,
    and the limit is not infinite. -/
theorem ofFile_isOrderly_iff {files : Access} {path : Path} (hfile : files path = .ok bytes)
    (hreads : ReadsAsYaml read bytes) :
    IsOrderly (ofFile read users env files path) ↔
      ∀ entries, entriesOfBytes read bytes = .ok entries →
        HasHome users env ∧ Manageable users env entries := by
  rw [ofFile_eq hfile, isOrderly_bind_iff, and_iff_right (isOrderly_entriesOfBytes hreads)]
  refine forall₂_congr fun entries _ => ?_
  rw [isOrderly_bind_of_neverRefuses neverRefuses_usualPath fun usual => isOrderly_bind_pure_iff,
    exists_usualPath_iff, isOrderly_fileChoices_iff]

/-- The bytes of a text of ASCII characters. -/
def asciiBytes (text : String) : Bytes := text.toList.map fun c => UInt8.ofNat c.toNat

/-- Three users, one of whom runs the program. -/
def fewUsers : Users where
  home? name := List.lookup name [("root", "/root"), ("daemon", "/usr/sbin"), ("ana", "/home/ana")]
  ownHome? := some "/home/ana"

def guardedFile : String :=
  "project_path: ~daemon/case.json\nlog_level: [1]\nsearch:\n  default_sort: 5\n  default_limit: .inf\n"

/-- The limit is infinite, but the sort option before it is none. -/
theorem ofFile_isOrderly_iff_guarded :
    let files : Access := fun _ => .ok (asciiBytes guardedFile)
    let load := ofFile Yaml.readBytes fewUsers [] files (Path.ofText "c.yaml")
    files (Path.ofText "c.yaml") = .ok (asciiBytes guardedFile) ∧
      ReadsAsYaml Yaml.readBytes (asciiBytes guardedFile) ∧ IsOrderly load ∧
      load = .error (.unknownSort "5") := by
  intro files load
  have hfile : files (Path.ofText "c.yaml") = .ok (asciiBytes guardedFile) := rfl
  have hreads : ReadsAsYaml Yaml.readBytes (asciiBytes guardedFile) := by
    unfold ReadsAsYaml
    decide +kernel
  refine ⟨hfile, hreads, (ofFile_isOrderly_iff hfile hreads).mpr ?_, by decide +kernel⟩
  have hmanageable : ∀ entries, entriesOfBytes Yaml.readBytes (asciiBytes guardedFile) = .ok entries →
      Manageable fewUsers [] entries := by decide +kernel
  exact fun entries hentries => ⟨by decide, hmanageable entries hentries⟩

/-- An infinite limit, and a number for a path, are neither used nor refused. -/
theorem infinite_limit_ends_load :
    let load := fun text =>
      ofFile Yaml.readBytes fewUsers [] (fun _ => .ok (asciiBytes text)) (Path.ofText "c.yaml")
    let infinite := "search:\n  default_limit: .inf\n"
    let number := "project_path: 5\n"
    ReadsAsYaml Yaml.readBytes (asciiBytes infinite) ∧ load infinite = .error .infiniteLimit ∧
      ReadsAsYaml Yaml.readBytes (asciiBytes number) ∧ load number = .error (.pathKind "int") ∧
      ¬ IsOrderly (load infinite) ∧ ¬ IsOrderly (load number) := by
  intro load infinite number
  have hinfinite : load infinite = .error .infiniteLimit := by decide +kernel
  have hnumber : load number = .error (.pathKind "int") := by decide +kernel
  have hreads : ∀ text ∈ [infinite, number], ReadsAsYaml Yaml.readBytes (asciiBytes text) := by
    unfold ReadsAsYaml
    decide +kernel
  refine ⟨hreads infinite (by simp), hinfinite, hreads number (by simp), hnumber, ?_, ?_⟩
  · rw [hinfinite, isOrderly_error_iff]
    exact Bool.false_ne_true
  · rw [hnumber, isOrderly_error_iff]
    exact Bool.false_ne_true

end File

end Settings

end Transcripts
