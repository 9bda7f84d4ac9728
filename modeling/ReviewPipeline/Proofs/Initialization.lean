import ReviewPipeline.Proofs.Failures
import ReviewPipeline.Proofs.Sparing

/-!
# When a Database Is Not Made

Making a database is several changes of files one after the other: an old database is removed if
that is asked for, directories are made, the database is made in its file, and the default workspace
is saved. None of them is undone when a later one fails. So a command that fails to make a database
leaves the settings and everything else alone that does not belong to the database, but it leaves
its earlier changes behind: an old database that was removed is gone, and a new one that was made
before the settings could not be saved stays, so that it is in the way of the next attempt.

## Main definitions

* `Files.OnlyLoses`: rows are as they were or gone;
* `FailedInit`: the files after a failed attempt;
* `MadeUntold`: an attempt that did not fail, but was not told.

## Main results

* `initDatabase_cases`: an attempt fails like one without a default workspace, or after it;
* `failed_init`: what a failed attempt leaves, for every state of the files.
-/

namespace ReviewPipeline

namespace Files

variable {files files' files'' : Files} {location place : Location} {path name : String}
  {paths : List String} {content : Content} {now : Int}

/-! ### Rows that are lost -/

/-- At every place the rows are as they were, or gone. -/
def OnlyLoses (files files' : Files) : Prop :=
  ∀ place, files'.rows place = files.rows place ∨ files'.rows place = {}

namespace OnlyLoses

/-- Doing nothing loses nothing. -/
theorem refl (files : Files) : OnlyLoses files files :=
  fun _ => .inl rfl

/-- What loses rows twice only loses rows. -/
theorem trans (h : OnlyLoses files files') (h' : OnlyLoses files' files'') :
    OnlyLoses files files'' := by
  intro place
  rcases h' place with hsame | hgone
  · rw [hsame]
    exact h place
  · exact .inr hgone

/-- What holds no rows does not come to hold any. -/
theorem rows_eq_empty (h : OnlyLoses files files') (hplace : files.rows place = {}) :
    files'.rows place = {} :=
  (h place).elim (fun hsame => hsame.trans hplace) id

/-- Whoever spares all rows loses none. -/
theorem of_spares (h : SparesAll files files') : OnlyLoses files files' :=
  fun _ => .inl (h.rows_eq not_false)

end OnlyLoses

/-- Dropping a node only loses rows. -/
theorem onlyLoses_drop : OnlyLoses files (files.drop location) := by
  intro place
  by_cases hplace : place = location
  · subst hplace
    exact .inr rows_drop_self
  · exact .inl (by rw [rows, rows, at?_drop_of_ne hplace])

/-- Removing a file only loses rows. -/
theorem onlyLoses_remove (h : files.remove path = .ok files') : OnlyLoses files files' := by
  obtain ⟨⟨location, node⟩, -, h⟩ := bind_eq_ok_iff.1 h
  split at h
  · cases h
  · cases h
    exact onlyLoses_drop

/-- Removing several files only loses rows. -/
theorem onlyLoses_removeAll : OnlyLoses files (files.removeAll paths).2 := by
  induction paths generalizing files with
  | nil => exact .refl files
  | cons path paths ih =>
    rw [removeAll]
    split
    · split
      · next hremove => exact (onlyLoses_remove hremove).trans ih
      · exact .refl files
    · exact ih

/-- Opening a database only loses rows. -/
theorem onlyLoses_openDatabase : OnlyLoses files (files.openDatabase name now).2 := by
  cases hplace : files.databasePlace? name with
  | none =>
    rw [(opensNowhere_openDatabase hplace).files_eq]
    exact .refl files
  | some location =>
    exact fun place => ((opens_openDatabase hplace).keeps place).imp_right And.left

/-- There is something where a path leads to a node. -/
theorem exists?_eq_true_of_node? {node : Node} (h : files.node? path = .ok (place, node)) :
    files.exists? path = true := by
  rw [exists?, h]
  rfl

/-- A file that is removed first takes its rows along, however far the removals get. -/
theorem rows_removeAll_cons (h : files.node? path = .ok (place, .file content)) :
    (files.removeAll (path :: paths)).2.rows place = {} := by
  have hremove : files.remove path = .ok (files.drop place) := by
    rw [remove, h]
    rfl
  rw [removeAll, if_pos (exists?_eq_true_of_node? h), hremove]
  exact onlyLoses_removeAll.rows_eq_empty rows_drop_self

end Files

namespace CommandLine

open Files (OnlyLoses SparesAll)

variable {env : Environment} {stamp : Stamp} {inv : Invocation} {files files' : Files}
  {force : Bool} {workspace : Option String} {path : String} {place : Location} {content : Content}
  {e : Error} {answer : Answer} {now : Int}

/-! ### The parts of making a database -/

/-- Nothing is removed where there is nothing. -/
theorem removeDatabase_of_not_exists (h : files.exists? path = false) :
    removeDatabase files path force = (.ok (), files) := by
  rw [removeDatabase, h]
  rfl

/-- What may not be removed is in the way. -/
theorem removeDatabase_of_not_force (h : files.exists? path = true) :
    removeDatabase files path false = (.error (.alreadyInitialized path), files) := by
  rw [removeDatabase, if_pos h]
  rfl

/-- Where there is something, whether it may go or not, a directory stays. -/
theorem removeDatabase_of_directory (force : Bool)
    (h : files.node? path = .ok (place, .directory)) :
    ∃ e, removeDatabase files path force = (.error e, files) := by
  have hexists := Files.exists?_eq_true_of_node? h
  cases force with
  | false => exact ⟨_, removeDatabase_of_not_force hexists⟩
  | true =>
    have hremove : files.remove path = .error .isADirectory := by
      rw [Files.remove, h]
      rfl
    rw [removeDatabase, if_pos hexists, Files.removeAll, if_pos hexists, hremove]
    exact ⟨_, rfl⟩

/-- Removing a database is removing its files, or nothing. -/
theorem removeDatabase_cases (files : Files) (path : String) (force : Bool) :
    (removeDatabase files path force).2 = files ∨
      (removeDatabase files path force).2 =
        (files.removeAll (path :: Files.sideFiles path)).2 := by
  unfold removeDatabase
  split
  · split
    · split
      · next h => exact .inr (by rw [h])
      · next h => exact .inr (by rw [h])
    · exact .inl rfl
  · exact .inl rfl

/-- Removing a database spares all that is none of it. -/
theorem spares_removeDatabase :
    files.Spares (files.IsPlaceOf path) (removeDatabase files path force).2 := by
  rcases removeDatabase_cases files path force with h | h
  · rw [h]
    exact .refl _ files
  · rw [h]
    refine Files.spares_removeAll (List.forall_mem_cons.2 ⟨.named, ?_⟩)
    exact fun _ hside => .side hside

/-- Removing a database only loses rows. -/
theorem onlyLoses_removeDatabase : OnlyLoses files (removeDatabase files path force).2 := by
  rcases removeDatabase_cases files path force with h | h
  · rw [h]
    exact .refl files
  · rw [h]
    exact Files.onlyLoses_removeAll

/-- A database that may be removed is gone with its rows, however far the removals get. -/
theorem rows_removeDatabase (h : files.node? path = .ok (place, .file content)) :
    (removeDatabase files path true).2.rows place = {} := by
  have hgone : (files.removeAll (path :: Files.sideFiles path)).2.rows place = {} :=
    Files.rows_removeAll_cons h
  rw [removeDatabase, if_pos (Files.exists?_eq_true_of_node? h), if_pos rfl]
  split
  · next hremoved => rwa [hremoved] at hgone
  · next hremoved => rwa [hremoved] at hgone

/-- Making a database is making directories, and opening it if they could be made. -/
theorem makeDatabase_cases (files : Files) (path : String) (now : Int) :
    ∃ made, SparesAll files made ∧ ((makeDatabase files path now).2 = made ∨
      (makeDatabase files path now).2 = (made.openDatabase path now).2) := by
  refine ⟨(files.makeParents path).2, Files.spares_makeParents, ?_⟩
  unfold makeDatabase
  split
  · next h => exact .inl (by rw [h])
  · next made h =>
    rw [h]
    split
    · next hopened => exact .inr (by rw [hopened])
    · next hopened => exact .inr (by rw [hopened])

/-- Making a database spares all that is none of it. -/
theorem spares_makeDatabase :
    files.Spares (files.IsPlaceOf path) (makeDatabase files path now).2 := by
  obtain ⟨made, hmade, h⟩ := makeDatabase_cases files path now
  have hspares : files.Spares (files.IsPlaceOf path) made := hmade.mono fun _ h => h.elim
  rcases h with h | h
  · rwa [h]
  · rw [h]
    exact hspares.trans (Files.spares_openDatabase.mono fun _ hplace => hspares.isPlaceOf hplace)

/-- Making a database only loses rows. -/
theorem onlyLoses_makeDatabase : OnlyLoses files (makeDatabase files path now).2 := by
  obtain ⟨made, hmade, h⟩ := makeDatabase_cases files path now
  rcases h with h | h
  · rw [h]
    exact .of_spares hmade
  · rw [h]
    exact (OnlyLoses.of_spares hmade).trans Files.onlyLoses_openDatabase

/-- Making a database touches no row, the companions of the database aside. -/
theorem rows_makeDatabase (h : ∀ address, Address.ofName? path = .ok address →
      ∀ companion : Companion, place ≠ companion.location (files.destination address.path)) :
    (makeDatabase files path now).2.rows place = files.rows place := by
  obtain ⟨made, hmade, hcases⟩ := makeDatabase_cases files path now
  have hrows : made.rows place = files.rows place := hmade.rows_eq not_false
  rcases hcases with hcases | hcases
  · rw [hcases, hrows]
  · rw [hcases, ← hrows]
    refine Files.rows_openDatabase fun location hlocation companion => ?_
    obtain ⟨address, haddress, rfl⟩ := Files.eq_destination_of_databasePlace? hlocation
    rw [hmade.destination_eq]
    exact h address haddress companion

/-- The default workspace is saved as a whole, or not at all. -/
theorem sparesAll_saveDefaultWorkspace {workspace : String}
    (h : saveDefaultWorkspace env files workspace = (.error e, files')) :
    SparesAll files files' := by
  unfold saveDefaultWorkspace at h
  split at h
  · cases h
    exact .refl _ files
  unfold Environment.saveSettings at h
  split at h
  · cases h
    exact .refl _ files
  next setting _ =>
  have hparents : SparesAll files (files.makeParents setting).2 := Files.spares_makeParents
  split at h
  · next hmade =>
    cases h
    rwa [hmade] at hparents
  · next hmade =>
    rw [hmade] at hparents
    split at h
    · cases h
    · cases h
      exact hparents

/-! ### A whole attempt -/

/-- The files after an attempt that saves no default workspace, whether it fails or not. -/
def attempted (stamp : Stamp) (files : Files) (path : String) (force : Bool) : Files :=
  match removeDatabase files path force with
  | (.error _, files) => files
  | (.ok (), files) => (makeDatabase files path stamp.now).2

/-- An attempt is over if the old database cannot be removed. -/
theorem initDatabase_of_removal_eq_error {files₁ : Files}
    (hpath : env.databasePath inv.database = some path)
    (hremoved : removeDatabase files path force = (.error e, files₁)) :
    initDatabase env stamp inv files force workspace = (.error e, files₁) := by
  rw [initDatabase, hpath]
  simp only [hremoved]

/-- An attempt is over if the new database cannot be made. -/
theorem initDatabase_of_making_eq_error {files₁ files₂ : Files}
    (hpath : env.databasePath inv.database = some path)
    (hremoved : removeDatabase files path force = (.ok (), files₁))
    (hmade : makeDatabase files₁ path stamp.now = (.error e, files₂)) :
    initDatabase env stamp inv files force workspace = (.error e, files₂) := by
  rw [initDatabase, hpath]
  simp only [hremoved, hmade]

/-- An attempt succeeds once the old database is removed and the new one made. -/
theorem initDatabase_of_making_eq_ok {files₁ files₂ : Files}
    (hpath : env.databasePath inv.database = some path)
    (hremoved : removeDatabase files path force = (.ok (), files₁))
    (hmade : makeDatabase files₁ path stamp.now = (.ok answer, files₂)) :
    initDatabase env stamp inv files force none = (.ok answer, files₂) := by
  rw [initDatabase, hpath]
  simp only [hremoved, hmade]

/-- What it leaves is what is left of both. -/
theorem initDatabase_none (hpath : env.databasePath inv.database = some path) :
    (initDatabase env stamp inv files force none).2 = attempted stamp files path force := by
  rw [attempted]
  cases hremoved : removeDatabase files path force with
  | mk result files₁ =>
    cases result with
    | error e => rw [initDatabase_of_removal_eq_error hpath hremoved]
    | ok u =>
      cases hmade : makeDatabase files₁ path stamp.now with
      | mk result files₂ =>
        cases result with
        | error e => rw [initDatabase_of_making_eq_error hpath hremoved hmade]; simp only [hmade]
        | ok answer => rw [initDatabase_of_making_eq_ok hpath hremoved hmade]; simp only [hmade]

/-- An attempt that fails does so like one that saves no default workspace, or after it. -/
theorem initDatabase_cases (hpath : env.databasePath inv.database = some path)
    (h : initDatabase env stamp inv files force workspace = (.error e, files')) :
    initDatabase env stamp inv files force none = (.error e, files') ∨
      ∃ answer, (initDatabase env stamp inv files force none).1 = .ok answer ∧
        SparesAll (initDatabase env stamp inv files force none).2 files' := by
  -- An attempt that fails before the settings are saved is one that does not save them.
  cases hremoved : removeDatabase files path force with
  | mk result files₁ =>
    cases result with
    | error e₁ =>
      rw [initDatabase_of_removal_eq_error hpath hremoved] at h ⊢
      exact .inl h
    | ok u =>
      cases hmade : makeDatabase files₁ path stamp.now with
      | mk result files₂ =>
        cases result with
        | error e₂ =>
          rw [initDatabase_of_making_eq_error hpath hremoved hmade] at h ⊢
          exact .inl h
        | ok answer =>
          rw [initDatabase_of_making_eq_ok hpath hremoved hmade]
          refine .inr ⟨answer, rfl, ?_⟩
          rw [initDatabase, hpath] at h
          simp only [hremoved, hmade] at h
          cases workspace with
          | none => cases h
          | some workspace =>
            dsimp only at h
            split at h
            · next hsaved =>
              cases h
              exact sparesAll_saveDefaultWorkspace hsaved
            · cases h

/-- An attempt spares all that is none of the database. -/
theorem spares_attempted :
    files.Spares (files.IsPlaceOf path) (attempted stamp files path force) := by
  have hremoved : files.Spares (files.IsPlaceOf path) (removeDatabase files path force).2 :=
    spares_removeDatabase
  unfold attempted
  split
  · next h => rwa [h] at hremoved
  · next h =>
    rw [h] at hremoved
    exact hremoved.trans (spares_makeDatabase.mono fun _ hplace => hremoved.isPlaceOf hplace)

/-- An attempt only loses rows. -/
theorem onlyLoses_attempted : OnlyLoses files (attempted stamp files path force) := by
  have hremoved : OnlyLoses files (removeDatabase files path force).2 := onlyLoses_removeDatabase
  unfold attempted
  split
  · next h => rwa [h] at hremoved
  · next h =>
    rw [h] at hremoved
    exact hremoved.trans onlyLoses_makeDatabase

/-- A database that was removed for an attempt has lost its rows. -/
theorem rows_attempted (h : files.node? path = .ok (place, .file content)) :
    (attempted stamp files path true).rows place = {} := by
  have hgone : (removeDatabase files path true).2.rows place = {} := rows_removeDatabase h
  unfold attempted
  split
  · next hremoved => rwa [hremoved] at hgone
  · next hremoved =>
    rw [hremoved] at hgone
    exact onlyLoses_makeDatabase.rows_eq_empty hgone

/-- The settings are in a file of this name. -/
theorem exists_directory_of_settingsPath {setting : String}
    (h : env.settingsPath = .ok setting) :
    ∃ directory, setting = Path.join directory "config.json" := by
  unfold Environment.settingsPath at h
  split at h
  · cases h
    exact ⟨_, rfl⟩
  · cases h

/-- What a failed attempt to make the database of a name leaves. -/
structure FailedInit (env : Environment) (stamp : Stamp) (inv : Invocation) (files : Files)
    (force : Bool) (workspace : Option String) (path : String) (files' : Files) : Prop where
  /-- Outside the places of the database every node is as it was, and only directories are new. -/
  spared : files.Spares (files.IsPlaceOf path) files'
  /-- The settings file is what it was, and there is one iff there was, unless the database was
  named to be in its place. -/
  settings : ∀ setting, env.settingsPath = .ok setting →
    files.destination setting ≠ files.destination path →
    (∀ address, Address.ofName? path = .ok address →
      files.destination setting ≠ files.destination address.path) →
    ∀ content, files'.at? (files.destination setting) = some (.file content) ↔
      files.at? (files.destination setting) = some (.file content)
  /-- No row of any database is new or changed. -/
  rows : files.OnlyLoses files'
  /-- If there was a database already that may not be removed, nothing at all has changed. -/
  refused : files.exists? path = true → force = false → files' = files
  /-- Nor if there is a directory in its place. -/
  directory : ∀ place, files.node? path = .ok (place, .directory) → files' = files
  /-- If there was nothing, no row is lost, except what stood in the place of a companion. -/
  kept : files.exists? path = false → ∀ place,
    (∀ address, Address.ofName? path = .ok address →
      ∀ companion : Companion, place ≠ companion.location (files.destination address.path)) →
    files'.rows place = files.rows place
  /-- If there was a file that may be removed, all that it held is lost. -/
  lost : force = true → ∀ place content, files.node? path = .ok (place, .file content) →
    files'.rows place = {}
  /-- If the same attempt without a default workspace fails, it leaves the same files. -/
  unmade : ∀ e, (initDatabase env stamp inv files force none).1 = .error e →
    files' = (initDatabase env stamp inv files force none).2
  /-- If it succeeds, the database that it makes is left, with all else that it leaves. -/
  made : ∀ answer, (initDatabase env stamp inv files force none).1 = .ok answer →
    SparesAll (initDatabase env stamp inv files force none).2 files'
  /-- So this database is in the way of the next attempt, whatever that is to save. -/
  again : ∀ answer, (initDatabase env stamp inv files force none).1 = .ok answer →
    (initDatabase env stamp inv files force none).2.exists? path = true →
    ∀ stamp workspace, initDatabase env stamp inv files' false workspace =
      (.error (.alreadyInitialized path), files')

/-- What a failed attempt leaves, whatever the files were. -/
theorem failedInit_of_eq_error (hpath : env.databasePath inv.database = some path)
    (h : initDatabase env stamp inv files force workspace = (.error e, files')) :
    FailedInit env stamp inv files force workspace path files' := by
  have hnone : (initDatabase env stamp inv files force none).2 =
      attempted stamp files path force := initDatabase_none hpath
  -- After the attempt without a default workspace, only directories can have been made.
  have hlast : SparesAll (attempted stamp files path force) files' := by
    rcases initDatabase_cases hpath h with hsame | ⟨_, -, hspares⟩
    · rw [← hnone, hsame]
      exact .refl _ files'
    · rwa [hnone] at hspares
  have hspared : files.Spares (files.IsPlaceOf path) files' :=
    spares_attempted.trans (hlast.mono fun _ hfalse => hfalse.elim)
  have hmade : ∀ answer, (initDatabase env stamp inv files force none).1 = .ok answer →
      SparesAll (initDatabase env stamp inv files force none).2 files' := fun _ _ => by
    rwa [hnone]
  constructor
  case spared => exact hspared
  case settings =>
    intro setting hsetting hnamed hopened content
    refine hspared.file_iff ?_
    obtain ⟨directory, rfl⟩ := exists_directory_of_settingsPath hsetting
    exact Files.not_isPlaceOf_settings rfl hnamed hopened
  case rows => exact onlyLoses_attempted.trans (.of_spares hlast)
  case refused =>
    rintro hexists rfl
    rw [initDatabase_of_removal_eq_error hpath (removeDatabase_of_not_force hexists)] at h
    cases h
    rfl
  case directory =>
    intro place hplace
    obtain ⟨e', hremoved⟩ := removeDatabase_of_directory force hplace
    rw [initDatabase_of_removal_eq_error hpath hremoved] at h
    cases h
    rfl
  case kept =>
    intro hexists place hplace
    rw [hlast.rows_eq not_false, attempted, removeDatabase_of_not_exists hexists]
    exact rows_makeDatabase hplace
  case lost =>
    rintro rfl place content hplace
    rw [hlast.rows_eq not_false]
    exact rows_attempted hplace
  case unmade =>
    intro e' he'
    rcases initDatabase_cases hpath h with hsame | ⟨_, hok, -⟩
    · rw [hsame]
    · rw [hok] at he'
      cases he'
  case made => exact hmade
  case again =>
    intro answer hanswer hexists stamp' workspace'
    have hthere := (hmade answer hanswer).exists?_eq_true hexists
    exact initDatabase_of_removal_eq_error hpath (removeDatabase_of_not_force hthere)

/-- A database was made as it was to be, but a machine could not be told its path. -/
structure MadeUntold (env : Environment) (stamp : Stamp) (screen : Screen) (inv : Invocation)
    (files : Files) (force : Bool) (workspace : Option String) (path : String) (files' : Files) :
    Prop where
  /-- The attempt has succeeded. -/
  done : ∃ saved, initDatabase env stamp inv files force workspace =
    (.ok (.initialized path saved), files')
  /-- The command speaks JSON. -/
  json : speaksJson screen inv = true
  /-- The path is no text. -/
  foreign : env.isText path = false

/-- The answer about a database that was made is printed, unless its path cannot be told. -/
theorem printed_initialized_eq_error {json isColored : Bool} {saved : Option String}
    (h : printed env json isColored (.initialized path saved) = .error e) :
    json = true ∧ env.isText path = false := by
  unfold printed at h
  split at h
  · next hjson =>
    refine ⟨hjson, ?_⟩
    unfold Answer.told at h
    dsimp only at h
    split at h
    · cases h
    · next hforeign => exact Bool.eq_false_iff.2 hforeign
  · cases h

/-- A command line that is to make a database and ends with another exit code than zero does
nothing if no name for the database is known, and leaves the files of a failed attempt else; unless
the attempt has not failed, but the path is no text that a machine could be told. -/
theorem failed_init {screen : Screen} {arguments : List String}
    (hread : read env arguments = .ok inv) (hcommand : inv.command = .init force workspace)
    (hexit : (run env stamp screen arguments files).1.exitCode ≠ 0) :
    (env.databasePath inv.database = none → (run env stamp screen arguments files).2 = files) ∧
      ∀ path, env.databasePath inv.database = some path →
        FailedInit env stamp inv files force workspace path
          (run env stamp screen arguments files).2 ∨
        MadeUntold env stamp screen inv files force workspace path
          (run env stamp screen arguments files).2 := by
  have hinit : execute env stamp inv files =
      initDatabase env stamp inv files force workspace := by
    rw [execute, hcommand]
  rw [run, hread] at hexit ⊢
  dsimp only at hexit ⊢
  rw [runInvocation_files, hinit]
  cases hresult : initDatabase env stamp inv files force workspace with
  | mk result files' =>
    cases result with
    | ok answer =>
      -- What was not told is the path of the database that was made.
      obtain ⟨path, saved, hpath, rfl⟩ := initDatabase_eq_ok hresult
      refine ⟨fun hnowhere => ?_, fun named hnamed => .inr ?_⟩
      · cases hnowhere.symm.trans hpath
      obtain rfl := Option.some.inj (hpath.symm.trans hnamed)
      rw [runInvocation, hinit, hresult] at hexit
      dsimp only at hexit
      cases hprinted : printed env (speaksJson screen inv) (screen.hasColors && !inv.noColor)
          (.initialized path saved) with
      | ok text => simp [Ended.exitCode, Finished.exitCode, Except.bind, hprinted] at hexit
      | error e =>
        obtain ⟨hjson, hforeign⟩ := printed_initialized_eq_error hprinted
        exact ⟨⟨saved, hresult⟩, hjson, hforeign⟩
    | error e =>
      refine ⟨fun hnowhere => ?_, fun path hpath => .inl (failedInit_of_eq_error hpath hresult)⟩
      rw [initDatabase, hnowhere] at hresult
      cases hresult
      rfl

/-- A database with a project. -/
def liveDatabase : Database :=
  { Database.create 1700000000000 with
    projects := [⟨"docs", "Docs", "ws", none, some "DOCS", 1, 1, 1⟩] }

/-- A database in its file, and settings that cannot be read. -/
def brokenSettings : Files where
  nodes :=
    [(["live.db"], .file (.database liveDatabase .ahead)),
      (["home"], .directory), (["home", ".pipectl"], .directory),
      (["home", ".pipectl", "config.json"], .file (.text "\x7b not json"))]

/-- Among these files, an attempt that may remove the database fails on the settings, and the
database is empty afterwards. Without a database, the same attempt fails likewise, and from then on
there is one, which is in the way of the next. -/
theorem not_undone_brokenSettings :
    let env : Environment := { home := some "/home" }
    let attempt (files : Files) (arguments : List String) : Ended × Files :=
      run env ⟨1700000005000, 5⟩ ⟨false, false⟩ ("--db" :: "/live.db" :: "init" :: arguments) files
    let forced := attempt brokenSettings ["--force", "--default-workspace", "acme"]
    let fresh := attempt (brokenSettings.drop ["live.db"]) ["--default-workspace", "acme"]
    forced.1.exitCode = 7 ∧ (brokenSettings.rows ["live.db"]).projects.length = 1 ∧
      forced.2.rows ["live.db"] = {} ∧
      fresh.1.exitCode = 7 ∧ (brokenSettings.drop ["live.db"]).exists? "/live.db" = false ∧
      fresh.2.exists? "/live.db" = true ∧ (attempt fresh.2 []).1.exitCode = 2 := by
  decide +kernel

/-- The first of these attempts fits the statement, so that the settings are what they were, and all
that the database held is lost. -/
theorem failed_init_brokenSettings :
    let env : Environment := { home := some "/home" }
    let arguments := ["--db", "/live.db", "init", "--force", "--default-workspace", "acme"]
    let inv : Invocation :=
      ⟨.init true (some "acme"), some "/live.db", none, none, false, false, false⟩
    let stamp : Stamp := ⟨1700000005000, 5⟩
    let line := run env stamp ⟨false, false⟩ arguments brokenSettings
    read env arguments = .ok inv ∧ line.1.exitCode ≠ 0 ∧
      FailedInit env stamp inv brokenSettings true (some "acme") "/live.db" line.2 ∧
      line.2.at? ["home", ".pipectl", "config.json"] = some (.file (.text "\x7b not json")) ∧
      line.2.rows ["live.db"] = {} := by
  intro env arguments inv stamp line
  have hread : read env arguments = .ok inv := by decide +kernel
  have hexit : line.1.exitCode ≠ 0 := by decide +kernel
  have hfailed : FailedInit env stamp inv brokenSettings true (some "acme") "/live.db" line.2 :=
    -- The path is a text, so the attempt failed, and was not just left untold.
    ((failed_init hread rfl hexit).2 "/live.db" (by decide +kernel)).resolve_right fun huntold => by
      cases huntold.foreign
  refine ⟨hread, hexit, hfailed, ?_, ?_⟩
  · have hsettings := hfailed.settings "/home/.pipectl/config.json" (by decide +kernel)
      (by decide +kernel) (fun address haddress => ?_) (.text "\x7b not json")
    · exact hsettings.2 (by decide +kernel)
    · cases haddress
      decide +kernel
  · exact hfailed.lost rfl ["live.db"] (.database liveDatabase .ahead) (by decide +kernel)

end CommandLine

end ReviewPipeline
