import ReviewPipeline.Proofs.Decoding
import ReviewPipeline.Proofs.Directories
import ReviewPipeline.Proofs.Initialization
import ReviewPipeline.Proofs.SettingsFile
import ReviewPipeline.Proofs.Workspaces

/-!
# What Is Kept as JSON

Records are printed as JSON and the settings are kept in a file of it. All of them are read back,
and a default workspace that is given when a database is made goes into the settings next to what
they held before.

## Main definitions

* `Files.SettingsApart`: the settings are no part of a database;
* `CommandLine.SavesWorkspace`: a default workspace goes into the settings and nothing else changes
  in them.

## Main results

* `CommandLine.loadSettings_of_apart`: making a database leaves the settings alone;
* `CommandLine.decoding_undoes_encoding`: reading JSON undoes writing it, record by record.
-/

namespace ReviewPipeline

/-- How settings are written and read. -/
def Settings.format : Json.Format Settings := ⟨fieldNames, toJson, ofJson?⟩

/-! ### Settings that are left alone -/

/-- Two file systems that agree on what the settings' path leads to load the same settings. -/
theorem Environment.loadSettings_congr_node? {env : Environment} {files files' : Files}
    {setting : String} (hsetting : env.settingsPath = .ok setting)
    (h : files'.node? setting = files.node? setting) :
    env.loadSettings files' = env.loadSettings files := by
  have hexists : files'.exists? setting = files.exists? setting := by
    rw [Files.exists?, Files.exists?, h]
  have hread : files'.readText setting = files.readText setting := by
    rw [Files.readText, Files.readText, h]
  simp only [loadSettings, hsetting, bind, Except.bind, hexists, hread]

/-- The settings at a path are no part of the database of a name, and they are found there, or there
is nothing in their place. -/
structure Files.SettingsApart (files : Files) (setting name : String) : Prop where
  /-- The name does not lead to them as a path. -/
  named : files.destination setting ≠ files.destination name
  /-- Nor as it is read when the database is opened. -/
  opened : ∀ address, Address.ofName? name = .ok address →
    files.destination setting ≠ files.destination address.path
  /-- They are found, or they are not there. -/
  found : files.exists? setting = true ∨ files.at? (files.destination setting) = none

namespace CommandLine

open Files (SparesAll)

variable {env : Environment} {stamp : Stamp} {files files' : Files} {place : Location}
  {path setting : String} {force : Bool} {settings : Settings} {P : Location → Prop}

/-- Making a database takes no directory away. -/
theorem directories_attempted (h : files.at? place = some .directory) :
    (attempted stamp files path force).at? place = some .directory := by
  have hremoved : (removeDatabase files path force).2.at? place = some .directory := by
    rcases removeDatabase_cases files path force with hsame | hsame
    · rw [hsame, h]
    · rw [hsame, Files.sameDirectories_removeAll]
      exact h
  unfold attempted
  split
  · next heq => rwa [heq] at hremoved
  · next files₁ heq =>
    rw [heq] at hremoved
    obtain ⟨made, hspares, hmade⟩ := makeDatabase_cases files₁ path stamp.now
    have hkept : made.at? place = some .directory := SparesAll.at?_eq_some hspares hremoved
    rcases hmade with hmade | hmade
    · rw [hmade, hkept]
    · rw [hmade, Files.sameDirectories_openDatabase]
      exact hkept

/-- Without settings the default ones are loaded. -/
theorem loadSettings_of_not_exists (hsetting : env.settingsPath = .ok setting)
    (hmissing : files.exists? setting = false) : env.loadSettings files = .ok {} := by
  simp only [Environment.loadSettings, hsetting, bind, Except.bind, hmissing]
  rfl

/-- Where there is a directory in their place no settings are loaded. -/
theorem loadSettings_ne_ok_of_directory (hsetting : env.settingsPath = .ok setting)
    (hnode : files.node? setting = .ok (place, .directory)) :
    env.loadSettings files ≠ .ok settings := by
  have hread : files.readText setting = .error .isADirectory := by
    rw [Files.readText, hnode]
    rfl
  simp only [Environment.loadSettings, hsetting, bind, Except.bind,
    if_pos (Files.exists?_eq_true_of_node? hnode), hread]
  rintro ⟨⟩

/-- Settings that are loaded after changes that spare them are those from before. -/
theorem loadSettings_of_spares (hsetting : env.settingsPath = .ok setting)
    (hspares : files.Spares P files')
    (hdirectories : ∀ place, files.at? place = some .directory → files'.at? place = some .directory)
    (hplace : ¬ P (files.destination setting))
    (hfound : files.exists? setting = true ∨ files.at? (files.destination setting) = none)
    (h : env.loadSettings files' = .ok settings) : env.loadSettings files = .ok settings := by
  cases hnode : files.node? setting with
  | ok found =>
    -- What is there now is there afterwards.
    rw [← h]
    refine Environment.loadSettings_congr_node? hsetting (hnode.trans ?_)
    exact (Files.node?_eq_ok_of_spares hspares hdirectories hplace hnode).symm
  | error fault =>
    have hmissing : files.exists? setting = false := by
      rw [Files.exists?, hnode]
      rfl
    rw [loadSettings_of_not_exists hsetting hmissing, ← h]
    cases hnode' : files'.node? setting with
    | error fault' =>
      refine (loadSettings_of_not_exists hsetting ?_).symm
      rw [Files.exists?, hnode']
      rfl
    | ok found =>
      -- Only a directory can be new in the place of the settings, and it cannot be read.
      obtain ⟨location, node⟩ := found
      obtain ⟨hlocation, hat⟩ := Files.node?_eq_ok hnode'
      rw [hlocation, hspares.destination_eq] at hat
      have hnone := hfound.resolve_left (by simp [hmissing])
      rcases hspares.nodes _ hplace with hsame | ⟨-, hdirectory⟩
      · rw [hsame, hnone] at hat
        cases hat
      · rw [hdirectory] at hat
        cases hat
        exact absurd h (loadSettings_ne_ok_of_directory hsetting hnode')

/-- Making a database leaves the settings alone that are no part of it. -/
theorem loadSettings_of_apart (hsetting : env.settingsPath = .ok setting)
    (hapart : files.SettingsApart setting path)
    (h : env.loadSettings (attempted stamp files path force) = .ok settings) :
    env.loadSettings files = .ok settings := by
  refine loadSettings_of_spares hsetting spares_attempted (fun _ => directories_attempted) ?_
    hapart.found h
  obtain ⟨directory, rfl⟩ := exists_directory_of_settingsPath hsetting
  exact Files.not_isPlaceOf_settings rfl hapart.named hapart.opened

/-- What becomes of the settings when a database is made and a default workspace saved: they hold
the workspace, next to what is loaded once the database is made. That is what was loaded before the
command, if the settings are no part of the database. -/
structure SavesWorkspace (env : Environment) (stamp : Stamp) (inv : Invocation) (files : Files)
    (force : Bool) (workspace : String) (files' : Files) : Prop where
  /-- The workspace goes into the settings that are loaded once the database is made. -/
  saved : ∃ settings, env.loadSettings (initDatabase env stamp inv files force none).2 =
      .ok settings ∧
    env.loadSettings files' = .ok { settings with defaultWorkspace := some workspace }
  /-- It goes into those from before, if they are no part of the database. -/
  kept : ∀ path setting, env.databasePath inv.database = some path →
    env.settingsPath = .ok setting → files.SettingsApart setting path →
    ∃ settings, env.loadSettings files = .ok settings ∧
      env.loadSettings files' = .ok { settings with defaultWorkspace := some workspace }

theorem savesWorkspace_of_initDatabase {inv : Invocation} {workspace : String} {answer : Answer}
    (h : initDatabase env stamp inv files force (some workspace) = (.ok answer, files')) :
    SavesWorkspace env stamp inv files force workspace files' := by
  obtain ⟨settings, hloaded, hsaved⟩ := loadSettings_of_initDatabase h
  refine ⟨⟨settings, hloaded, hsaved⟩, fun path setting hpath hsetting hapart => ?_⟩
  rw [initDatabase_none hpath] at hloaded
  exact ⟨settings, loadSettings_of_apart hsetting hapart hloaded, hsaved⟩

/-! ### All records -/

/-- Whatever is written as JSON is read back. A project, an issue, a step, a cursor, a gate signal,
a ledger entry and settings are each read from the text that is written for them, for all texts in
them and for all numbers that have the width of their fields; and if such a record was read from any
other text, then writing it and reading it again gives the same record. Settings that were saved are
the ones that are loaded, and a default workspace that is given when a database is made goes into
the settings that were loaded, which keep their time to wait. -/
theorem decoding_undoes_encoding :
    Project.format.RoundTrips Json.compact Project.Fits ∧
    Issue.format.RoundTrips Json.compact Issue.Fits ∧
    Step.format.RoundTrips Json.compact Step.Fits ∧
    Cursor.format.RoundTrips Json.compact Cursor.Fits ∧
    GateSnapshot.format.RoundTrips Json.compact GateSnapshot.Fits ∧
    LedgerEntry.format.RoundTrips Json.compact LedgerEntry.Fits ∧
    Settings.format.RoundTrips Json.compact Settings.IsStorable ∧
    Settings.format.RoundTrips Json.pretty Settings.IsStorable ∧
    (∀ (env : Environment) files files' settings, settings.IsStorable →
      env.saveSettings files settings = (.ok (), files') →
      env.loadSettings files' = .ok settings) ∧
    ∀ env stamp screen arguments inv force workspace files,
      read env arguments = .ok inv → inv.command = .init force (some workspace) →
      (run env stamp screen arguments files).1.exitCode = 0 →
      SavesWorkspace env stamp inv files force workspace
        (run env stamp screen arguments files).2 := by
  refine ⟨?_, ?_, ?_, ?_, ?_, ?_, ?_, ?_, ?_, ?_⟩
  · -- One record after the other, each on one line.
    exact Json.Format.roundTrips_compact Project.undoes_ofJson? fun _ => ⟨_, rfl⟩
  · exact Json.Format.roundTrips_compact Issue.undoes_ofJson? fun _ => ⟨_, rfl⟩
  · exact Json.Format.roundTrips_compact Step.undoes_ofJson? fun _ => ⟨_, rfl⟩
  · exact Json.Format.roundTrips_compact Cursor.undoes_ofJson? fun _ => ⟨_, rfl⟩
  · exact Json.Format.roundTrips_compact GateSnapshot.undoes_ofJson? fun _ => ⟨_, rfl⟩
  · exact Json.Format.roundTrips_compact LedgerEntry.undoes_ofJson? fun _ => ⟨_, rfl⟩
  · exact Json.Format.roundTrips_compact Settings.undoes_ofJson? fun _ => ⟨_, rfl⟩
  · -- The settings are kept over several lines as well.
    exact Json.Format.roundTrips Settings.undoes_ofJson? Settings.parseRecord?_toText
  · exact fun env files files' settings => Environment.loadSettings_of_saveSettings
  · -- The file is written last, after the database is made.
    intro env stamp screen arguments inv force workspace files hread hcommand hexit
    have hinit : execute env stamp inv files =
        initDatabase env stamp inv files force (some workspace) := by
      rw [execute, hcommand]
    rw [run, hread] at hexit ⊢
    dsimp only at hexit ⊢
    obtain ⟨answer, hanswer⟩ := exists_answer_of_exitCode_eq_zero hexit
    rw [runInvocation_files]
    rw [hinit] at hanswer ⊢
    exact savesWorkspace_of_initDatabase (Prod.ext hanswer rfl)

/-- Settings with a time to wait, and with a member that is unknown. -/
def waitingSettings : Files where
  nodes :=
    [(["home"], .directory), (["home", ".pipectl"], .directory),
      (["home", ".pipectl", "config.json"],
        .file (.text "\x7b\"theme\": [\"dark\"], \"busy_timeout_ms\": 5000\x7d"))]

/-- A project with the greatest number and with signs in its texts that are written as escapes. -/
def farProject : Project :=
  ⟨"proj_1", "a \"quoted\" \x01 na\u00efve\n", "ws", some "back\\slash", none, 2147483647,
    9223372036854775807, -9223372036854775808⟩

/-- The project is read back, and so are the settings, next to a default workspace. -/
theorem decoding_undoes_encoding_waitingSettings :
    let env : Environment := { home := some "/home" }
    let arguments := ["--db", "/live.db", "init", "--default-workspace", "acme"]
    let inv : Invocation :=
      ⟨.init false (some "acme"), some "/live.db", none, none, false, false, false⟩
    let line := run env ⟨1700000005000, 5⟩ ⟨false, false⟩ arguments waitingSettings
    farProject.Fits ∧ Project.format.ofText? farProject.toJson.compact = some farProject ∧
      read env arguments = .ok inv ∧ line.1.exitCode = 0 ∧
      env.loadSettings waitingSettings = .ok ⟨none, some 5000⟩ ∧
      env.loadSettings line.2 = .ok ⟨some "acme", some 5000⟩ := by
  intro env arguments inv line
  obtain ⟨hproject, -, -, -, -, -, -, -, -, hinit⟩ := decoding_undoes_encoding
  have hfits : farProject.Fits :=
    ⟨⟨by decide, by decide⟩, ⟨by decide, by decide⟩, ⟨by decide, by decide⟩⟩
  have hread : read env arguments = .ok inv := by decide +kernel
  have hexit : line.1.exitCode = 0 := by decide +kernel
  have hloaded : env.loadSettings waitingSettings = .ok ⟨none, some 5000⟩ := by
    decide +kernel
  have hapart : waitingSettings.SettingsApart "/home/.pipectl/config.json" "/live.db" := by
    refine ⟨by decide +kernel, fun address haddress => ?_, .inl (by decide +kernel)⟩
    cases haddress
    decide +kernel
  have hsaves : SavesWorkspace env ⟨1700000005000, 5⟩ inv waitingSettings false "acme" line.2 :=
    hinit env _ _ arguments inv false "acme" waitingSettings hread rfl hexit
  obtain ⟨settings, hbefore, hafter⟩ := hsaves.kept "/live.db" "/home/.pipectl/config.json"
    (by decide +kernel) (by decide +kernel) hapart
  obtain rfl := Except.ok.inj (hbefore.symm.trans hloaded)
  exact ⟨hfits, hproject.back farProject hfits, hread, hexit, hloaded, hafter⟩

end CommandLine

end ReviewPipeline
