import ReviewPipeline.CommandLine.Terminal
import ReviewPipeline.Proofs.Confinement

/-!
# Where a Command Looks

A command looks at its own locations only: those on the way to the settings and to its database, and
those beside the database. What stands elsewhere makes no difference to what a command line comes
to, and is as it was before. So a program that reads these locations from a disk, and writes back
what has changed there, does all that the command does.

## Main definitions

* `Region.Serves`: a region has the settings and the database of a command;
* `CommandLine.regionOf`: the region of the locations of a command;
* `CommandLine.Secluded`: a command line looks at some locations only, and changes nothing
  elsewhere.

## Main results

* `CommandLine.confined_execute`: a command is confined to a region that serves it;
* `CommandLine.secluded_run`: a command line looks at its own locations only.
-/

namespace ReviewPipeline

/-! ### Commands -/

/-- The settings and the database of a command lie in a region, however they are named. -/
structure Region.Serves (r : Region) (env : Environment) (database : Option String) : Prop where
  /-- The settings do. -/
  settings : ∀ path, env.settingsPath = .ok path → r.CoversPath path
  /-- What the name of the database leads to as a path does. -/
  named : ∀ name, env.databasePath database = some name → r.CoversPath name
  /-- So do the paths beside it. -/
  beside : ∀ name, env.databasePath database = some name → ∀ path ∈ Files.sideFiles name,
    r.CoversPath path
  /-- And so does what the name leads to as a database. -/
  opened : ∀ name, env.databasePath database = some name → r.CoversDatabase name

namespace CommandLine

variable {r : Region} {before f g : Files} {env : Environment} {inv : Invocation} {stamp : Stamp}
  {ctx ctx' : Context} {db : Database} {path : String} {now : Int}

/-- Work depends on the files only through the active workspace. -/
structure Context.Like (ctx ctx' : Context) : Prop where
  /-- The active workspace is the same. -/
  workspace : ctx'.activeWorkspace = ctx.activeWorkspace
  /-- The one who acts is the same. -/
  author : ctx'.author = ctx.author

/-- Contexts that are alike find the same project. -/
theorem scopedProject_like (h : ctx.Like ctx') (id : String) :
    ctx'.scopedProject db id = ctx.scopedProject db id := by
  rw [Context.scopedProject, Context.scopedProject, h.workspace]

/-- Contexts that are alike find the same issue. -/
theorem scopedIssue_like (h : ctx.Like ctx') (id : String) :
    ctx'.scopedIssue db id = ctx.scopedIssue db id := by
  rw [Context.scopedIssue, Context.scopedIssue, h.workspace]

/-- A command about projects comes to the same in both. -/
theorem project_like (h : ctx.Like ctx') (command : ProjectCommand) :
    command.execute ctx' db = command.execute ctx db := by
  cases command <;>
    simp only [ProjectCommand.execute, h.workspace, h.author, scopedProject_like h]

/-- A command about issues comes to the same in both contexts. -/
theorem issue_like (h : ctx.Like ctx') (command : IssueCommand) :
    command.execute ctx' db = command.execute ctx db := by
  cases command <;>
    simp only [IssueCommand.execute, h.author, scopedProject_like h, scopedIssue_like h]

/-- A command about steps comes to the same in both contexts. -/
theorem step_like (h : ctx.Like ctx') (command : StepCommand) :
    command.execute ctx' db = command.execute ctx db := by
  cases command <;> simp only [StepCommand.execute, h.author, scopedProject_like h]

/-- A command about pipelines comes to the same in both contexts. -/
theorem pipeline_like (h : ctx.Like ctx') (command : PipelineCommand) :
    command.execute ctx' db = command.execute ctx db := by
  cases command <;> simp only [PipelineCommand.execute, h.author, scopedIssue_like h]

/-- Recording a signal of the gate comes to the same in both contexts. -/
theorem recordGate_like (h : ctx.Like ctx') (issue : String) (status : GateStatus)
    (error : Option String) : recordGate ctx' db issue status error =
      recordGate ctx db issue status error := by
  simp only [recordGate, h.author, scopedIssue_like h]

section Serving

variable (h : Confined r before f g) (hserves : r.Serves env inv.database)

include h hserves

/-- The same settings are loaded in files that are alike where the command looks. -/
theorem loadSettings_eq : env.loadSettings g = env.loadSettings f := by
  unfold Environment.loadSettings
  cases hpath : env.settingsPath with
  | error e => rfl
  | ok path =>
    have hcovers := hserves.settings path hpath
    simp only [bind, Except.bind, h.exists?_eq hcovers, h.readText_eq hcovers]

/-- Saving settings is confined to the region. -/
theorem confined_saveSettings (settings : Settings) :
    ConfinedAnswer r before (env.saveSettings f settings) (env.saveSettings g settings) := by
  unfold Environment.saveSettings
  cases hpath : env.settingsPath with
  | error e => exact .same _ h
  | ok path =>
    have hcovers := hserves.settings path hpath
    have hmade := h.makeParents hcovers
    dsimp only
    -- The directory is made alike in both, and then the file is written alike.
    generalize f.makeParents path = x, g.makeParents path = y at hmade ⊢
    cases hmade with
    | @same f' g' answer h' =>
      cases answer with
      | error fault => exact .same _ h'
      | ok u =>
        have hwritten : ConfinedFiles r before (f'.writeText path settings.toText)
            (g'.writeText path settings.toText) := h'.writeText hcovers
        dsimp only
        generalize f'.writeText path settings.toText = x,
          g'.writeText path settings.toText = y at hwritten ⊢
        cases hwritten with
        | ok h'' => exact .same _ h''
        | error fault => exact .same _ h'

/-- Opening the database of a command is confined to the region. -/
theorem confined_openExisting : ConfinedAnswer r before (openExisting env now inv f)
    (openExisting env now inv g) := by
  unfold openExisting
  split
  · exact .same _ h
  · next name hname =>
    rw [h.exists?_eq (hserves.named name hname), loadSettings_eq h hserves]
    split
    · split
      · exact .same _ h
      · exact h.openDatabase (hserves.opened name hname)
    · exact .same _ h

/-- What is opened for a command lies in the region. -/
theorem place_mem_of_openExisting {opened : Opened} {location : Location}
    (hopened : (openExisting env now inv f).1 = .ok opened)
    (hplace : opened.location = some location) : location ∈ r.locations := by
  unfold openExisting at hopened
  split at hopened
  · cases hopened
  · next name hname =>
    split_ifs at hopened
    · split at hopened
      · cases hopened
      · exact Confined.place_mem h.toAlike (hserves.opened name hname) hopened hplace

/-- Work on the database is confined to it. -/
theorem confined_withDatabase {work : Context → Database → Except Error (Answer × Database)}
    (hwork : ∀ ctx ctx' db, ctx.Like ctx' → work ctx' db = work ctx db) :
    ConfinedAnswer r before (withDatabase env stamp inv f work)
      (withDatabase env stamp inv g work) := by
  have hopened : ConfinedAnswer r before (openExisting env stamp.now inv f)
      (openExisting env stamp.now inv g) := confined_openExisting h hserves
  -- Where the work is written back to lies in the region, as it is what was opened.
  have hplace : ∀ opened location, (openExisting env stamp.now inv f).1 = .ok opened →
      opened.location = some location → location ∈ r.locations :=
    fun opened location hopened hlocation => place_mem_of_openExisting h hserves hopened hlocation
  unfold withDatabase
  generalize openExisting env stamp.now inv f = x, openExisting env stamp.now inv g = y
    at hopened hplace ⊢
  cases hopened with
  | @same f' g' answer h' =>
    cases answer with
    | error e => exact .same _ h'
    | ok opened =>
      dsimp only at hplace ⊢
      have hlike : Context.Like ⟨env, f', inv.workspace, ⟨actorOf env inv, stamp⟩⟩
          ⟨env, g', inv.workspace, ⟨actorOf env inv, stamp⟩⟩ := by
        refine ⟨?_, rfl⟩
        simp only [Context.activeWorkspace, Environment.activeWorkspace, loadSettings_eq h' hserves]
      rw [hwork _ _ opened.database hlike]
      split
      · exact .same _ h'
      · exact .same _ (h'.save fun location => hplace opened location rfl)

/-- Removing a database is confined to it. -/
theorem confined_removeDatabase {force : Bool} (hname : env.databasePath inv.database = some path) :
    ConfinedAnswer r before (removeDatabase f path force) (removeDatabase g path force) := by
  have hnamed := hserves.named path hname
  have hremoved : ConfinedAnswer r before (f.removeAll (path :: Files.sideFiles path))
      (g.removeAll (path :: Files.sideFiles path)) :=
    h.removeAll (List.forall_mem_cons.2 ⟨hnamed, hserves.beside path hname⟩)
  unfold removeDatabase
  rw [h.exists?_eq hnamed]
  split
  · split
    · generalize f.removeAll (path :: Files.sideFiles path) = x,
        g.removeAll (path :: Files.sideFiles path) = y at hremoved ⊢
      cases hremoved with
      | same answer h' => cases answer <;> exact .same _ h'
    · exact .same _ h
  · exact .same _ h

/-- Making a database is confined to its region. -/
theorem confined_makeDatabase (hname : env.databasePath inv.database = some path) :
    ConfinedAnswer r before (makeDatabase f path now) (makeDatabase g path now) := by
  have hmade := h.makeParents (hserves.named path hname)
  unfold makeDatabase
  generalize f.makeParents path = x, g.makeParents path = y at hmade ⊢
  cases hmade with
  | @same f' g' answer h' =>
    cases answer with
    | error fault => exact .same _ h'
    | ok u =>
      have hopened : ConfinedAnswer r before (f'.openDatabase path now)
          (g'.openDatabase path now) := h'.openDatabase (hserves.opened path hname)
      dsimp only
      generalize f'.openDatabase path now = x, g'.openDatabase path now = y at hopened ⊢
      cases hopened with
      | same answer h'' => cases answer <;> exact .same _ h''

/-- Saving the default workspace is confined to it. -/
theorem confined_saveDefaultWorkspace (workspace : String) :
    ConfinedAnswer r before (saveDefaultWorkspace env f workspace)
      (saveDefaultWorkspace env g workspace) := by
  unfold saveDefaultWorkspace
  rw [loadSettings_eq h hserves]
  split
  · exact .same _ h
  · exact confined_saveSettings h hserves _

/-- An attempt to make a database is confined to it. -/
theorem confined_initDatabase {force : Bool} {workspace : Option String} :
    ConfinedAnswer r before (initDatabase env stamp inv f force workspace)
      (initDatabase env stamp inv g force workspace) := by
  unfold initDatabase
  split
  · exact .same _ h
  next path hname =>
  -- Three changes one after the other, each done alike to both, as long as none fails.
  have hremoved : ConfinedAnswer r before (removeDatabase f path force)
      (removeDatabase g path force) := confined_removeDatabase h hserves hname
  generalize removeDatabase f path force = x, removeDatabase g path force = y at hremoved ⊢
  cases hremoved with
  | @same f₁ g₁ answer h₁ =>
    cases answer with
    | error e => exact .same _ h₁
    | ok u =>
      have hmade : ConfinedAnswer r before (makeDatabase f₁ path stamp.now)
          (makeDatabase g₁ path stamp.now) := confined_makeDatabase h₁ hserves hname
      dsimp only
      generalize makeDatabase f₁ path stamp.now = x, makeDatabase g₁ path stamp.now = y at hmade ⊢
      cases hmade with
      | @same f₂ g₂ answer h₂ =>
        cases answer with
        | error e => exact .same _ h₂
        | ok made =>
          cases workspace with
          | none => exact .same _ h₂
          | some workspace =>
            have hsaved : ConfinedAnswer r before (saveDefaultWorkspace env f₂ workspace)
                (saveDefaultWorkspace env g₂ workspace) :=
              confined_saveDefaultWorkspace h₂ hserves workspace
            dsimp only
            generalize saveDefaultWorkspace env f₂ workspace = x,
              saveDefaultWorkspace env g₂ workspace = y at hsaved ⊢
            cases hsaved with
            | same answer h₃ => cases answer <;> exact .same _ h₃

/-- Every command is confined to its region. -/
theorem confined_execute : ConfinedAnswer r before (execute env stamp inv f)
    (execute env stamp inv g) := by
  unfold execute
  split
  · exact confined_initDatabase h hserves
  · exact .same _ h
  · exact .same _ h
  · exact confined_withDatabase h hserves fun _ _ _ hlike => project_like hlike _
  · exact confined_withDatabase h hserves fun _ _ _ hlike => issue_like hlike _
  · exact confined_withDatabase h hserves fun _ _ _ hlike => step_like hlike _
  · exact confined_withDatabase h hserves fun _ _ _ hlike => pipeline_like hlike _
  · split
    · exact .same _ h
    · exact confined_withDatabase h hserves fun _ _ _ hlike => recordGate_like hlike _ _ _

end Serving

end CommandLine

/-! ### The locations of a command -/

namespace Path

variable {start location other : Location} {names : List String} {path : String}

/-- What is above a location that is passed is passed too, or it is above the start. -/
theorem passed_above (hmem : location ∈ passed start names) (habove : other <+: location) :
    other ∈ passed start names ∨ other <+: start := by
  induction names generalizing start with
  | nil => cases hmem
  | cons name names ih =>
    -- One step further leads down, up, or nowhere.
    have hstep : other <+: step start name → other = step start name ∨ other <+: start := by
      intro hother
      unfold step at hother ⊢
      split_ifs at hother ⊢
      · exact .inr hother
      · exact .inr (hother.trans (List.dropLast_prefix start))
      · exact List.prefix_concat_iff.1 hother
    have hnext : other <+: step start name →
        other ∈ passed start (name :: names) ∨ other <+: start := by
      intro hother
      rcases hstep hother with rfl | hstart
      · exact .inl List.mem_cons_self
      · exact .inr hstart
    rcases List.mem_cons.1 hmem with rfl | hrest
    · exact hnext habove
    · rcases ih hrest with hpassed | hother
      · exact .inl (List.mem_cons_of_mem _ hpassed)
      · exact hnext hother

/-- The last location that is passed is where the names lead to. -/
theorem getLastD_passed (hnames : names ≠ []) (start other : Location) :
    (passed start names).getLastD other = reached start names := by
  obtain ⟨before, last, rfl⟩ := (List.eq_nil_or_concat names).resolve_left hnames
  have hlast : passed (reached start before) [last] = [step (reached start before) last] := rfl
  rw [List.concat_eq_append, passed_append, hlast, List.getLastD_concat, reached, reached,
    List.foldl_append]
  rfl

/-- A path that does not begin at the root, and is not empty, has a name. -/
theorem names_ne_nil (hpath : path.isEmpty = false) (hrelative : isAbsolute path = false) :
    Path.names path ≠ [] := by
  cases hchars : path.toList with
  | nil =>
    have hempty : path = "" := String.toList_eq_nil_iff.1 hchars
    rw [hempty] at hpath
    cases hpath
  | cons c cs =>
    have hslash : c ≠ '/' := by
      rintro rfl
      simp [isAbsolute, hchars] at hrelative
    -- The first part of the path begins with its first character.
    have hfirst : ∃ part parts, split (c :: cs) = (c :: part) :: parts := by
      unfold split
      split
      · exact ⟨_, _, rfl⟩
      · rw [if_neg hslash]
        exact ⟨_, _, rfl⟩
    obtain ⟨part, parts, hsplit⟩ := hfirst
    have hname : String.ofList (c :: part) ∈ Path.names path := by
      refine List.mem_filter.2 ⟨List.mem_map.2 ⟨c :: part, ?_, rfl⟩, by simp⟩
      rw [hchars, hsplit]
      exact List.mem_cons_self
    exact List.ne_nil_of_mem hname

end Path

/-- What is above a companion is the companion itself, or above the database. -/
theorem Companion.above {companion : Companion} {database other : Location}
    (h : other <+: companion.location database) :
    other = companion.location database ∨ other <+: database := by
  unfold Companion.location at h ⊢
  split at h
  · rcases List.prefix_concat_iff.1 h with hsame | hother
    · exact .inl hsame
    · exact .inr (hother.trans (List.dropLast_prefix database))
  · exact .inr h

namespace CommandLine

variable {env : Environment} {inv : Invocation} {workingDirectory location other : Location}
  {name path : String}

/-- What is above a place on a path is on the path, or above where it starts. -/
theorem passedBy_above (hmem : location ∈ passedBy workingDirectory path)
    (habove : other <+: location) :
    other ∈ passedBy workingDirectory path ∨ other <+: workingDirectory := by
  rcases Path.passed_above hmem habove with hpassed | hstart
  · exact .inl hpassed
  · split_ifs at hstart
    · rw [List.prefix_nil.1 hstart]
      exact .inr List.nil_prefix
    · exact .inr hstart

/-- What is above a place that opening a database may look at is on the path, or above its start. -/
theorem databaseLocations_above (hmem : location ∈ databaseLocations workingDirectory name)
    (habove : other <+: location) :
    other ∈ databaseLocations workingDirectory name ∨ other <+: workingDirectory := by
  unfold databaseLocations at hmem ⊢
  split at hmem
  · cases hmem
  · next address haddress =>
    dsimp only at hmem ⊢
    have hpassed : ∀ location ∈ passedBy workingDirectory address.path, other <+: location →
        other ∈ passedBy workingDirectory address.path ∨ other <+: workingDirectory :=
      fun _ hmem habove => passedBy_above hmem habove
    rcases List.mem_append.1 hmem with hon | hbeside
    · exact (hpassed location hon habove).imp_left (List.mem_append_left _)
    · obtain ⟨companion, hcompanion, rfl⟩ := List.mem_map.1 hbeside
      rcases Companion.above habove with rfl | hdatabase
      · exact .inl (List.mem_append_right _ (List.mem_map_of_mem hcompanion))
      -- The database is the last of what is passed, or nothing is.
      · rcases List.eq_nil_or_concat (passedBy workingDirectory address.path) with
          hnone | ⟨before, last, hlast⟩
        · rw [hnone] at hdatabase
          rw [List.prefix_nil.1 hdatabase]
          exact .inr List.nil_prefix
        · rw [List.concat_eq_append] at hlast
          rw [hlast, List.getLastD_concat] at hdatabase
          have hmem : last ∈ passedBy workingDirectory address.path := by simp [hlast]
          exact (hpassed last hmem hdatabase).imp_left (List.mem_append_left _)

/-- The places of a command are those of the settings, and those of the database by its name. -/
theorem mem_locationsOf : location ∈ locationsOf env inv workingDirectory ↔
    (∃ path, env.settingsPath = .ok path ∧ location ∈ passedBy workingDirectory path) ∨
      ∃ name, env.databasePath inv.database = some name ∧
        (location ∈ passedBy workingDirectory name ∨
          (∃ path ∈ Files.sideFiles name, location ∈ passedBy workingDirectory path) ∨
          location ∈ databaseLocations workingDirectory name) := by
  have hsettings :
      ∀ path, path ∈ env.settingsPath.toOption.toList ↔ env.settingsPath = .ok path := by
    intro path
    cases env.settingsPath <;> simp [Except.toOption, eq_comm]
  simp only [locationsOf, List.mem_append, List.mem_flatMap, hsettings, Option.mem_toList]
  constructor
  · rintro (⟨path, (hpath | hname) | ⟨name, hname, hbeside⟩, hmem⟩ | ⟨name, hname, hmem⟩)
    · exact .inl ⟨path, hpath, hmem⟩
    · exact .inr ⟨path, hname, .inl hmem⟩
    · exact .inr ⟨name, hname, .inr (.inl ⟨path, hbeside, hmem⟩)⟩
    · exact .inr ⟨name, hname, .inr (.inr hmem)⟩
  · rintro (⟨path, hpath, hmem⟩ | ⟨name, hname, hmem | ⟨path, hbeside, hmem⟩ | hmem⟩)
    · exact .inl ⟨path, .inl (.inl hpath), hmem⟩
    · exact .inl ⟨name, .inl (.inr hname), hmem⟩
    · exact .inl ⟨path, .inr ⟨name, hname, hbeside⟩, hmem⟩
    · exact .inr ⟨name, hname, hmem⟩

/-- What is above a place of a command is one, or above the working directory. -/
theorem locationsOf_above (hmem : location ∈ locationsOf env inv workingDirectory)
    (habove : other <+: location) :
    other ∈ locationsOf env inv workingDirectory ∨ other <+: workingDirectory := by
  rw [mem_locationsOf] at hmem ⊢
  rcases hmem with
    ⟨path, hpath, hmem⟩ | ⟨name, hname, hmem | ⟨path, hbeside, hmem⟩ | hmem⟩
  · exact (passedBy_above hmem habove).imp_left fun h => .inl ⟨path, hpath, h⟩
  · exact (passedBy_above hmem habove).imp_left fun h => .inr ⟨name, hname, .inl h⟩
  · exact (passedBy_above hmem habove).imp_left
      fun h => .inr ⟨name, hname, .inr (.inl ⟨path, hbeside, h⟩)⟩
  · exact (databaseLocations_above hmem habove).imp_left
      fun h => .inr ⟨name, hname, .inr (.inr h)⟩

/-- The locations of a command, with the working directory and what is above it, make a region. -/
def regionOf (env : Environment) (inv : Invocation) (workingDirectory : Location)
    (hplain : workingDirectory.IsPlain) : Region where
  locations := {location |
    location ∈ locationsOf env inv workingDirectory ∨ location <+: workingDirectory}
  workingDirectory := workingDirectory
  working_mem := .inr List.prefix_rfl
  working_plain := hplain
  above := by
    rintro location other (hmem | hmem) habove
    · exact locationsOf_above hmem habove
    · exact .inr (habove.trans hmem)

section Regional

variable {hplain : workingDirectory.IsPlain}

/-- A path is covered if all its places are those of the command. -/
theorem coversPath_regionOf
    (h : ∀ location ∈ passedBy workingDirectory path,
      location ∈ locationsOf env inv workingDirectory) :
    (regionOf env inv workingDirectory hplain).CoversPath path where
  start_mem := by
    unfold Region.origin
    split
    · exact Region.nil_mem _
    · exact Region.working_mem _
  passed_mem location hmem := .inl (h location hmem)

/-- The database of the command is covered. -/
theorem coversDatabase_regionOf (hname : env.databasePath inv.database = some name) :
    (regionOf env inv workingDirectory hplain).CoversDatabase name := by
  intro address haddress htransient
  have hlocations : ∀ location ∈ databaseLocations workingDirectory name,
      location ∈ locationsOf env inv workingDirectory :=
    fun _ hmem => mem_locationsOf.2 (.inr ⟨name, hname, .inr (.inr hmem)⟩)
  rw [databaseLocations, haddress] at hlocations
  obtain ⟨hpassed, hbeside⟩ := List.forall_mem_append.1 hlocations
  have hcovers : (regionOf env inv workingDirectory hplain).CoversPath address.path :=
    coversPath_regionOf hpassed
  refine ⟨hcovers, hcovers.reached_mem, fun companion => ?_⟩
  by_cases hnames : Path.names address.path = []
  · -- Only the root has a path without names, and no companion stands beside it.
    have hfilled : address.path.isEmpty = false := by
      simp only [Address.isTransient, Bool.or_eq_false_iff] at htransient
      exact htransient.1.1.1
    cases habsolute : Path.isAbsolute address.path with
    | false => exact absurd hnames (Path.names_ne_nil hfilled habsolute)
    | true =>
      rw [hnames, Region.origin, if_pos habsolute]
      exact Region.nil_mem _
  · -- Else the database is the last location that is passed.
    rw [← Path.getLastD_passed hnames _ []]
    have hlisted : companion ∈ [Companion.journal, .log, .index] := by cases companion <;> simp
    exact .inl (hbeside _ (List.mem_map_of_mem hlisted))

/-- The settings and the database of a command lie in its region. -/
theorem serves_regionOf :
    (regionOf env inv workingDirectory hplain).Serves env inv.database where
  settings path hpath :=
    coversPath_regionOf fun _ hmem => mem_locationsOf.2 (.inl ⟨path, hpath, hmem⟩)
  named name hname :=
    coversPath_regionOf fun _ hmem => mem_locationsOf.2 (.inr ⟨name, hname, .inl hmem⟩)
  beside name hname path hbeside := coversPath_regionOf fun _ hmem =>
    mem_locationsOf.2 (.inr ⟨name, hname, .inr (.inl ⟨path, hbeside, hmem⟩)⟩)
  opened _ hname := coversDatabase_regionOf hname

end Regional

/-- A command line looks at some locations only, and changes nothing elsewhere. -/
structure Secluded (env : Environment) (stamp : Stamp) (screen : Screen) (arguments : List String)
    (files : Files) (locations : List Location) : Prop where
  /-- Whatever else there is, it comes to the same. -/
  sees : ∀ files', files'.workingDirectory = files.workingDirectory →
    (∀ location ∈ locations, files'.at? location = files.at? location) →
      (run env stamp screen arguments files').1 = (run env stamp screen arguments files).1 ∧
        ∀ location ∈ locations, (run env stamp screen arguments files').2.at? location =
          (run env stamp screen arguments files).2.at? location
  /-- Whatever else there is, it stays. -/
  keeps : ∀ location, location ∉ locations →
    (run env stamp screen arguments files).2.at? location = files.at? location

/-- What a command prints depends on its region only. -/
theorem confined_runInvocation {r : Region} {before f g : Files} {stamp : Stamp} {screen : Screen}
    (h : Confined r before f g) (hserves : r.Serves env inv.database) :
    ConfinedAnswer r before (runInvocation env stamp screen inv f)
      (runInvocation env stamp screen inv g) := by
  have hdone : ConfinedAnswer r before (execute env stamp inv f) (execute env stamp inv g) :=
    confined_execute h hserves
  unfold runInvocation
  generalize execute env stamp inv f = x, execute env stamp inv g = y at hdone ⊢
  cases hdone with
  | same answer h' =>
    dsimp only
    split
    · exact .same _ h'
    · exact .same _ h'

/-- Above the working directory there are directories. -/
theorem at?_of_above {files : Files} (h : location <+: files.workingDirectory) :
    files.at? location = some .directory :=
  if_pos (List.isPrefixOf_iff_prefix.2 h)

/-- A command line looks at its own locations only: the settings, the database and what stands
beside it. -/
theorem secluded_run {stamp : Stamp} {screen : Screen} {arguments : List String} {files : Files}
    (hplain : files.workingDirectory.IsPlain) (hread : read env arguments = .ok inv) :
    Secluded env stamp screen arguments files (locationsOf env inv files.workingDirectory) := by
  let r := regionOf env inv files.workingDirectory hplain
  -- Whatever agrees on the region is run alike.
  have hrun : ∀ files' : Files, files'.workingDirectory = files.workingDirectory →
      (∀ location ∈ locationsOf env inv files.workingDirectory,
        files'.at? location = files.at? location) →
      ConfinedAnswer r files (run env stamp screen arguments files)
        (run env stamp screen arguments files') := by
    intro files' hsame hnodes
    have halike : Files.Alike r files files' := by
      refine ⟨rfl, hsame, fun location hmem => ?_⟩
      rcases hmem with hmem | habove
      · exact hnodes location hmem
      · -- Above the working directory there are directories in both.
        rw [at?_of_above habove, at?_of_above (hsame ▸ habove)]
    rw [run, run, hread]
    exact confined_runInvocation (.refl halike) serves_regionOf
  constructor
  · intro files' hsame hnodes
    have hconfined := hrun files' hsame hnodes
    generalize run env stamp screen arguments files = x,
      run env stamp screen arguments files' = y at hconfined ⊢
    cases hconfined with
    | same ended h => exact ⟨rfl, fun location hmem => h.nodes location (.inl hmem)⟩
  · intro location hother
    have hconfined := hrun files rfl fun _ _ => rfl
    generalize run env stamp screen arguments files = x at hconfined ⊢
    cases hconfined with
    | same ended h =>
      by_cases habove : location <+: files.workingDirectory
      · rw [at?_of_above habove, at?_of_above (h.here ▸ habove)]
      · exact h.kept location (not_or.2 ⟨hother, habove⟩)

end CommandLine

end ReviewPipeline
