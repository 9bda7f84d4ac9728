import ReviewPipeline.Proofs.Clear
import ReviewPipeline.Proofs.Commands
import ReviewPipeline.Proofs.Words

/-!
# Short Identifiers on the Command Line

Whoever gives a command may call an issue by its short identifier or by its full one. Here it is
shown that this makes no difference, at any place where a database was made by commands alone.

## Main definitions

* `Rows.Labelled`: the rows of a labelled database;
* `Rows.WellNamed`: what is promised of the prefixes of projects and the identifiers of issues;
* `Database.FindsSame`: two texts find the same issue;
* `CommandLine.Overtaxes`: what a command breaks off for;
* `CommandLine.Written`: the files after work that has made one database of another;
* `CommandLine.runAll`: the files after several command lines.

## Main results

* `meets_runAll`: what calls keep, several command lines keep at a place;
* `keptByCalls_labelled`: calls keep rows labelled;
* `clear_execute`: on a labelled database no short identifier is found to stand for two issues, and
  a command breaks off only if it is too much for the program;
* `written_withDatabase`: what work on a database leaves in the files;
* `run_about`: a command line comes to the same by whatever word it finds the issue;
* `shortIds_name_issues`: a short identifier names exactly one issue, and is interchangeable with
  the full one.
-/

namespace ReviewPipeline

open CommandLine

variable {env : Environment} {stamp : Stamp} {screen : Screen} {inv : Invocation}
  {files files' : Files} {place : Location} {db : Database} {ctx : Context} {s s' : String}

/-! ### What a command works with -/

/-- A command that has its database open has opened it under its name. -/
theorem exists_name_of_openExisting {now : Int} {opened : Opened}
    (hopen : openExisting env now inv files = (.ok opened, files')) :
    ∃ name, env.databasePath inv.database = some name ∧
      files.openDatabase name now (waitOf env files) = (.ok opened, files') := by
  rcases openExisting_cases now with ⟨e, hfailed⟩ | ⟨name, hname, hopened⟩
  · rw [hopen] at hfailed
    cases hfailed
  · exact ⟨name, hname, hopened.symm.trans hopen⟩

/-- A command works with the rows of its place. -/
theorem opens_of_openExisting {now : Int} {opened : Opened}
    (hplace : placeOf env inv files = some place)
    (hopen : openExisting env now inv files = (.ok opened, files')) :
    Files.Opens (waitOf env files) place files (.ok opened, files') := by
  obtain ⟨name, hname, hopened⟩ := exists_name_of_openExisting hopen
  rw [placeOf, hname] at hplace
  exact hopened ▸ Files.opens_openDatabase hplace

/-- A command whose database is in no file works with nothing, and touches no file. -/
theorem opensNowhere_of_openExisting {now : Int} {opened : Opened}
    (hplace : placeOf env inv files = none)
    (hopen : openExisting env now inv files = (.ok opened, files')) :
    Files.OpensNowhere (waitOf env files) files (.ok opened, files') := by
  obtain ⟨name, hname, hopened⟩ := exists_name_of_openExisting hopen
  rw [placeOf, hname] at hplace
  exact hopened ▸ Files.opensNowhere_openDatabase hplace

/-- What a command has opened is at its place. -/
theorem location_of_openExisting {now : Int} {opened : Opened}
    (hopen : openExisting env now inv files = (.ok opened, files')) :
    opened.location = placeOf env inv files := by
  cases hplace : placeOf env inv files with
  | some location => exact ((opens_of_openExisting hplace hopen).opened opened rfl).1
  | none => exact ((opensNowhere_of_openExisting hplace hopen).opened opened rfl).1

/-! ### Labelled rows -/

/-- The rows of a labelled database. -/
def Rows.Labelled (rows : Rows) : Prop :=
  ∃ db : Database, db.rows = rows ∧ db.Labelled

/-- Every call keeps the rows of a labelled database so. -/
theorem keptByCalls_labelled : KeptByCalls Rows.Labelled where
  empty := ⟨Database.create 0, rfl, Database.labelled_create 0⟩
  kept := by
    rintro db db' author op reply hcall horderly - hperform ⟨other, hrows, hlabelled⟩
    have hdb : db.Labelled := hlabelled.congr hrows.symm
    have hcalled := Database.called_of_perform hdb.toConsistent hcall hperform
    exact ⟨db', rfl, hcalled.labelled horderly hdb⟩

/-- What a command has opened is labelled, if the rows at its place are. -/
theorem labelled_of_openExisting {now : Int} {opened : Opened} (h : (files.rows place).Labelled)
    (hplace : ∀ location ∈ placeOf env inv files, location = place)
    (hopen : openExisting env now inv files = (.ok opened, files')) :
    opened.database.Labelled := by
  have hopened := (meets_openExisting keptByCalls_labelled.empty h).2 opened (by rw [hopen])
  obtain ⟨db, hrows, hdb⟩ := hopened fun location hlocation =>
    hplace location ((location_of_openExisting hopen).symm.trans hlocation)
  exact hdb.congr hrows.symm

/-! ### No identifier stands for two issues -/

/-- What a command is too much for, so that the program breaks off. -/
inductive CommandLine.Overtaxes (env : Environment) (inv : Invocation) (files : Files) :
    Crash → Prop
  /-- The settings ask for a wait that is too long. -/
  | wait (hwait : Files.longestWait < waitOf env files) : Overtaxes env inv files .waitTooLong
  /-- A step of a project is to get the number after the one of a step that is there already, and
  64 bits do not hold it. -/
  | number {name project stepType : String} {agent : Option String} {autoAdvance : Bool}
      {place : Location} {row : Row Step}
      (hcommand : inv.command = .step (.add name project stepType agent autoAdvance none))
      (hplace : placeOf env inv files = some place) (hrow : row ∈ (files.rows place).steps)
      (hproject : row.record.projectId = project)
      (hlast : Database.fitsInt64 (row.record.number + 1) = false) :
      Overtaxes env inv files .numberOverflow

/-- If 64 bits do not hold the number after the last one of a project, some step has that one. -/
theorem Database.exists_row_of_lastStepNumber {projectId : String}
    (h : fitsInt64 (db.lastStepNumber projectId + 1) = false) :
    ∃ row ∈ db.steps, row.record.projectId = projectId ∧
      fitsInt64 (row.record.number + 1) = false := by
  unfold lastStepNumber at h
  cases hmax : ((db.steps.filter fun row => row.record.projectId == projectId).map
      (·.record.number)).max? with
  | none =>
    rw [hmax] at h
    cases h
  | some number =>
    rw [hmax] at h
    obtain ⟨row, hrow, rfl⟩ := List.mem_map.1 (List.max?_mem hmax)
    obtain ⟨hmem, hproject⟩ := List.mem_filter.1 hrow
    exact ⟨row, hmem, eq_of_beq hproject, h⟩

/-- A step that cannot be numbered in what a command has opened is too much for the command. -/
theorem overtaxes_of_lastStepNumber {now : Int} {opened : Opened}
    (hopen : openExisting env now inv files = (.ok opened, files'))
    {name project stepType : String} {agent : Option String} {autoAdvance : Bool}
    (hcommand : inv.command = .step (.add name project stepType agent autoAdvance none))
    (h : Database.fitsInt64 (opened.database.lastStepNumber project + 1) = false) :
    Overtaxes env inv files .numberOverflow := by
  obtain ⟨row, hrow, hproject, hlast⟩ := Database.exists_row_of_lastStepNumber h
  have hmem : row ∈ opened.database.rows.steps := hrow
  cases hplace : placeOf env inv files with
  | some place =>
    rw [((opens_of_openExisting hplace hopen).opened opened rfl).2] at hmem
    exact .number hcommand hplace hmem hproject hlast
  | none =>
    -- In no file, there is no step.
    rw [((opensNowhere_of_openExisting hplace hopen).opened opened rfl).2] at hmem
    cases hmem

section Clear

variable {may : Crash → Prop}

/-- Opening a database may break off only for a wait that is too long. -/
theorem clear_openDatabase {name : String} {now : Int} {wait : Nat}
    (h : Files.longestWait < wait → may .waitTooLong) :
    Clear may (files.openDatabase name now wait).1 := by
  cases hopen : (files.openDatabase name now wait).1 with
  | ok opened => exact clear_ok
  | error e =>
    cases Files.refusal_openDatabase hopen with
    | fault fault => exact clear_error nofun nofun
    | wait hwait => exact clear_crashed (h hwait)

/-- Opening the database of a command breaks off only for a wait that is too long. -/
theorem clear_openExisting {now : Int} :
    Clear (Overtaxes env inv files) (openExisting env now inv files).1 := by
  unfold openExisting
  split
  · exact clear_error nofun nofun
  split
  · split
    · next e he => exact Environment.clear_loadSettings.of_error he
    · next settings hsettings =>
      refine clear_openDatabase fun hwait => .wait ?_
      rw [waitOf, hsettings]
      exact hwait
  · exact clear_error nofun nofun

/-- Work on a labelled database that is clear stays so until it is printed. -/
theorem clear_withDatabase {work : Context → Database → Except Error (Answer × Database)}
    (hwork : ∀ ctx opened files', openExisting env stamp.now inv files = (.ok opened, files') →
      opened.database.Labelled → Unambiguous (Overtaxes env inv files) (work ctx opened.database))
    (h : (files.rows place).Labelled)
    (hplace : ∀ location ∈ placeOf env inv files, location = place) (json isColored : Bool) :
    Clear (Overtaxes env inv files)
      ((withDatabase env stamp inv files work).1 >>= printed env json isColored) := by
  unfold withDatabase
  split
  · next e files' hopen => exact clear_openExisting.of_error (congrArg Prod.fst hopen)
  · next opened files' hopen =>
    extract_lets ctx
    have hclear := hwork ctx opened files' hopen (labelled_of_openExisting h hplace hopen)
    cases hdone : work ctx opened.database with
    | error e => exact hclear.clear.of_error hdone
    | ok made => exact hclear.report made.1 made.2 hdone env json isColored

/-- Saving the default workspace fails in the settings only. -/
theorem clear_saveDefaultWorkspace {workspace : String} :
    Clear may (saveDefaultWorkspace env files workspace).1 := by
  unfold saveDefaultWorkspace Environment.saveSettings
  split
  · next e he => exact Environment.clear_loadSettings.of_error he
  split
  · next e he => exact Environment.clear_settingsPath.of_error he
  split
  · exact clear_error nofun nofun
  split
  · exact clear_ok
  · exact clear_error nofun nofun

/-- Removing a database fails in the files only. -/
theorem clear_removeDatabase {path : String} {force : Bool} :
    Clear may (removeDatabase files path force).1 := by
  unfold removeDatabase
  split
  · split
    · split
      · exact clear_ok
      · exact clear_error nofun nofun
    · exact clear_error nofun nofun
  · exact clear_ok

/-- A path that cannot be told is no issue. -/
theorem clear_initialized {path : String} {saved : Option String} {json isColored : Bool} :
    Clear may (printed env json isColored (.initialized path saved)) := by
  unfold printed
  split
  · unfold Answer.told
    dsimp only
    split
    · exact clear_ok
    · exact clear_error nofun nofun
  · exact clear_ok

/-- Completions are not put into words here. -/
theorem clear_completions {shell : Shell} {json isColored : Bool} :
    Clear may (printed env json isColored (.completions shell)) := by
  unfold printed
  split <;> exact clear_ok

/-- A database is made with the wait that is usual, which is not too long. -/
theorem clear_makeDatabase {path : String} {now : Int} (json isColored : Bool) :
    Clear may ((makeDatabase files path now).1 >>= printed env json isColored) := by
  unfold makeDatabase
  split
  · exact clear_error nofun nofun
  split
  · next hopen =>
    refine (clear_openDatabase fun hwait => ?_).of_error (congrArg Prod.fst hopen)
    exact absurd hwait (by decide)
  · exact clear_initialized

/-- An attempt to make a database never breaks off. -/
theorem clear_initDatabase {force : Bool} {workspace : Option String} (json isColored : Bool) :
    Clear may
      ((initDatabase env stamp inv files force workspace).1 >>= printed env json isColored) := by
  unfold initDatabase
  split
  · exact clear_error nofun nofun
  split
  · next hremove => exact clear_removeDatabase.of_error (congrArg Prod.fst hremove)
  split
  · split
    · next hsave => exact clear_saveDefaultWorkspace.of_error (congrArg Prod.fst hsave)
    · exact clear_initialized
  · exact clear_makeDatabase json isColored

end Clear

/-- Whatever a command comes to on a labelled database, it is not that a short identifier stands for
two issues; and if the program breaks off, the command is too much for it. -/
theorem clear_execute (h : (files.rows place).Labelled)
    (hplace : ∀ location ∈ placeOf env inv files, location = place) (json isColored : Bool) :
    Clear (Overtaxes env inv files)
      ((execute env stamp inv files).1 >>= printed env json isColored) := by
  unfold execute
  split
  · exact clear_initDatabase json isColored
  · exact clear_printed rfl
  · exact clear_completions
  · exact clear_withDatabase (fun _ _ _ _ _ => unambiguous_project _) h hplace json isColored
  · exact clear_withDatabase (fun _ _ _ _ hdb => unambiguous_issue hdb _) h hplace json isColored
  · next command hcommand =>
    refine clear_withDatabase (fun _ opened _ hopen _ => unambiguous_step command ?_) h hplace json
      isColored
    rintro name project stepType agent autoAdvance rfl hpast
    exact overtaxes_of_lastStepNumber hopen hcommand hpast
  · exact clear_withDatabase (fun _ _ _ _ hdb => unambiguous_pipeline hdb _) h hplace json isColored
  · split
    · next he => exact clear_choose.of_error he
    · exact clear_withDatabase (fun _ _ _ _ hdb => unambiguous_recordGate hdb _ _ _) h hplace json
        isColored

/-- No command line finds that a short identifier stands for two issues. -/
theorem outcome_ne_ambiguousShortId {arguments : List String} {result : Finished}
    (h : (files.rows place).Labelled)
    (hplace : ∀ inv, read env arguments = .ok inv →
      ∀ location ∈ placeOf env inv files, location = place)
    (hrun : (run env stamp screen arguments files).1 = .finished result) :
    result.outcome ≠ .error (.ambiguousShortId s) := by
  unfold run at hrun
  split at hrun
  · cases hrun
  · cases hrun
  · next inv hread =>
    unfold runInvocation at hrun
    dsimp only at hrun
    split at hrun
    · cases hrun
    · cases hrun
      exact fun hfound => (clear_execute h (hplace inv hread) _ _ _ hfound).unambiguous s rfl

/-! ### Interchange -/

/-- Two texts find the same issue. -/
def Database.FindsSame (db : Database) (s s' : String) : Prop :=
  ∃ issue, db.issue? s = .ok (some issue) ∧ db.issue? s' = .ok (some issue)

/-- Two texts for the same issue find it alike in the active workspace. -/
theorem scopedIssue_congr (h : db.FindsSame s s') :
    ctx.scopedIssue db s = ctx.scopedIssue db s' := by
  obtain ⟨issue, hs, hs'⟩ := h
  unfold Context.scopedIssue
  rw [hs, hs']
  rfl

/-- Works that do the same on what is open come to the same. -/
theorem withDatabase_congr {work work' : Context → Database → Except Error (Answer × Database)}
    (h : ∀ opened files', openExisting env stamp.now inv files = (.ok opened, files') →
      ∀ ctx, work ctx opened.database = work' ctx opened.database) :
    withDatabase env stamp inv files work = withDatabase env stamp inv files work' := by
  unfold withDatabase
  split
  · rfl
  · next opened files' hopen => simp only [h opened files' hopen]

/-- Which issue a command is about makes no difference to the database it opens. -/
theorem withDatabase_about {work : Context → Database → Except Error (Answer × Database)} :
    withDatabase env stamp (inv.about s) files work = withDatabase env stamp inv files work := rfl

/-- A command comes to the same by whatever identifier it finds the issue. -/
theorem execute_about (h : ∀ opened files',
      openExisting env stamp.now inv files = (.ok opened, files') →
      opened.database.FindsSame s s') :
    execute env stamp (inv.about s) files = execute env stamp (inv.about s') files := by
  have hwork : ∀ {work work' : Context → Database → Except Error (Answer × Database)},
      (∀ ctx db, db.FindsSame s s' → work ctx db = work' ctx db) →
      withDatabase env stamp inv files work = withDatabase env stamp inv files work' :=
    fun hsame => withDatabase_congr fun opened files' hopen ctx =>
      hsame ctx opened.database (h opened files' hopen)
  unfold execute
  simp only [withDatabase_about]
  obtain ⟨command, database, actor, workspace⟩ := inv
  -- Every command about an issue begins with the look-up, and goes on with the issue found by it.
  cases command with
  | init | version | completions | project | step => rfl
  | issue command =>
    cases command with
    | create | list => rfl
    | inspect id =>
      exact hwork fun ctx db h => by simp only [IssueCommand.execute, scopedIssue_congr h]
  | pipeline command =>
    cases command
    all_goals
      exact hwork fun ctx db h => by simp only [PipelineCommand.execute, scopedIssue_congr h]
  | recordGate issue status error =>
    dsimp only [Invocation.about, Command.about]
    split
    · rfl
    · exact hwork fun ctx db h => by simp only [recordGate, scopedIssue_congr h]

/-- A command prints the same by whatever identifier it finds the issue. -/
theorem runInvocation_about (h : ∀ opened files',
      openExisting env stamp.now inv files = (.ok opened, files') →
      opened.database.FindsSame s s') :
    runInvocation env stamp screen (inv.about s) files =
      runInvocation env stamp screen (inv.about s') files := by
  unfold runInvocation
  rw [execute_about h]
  rfl

/-- A command line comes to the same by whatever word it finds the issue. -/
theorem run_about {before after : List String} (hbefore : awaitsIssue before = true)
    (hs : s.toList.head? ≠ some '-') (hs' : s'.toList.head? ≠ some '-')
    (h : ∀ inv opened files', read env (before ++ s' :: after) = .ok inv →
      openExisting env stamp.now inv files = (.ok opened, files') →
      opened.database.FindsSame s s') :
    run env stamp screen (before ++ s :: after) files =
      run env stamp screen (before ++ s' :: after) files := by
  unfold run
  rw [read_about hbefore hs hs']
  have hself : read env (before ++ s' :: after) =
      (read env (before ++ s' :: after)).map (·.about s') := read_about hbefore hs' hs'
  cases hinv : read env (before ++ s' :: after) with
  | error ending => rfl
  | ok inv =>
    rw [hinv] at hself
    -- Putting in the word that is there already changes nothing.
    have hsame : inv.about s' = inv := (Except.ok.inj hself).symm
    change runInvocation env stamp screen (inv.about s) files =
      runInvocation env stamp screen inv files
    rw [runInvocation_about (h inv · · hinv), hsame]

/-! ### What a command leaves -/

variable {answer : Answer}

/-- A database that is saved stands at its location, unless there always is a directory. -/
theorem Files.rows_save_self {opened : Opened} (hlocation : opened.location = some place) :
    (files.save opened db).rows place = db.rows ∨
      files.rows place = {} ∧ (files.save opened db).rows place = {} := by
  rw [save, hlocation, rows, rows, at?_put_self]
  by_cases hfixed : place.isPrefixOf files.workingDirectory = true
  · rw [if_pos hfixed, at?, if_pos hfixed]
    exact .inr ⟨rfl, rfl⟩
  · rw [if_neg hfixed]
    exact .inl rfl

/-- Saving a database touches no other place. -/
theorem Files.rows_save_of_ne {opened : Opened} (hlocation : opened.location ≠ some place) :
    (files.save opened db).rows place = files.rows place := by
  unfold save
  split
  · rfl
  · next location hopened =>
    have hne : place ≠ location := fun hsame => hlocation (hopened.trans (hsame ▸ rfl))
    rw [rows, at?_put_of_ne hne, ← rows]

/-- A database is not at the root. -/
theorem place_ne_nil (hplace : placeOf env inv files = some place) : place ≠ [] := by
  obtain ⟨name, -, hname⟩ := Option.bind_eq_some_iff.1 hplace
  exact Files.databasePlace?_ne_nil hname

/-- What a command works with, once its database is open. -/
def CommandLine.contextOf (env : Environment) (stamp : Stamp) (inv : Invocation) (files : Files) :
    Context :=
  ⟨env, (openExisting env stamp.now inv files).2, inv.workspace, actorOf env inv, stamp⟩

/-- The files after work that has made one database of another. -/
structure CommandLine.Written (env : Environment) (inv : Invocation) (files files' : Files)
    (db db' : Database) : Prop where
  /-- The work was done on the rows of the place. -/
  read : ∀ place, placeOf env inv files = some place → db.rows = files.rows place
  /-- A database that is in no file was empty. -/
  empty : placeOf env inv files = none → db.rows = {}
  /-- The rows were written back, unless nothing can be put there. -/
  own : ∀ place, placeOf env inv files = some place →
    files'.rows place = db'.rows ∨ files.rows place = {} ∧ files'.rows place = {}
  /-- No row of another database is touched. -/
  others : ∀ place,
    (∀ location, placeOf env inv files = some location →
      ∀ companion : Companion, place ≠ companion.location location) →
    placeOf env inv files ≠ some place → files'.rows place = files.rows place

/-- Opening a database leaves the rows of all places that are no companions of it. -/
theorem rows_openExisting {now : Int}
    (hplace : ∀ location, placeOf env inv files = some location →
      ∀ companion : Companion, place ≠ companion.location location) :
    (openExisting env now inv files).2.rows place = files.rows place := by
  rcases openExisting_cases now with ⟨e, hopen⟩ | ⟨name, hname, hopen⟩
  · rw [hopen]
  · rw [placeOf, hname] at hplace
    rw [hopen]
    exact Files.rows_openDatabase hplace

/-- What work on a database leaves is found at the place of the command, and nowhere else. -/
theorem written_withDatabase {work : Context → Database → Except Error (Answer × Database)}
    (h : (withDatabase env stamp inv files work).1 = .ok answer) :
    ∃ db db', work (contextOf env stamp inv files) db = .ok (answer, db') ∧
      Written env inv files (withDatabase env stamp inv files work).2 db db' := by
  unfold withDatabase at h ⊢
  split at h
  · cases h
  next opened files' hopen =>
  have hcontext : contextOf env stamp inv files =
      ⟨env, files', inv.workspace, actorOf env inv, stamp⟩ := by rw [contextOf, hopen]
  have hlocation := location_of_openExisting hopen
  dsimp only at h ⊢
  rw [← hcontext] at h ⊢
  cases hdone : work (contextOf env stamp inv files) opened.database with
  | error e =>
    rw [hdone] at h
    cases h
  | ok made =>
    rw [hdone] at h
    cases h
    refine ⟨opened.database, made.2, hdone, ?_, ?_, ?_, ?_⟩
    · -- What is open has the rows of the place, or none if it is in no file.
      intro place hplace
      exact ((opens_of_openExisting hplace hopen).opened opened rfl).2
    · intro hplace
      exact ((opensNowhere_of_openExisting hplace hopen).opened opened rfl).2
    · -- What is saved goes to that place and to no other.
      intro place hplace
      have hkept := (opens_of_openExisting hplace hopen).keeps.self (place_ne_nil hplace)
      rw [← hkept]
      exact Files.rows_save_self (hlocation.trans hplace)
    · intro place hbeside hother
      have hkept : (openExisting env stamp.now inv files).2.rows place = files.rows place :=
        rows_openExisting hbeside
      rw [hopen] at hkept
      rw [← hlocation] at hother
      exact (Files.rows_save_of_ne hother).trans hkept

/-- An issue that is created comes after those that are there. -/
theorem issues_of_create {title project : String} {description : Option String} {db' : Database}
    (h : IssueCommand.execute ctx db (.create title project description) = .ok (answer, db')) :
    ∃ issue, answer = .issueCreated issue ∧ db.projects ≠ [] ∧
      db'.issues = db.issues ++ [{ record := issue }] := by
  unfold IssueCommand.execute at h
  dsimp only at h
  split at h
  · cases h
  obtain ⟨p, hscoped, h⟩ := bind_eq_ok_iff.1 h
  obtain ⟨⟨issue, next⟩, hmade, h⟩ := bind_eq_ok_iff.1 h
  cases h
  cases Database.createIssue_called hmade with
  | createIssue hproject =>
    exact ⟨issue, rfl, List.ne_nil_of_mem (Database.project_eq_ok hproject).1, rfl⟩

/-- An issue that is created on the command line comes after those that are at the place. -/
theorem issues_of_run_create {title project : String} {description : Option String} {issue : Issue}
    (hplace : placeOf env inv files = some place)
    (hcommand : inv.command = .issue (.create title project description))
    (h : (execute env stamp inv files).1 = .ok (.issueCreated issue)) :
    ((execute env stamp inv files).2.rows place).issues =
      (files.rows place).issues ++ [{ record := issue }] := by
  unfold execute at h ⊢
  rw [hcommand] at h ⊢
  obtain ⟨db, db', hdone, hwritten⟩ := written_withDatabase h
  obtain ⟨made, hanswer, hprojects, hissues⟩ := issues_of_create hdone
  cases hanswer
  have hrows := hwritten.read place hplace
  rcases hwritten.own place hplace with hown | ⟨hempty, -⟩
  · rw [← hrows]
    exact (congrArg Rows.issues hown).trans hissues
  · -- An issue is created in a project, so there were rows.
    exact absurd (congrArg Rows.projects (hrows.trans hempty)) hprojects

/-! ### Whole runs -/

/-- A command line, with all that it is run with. -/
structure CommandLine.Line where
  /-- The environment. -/
  env : Environment
  /-- The clock and the random number. -/
  stamp : Stamp
  /-- Where the output goes. -/
  screen : Screen
  /-- The arguments. -/
  arguments : List String

/-- The files after several command lines. -/
def CommandLine.runAll (files : Files) (lines : List Line) : Files :=
  lines.foldl (fun files line => (run line.env line.stamp line.screen line.arguments files).2) files

/-- What calls keep, several command lines keep at a place. -/
theorem meets_runAll {P : Rows → Prop} (hP : KeptByCalls P) {lines : List Line}
    (h : files.Meets place P) : (runAll files lines).Meets place P := by
  -- By induction on the lines, each of which keeps the condition.
  induction lines generalizing files with
  | nil => exact h
  | cons line lines ih => exact ih (meets_run hP h)

/-- What calls keep holds after any command lines, where there were no rows before them. -/
theorem runAll_of_fresh {P : Rows → Prop} (hP : KeptByCalls P) (lines : List Line)
    (hfresh : files.rows place = {}) : P ((runAll files lines).rows place) := by
  refine meets_runAll hP ?_
  rw [Files.Meets, hfresh]
  exact hP.empty

/-- Every project has a prefix of its own, its issues are numbered under it from one on in the order
in which they were created, and an identifier stands for one issue. -/
structure Rows.WellNamed (rows : Rows) : Prop where
  /-- No two projects share a prefix. -/
  prefixes : (rows.projects.map (·.issuePrefix)).Nodup
  /-- The `n`-th issue of a project has the prefix and `n` in its short identifier. -/
  numbers : ∀ p ∈ rows.projects, ∃ text, p.issuePrefix = some text ∧
    rows.shortIdsOf p.id = (List.range (rows.shortIdsOf p.id).length).map fun n =>
      some (text ++ "-" ++ Text.showNat (n + 1))
  /-- Every issue belongs to a project. -/
  projects : ∀ row ∈ rows.issues, ∃ p ∈ rows.projects, p.id = row.record.projectId
  /-- No two issues share a short identifier. -/
  shortIds : (rows.issues.map (·.record.shortId)).Nodup
  /-- No short identifier is the full one of an issue. -/
  fullIds : ∀ row ∈ rows.issues, ∀ other ∈ rows.issues,
    row.record.shortId ≠ some other.record.id

/-- In a labelled database, issues are well named. -/
theorem Database.Labelled.wellNamed (h : db.Labelled) : db.rows.WellNamed where
  prefixes := h.prefixesDistinct
  numbers := by
    intro p hp
    obtain ⟨count, -, hnumbers⟩ := h.numbers p hp
    refine ⟨p.effectivePrefix, (h.isIssuePrefix hp).1, ?_⟩
    rw [hnumbers, List.length_map, List.length_range]
    rfl
  projects := h.issueProjects
  shortIds := h.nodup_map_shortId
  fullIds := fun _ hrow _ hother => h.shortId_ne_id hrow hother

/-- In a labelled database, the short identifier of an issue is as good as its full one. -/
theorem run_shortId (h : (files.rows place).Labelled) {before after : List String}
    {row : Row Issue} (hbefore : awaitsIssue before = true)
    (hrow : row ∈ (files.rows place).issues) (hshort : row.record.shortId = some s)
    (hplace : ∀ inv, read env (before ++ row.record.id :: after) = .ok inv →
      placeOf env inv files = some place) :
    run env stamp screen (before ++ s :: after) files =
      run env stamp screen (before ++ row.record.id :: after) files := by
  obtain ⟨db, hrows, hdb⟩ := h
  have hmem : row ∈ db.issues := by
    rw [← hrows] at hrow
    exact hrow
  -- Neither identifier is read as a flag.
  have hs : s.toList.head? ≠ some '-' := by
    obtain ⟨q, hq, -, n, hn⟩ := hdb.exists_shortId hmem
    obtain rfl := Option.some.inj (hshort.symm.trans hn)
    exact Project.head?_shortId (hdb.isIssuePrefix hq).2
  have hid : row.record.id.toList.head? ≠ some '-' := by
    obtain ⟨stamp, hstamp⟩ := hdb.fullIds row hmem
    simp [hstamp, Stamp.identifier, String.toList_append]
  refine run_about hbefore hs hid fun inv opened files' hinv hopen => ?_
  -- What is opened has the rows of the place, so the issue is found there by both.
  have hopened := ((opens_of_openExisting (hplace inv hinv) hopen).opened opened rfl).2
  have hlabelled : opened.database.Labelled := hdb.congr (hopened.trans hrows.symm)
  have hstored : row ∈ opened.database.issues := by
    rw [← hopened] at hrow
    exact hrow
  exact ⟨row.record, Database.issue?_shortId hlabelled hstored hshort,
    Database.issue?_id hlabelled.toConsistent hstored⟩

/-- After any command lines, the database at a place where there was no row before them has its
issues well named. What is created goes to the end, so the numbers follow the order of creation; a
command line comes to the same with the short identifier of an issue as with the full one; and no
command that works with the place finds two issues under one short identifier. -/
theorem shortIds_name_issues (files : Files) (lines : List Line) (place : Location)
    (hfresh : files.rows place = {}) :
    let files' := runAll files lines
    (files'.rows place).WellNamed ∧
    (∀ env stamp screen arguments inv title project description issue,
      read env arguments = .ok inv → placeOf env inv files' = some place →
      inv.command = .issue (.create title project description) →
      (execute env stamp inv files').1 = .ok (.issueCreated issue) →
      ((run env stamp screen arguments files').2.rows place).issues =
        (files'.rows place).issues ++ [{ record := issue }]) ∧
    (∀ env stamp screen before after, ∀ row ∈ (files'.rows place).issues, ∀ s,
      awaitsIssue before = true → row.record.shortId = some s →
      (∀ inv, read env (before ++ row.record.id :: after) = .ok inv →
        placeOf env inv files' = some place) →
      run env stamp screen (before ++ s :: after) files' =
        run env stamp screen (before ++ row.record.id :: after) files') ∧
    ∀ env stamp screen arguments result,
      (∀ inv, read env arguments = .ok inv →
        ∀ location ∈ placeOf env inv files', location = place) →
      (run env stamp screen arguments files').1 = .finished result →
      ∀ s, result.outcome ≠ .error (.ambiguousShortId s) := by
  intro files'
  have hlabelled : (files'.rows place).Labelled :=
    runAll_of_fresh keptByCalls_labelled lines hfresh
  -- What calls keep holds of the rows, and all else follows from their labels.
  refine ⟨?_, ?_, ?_, ?_⟩
  · obtain ⟨db, hrows, hdb⟩ := hlabelled
    exact hrows ▸ hdb.wellNamed
  · intro env stamp screen arguments inv title project description issue hread hplace hcommand
      hdone
    rw [run, hread]
    change ((runInvocation env stamp screen inv files').2.rows place).issues = _
    rw [runInvocation_files]
    exact issues_of_run_create hplace hcommand hdone
  · intro env stamp screen before after row hrow s hbefore hshort hplace
    exact run_shortId hlabelled hbefore hrow hshort hplace
  · intro env stamp screen arguments result hplace hrun
    exact fun s => outcome_ne_ambiguousShortId hlabelled hplace hrun

/-- The environment of the sample command lines. -/
def labelEnv : Environment :=
  { home := some "/home", database := some "/docs.db", workspace := some "home" }

/-- Command lines to try the statement on: they make a database, a project and an issue. -/
def labelLines : List Line :=
  [⟨labelEnv, ⟨1000, 1⟩, ⟨false, false⟩, ["init"]⟩,
   ⟨labelEnv, ⟨1000, 2⟩, ⟨false, false⟩, ["project", "create", "Docs"]⟩,
   ⟨labelEnv, ⟨1000, 3⟩, ⟨false, false⟩,
    ["issue", "create", "first", "--project", "proj_00000002-400"]⟩]

/-- After the sample lines the status of the issue is shown by either of its identifiers, and
another issue goes after it. -/
theorem shortIds_name_issues_labelLines :
    let files := runAll {} labelLines
    let first : Issue := ⟨"issue_00000003-400", some "DOCS-1", "proj_00000002-400", "first", none,
      .todo, 1000, 1000⟩
    let second : Issue := ⟨"issue_00000004-400", some "DOCS-2", "proj_00000002-400", "second", none,
      .todo, 1000, 1000⟩
    let create := ["issue", "create", "second", "--project", "proj_00000002-400"]
    Files.rows {} ["docs.db"] = {} ∧
      (files.rows ["docs.db"]).issues = [{ record := first }] ∧
      (files.rows ["docs.db"]).WellNamed ∧
      ((run labelEnv ⟨1000, 4⟩ ⟨false, false⟩ create files).2.rows ["docs.db"]).issues =
        [{ record := first }, { record := second }] ∧
      (run labelEnv ⟨1000, 4⟩ ⟨false, false⟩ ["pipeline", "status", "DOCS-1"]
        files).1.exitCode = 0 ∧
      run labelEnv ⟨1000, 4⟩ ⟨false, false⟩ ["pipeline", "status", "DOCS-1"] files =
        run labelEnv ⟨1000, 4⟩ ⟨false, false⟩ ["pipeline", "status", "issue_00000003-400"]
          files := by
  intro files first second create
  have hfresh : Files.rows {} ["docs.db"] = {} := by decide +kernel
  have hspec := shortIds_name_issues {} labelLines ["docs.db"] hfresh
  have hfiles : runAll {} labelLines = files := rfl
  rw [hfiles] at hspec
  obtain ⟨hnamed, hcreate, hsame, -⟩ := hspec
  have hissues : (files.rows ["docs.db"]).issues = [{ record := first }] := by decide +kernel
  have hshown : (run labelEnv ⟨1000, 4⟩ ⟨false, false⟩ ["pipeline", "status", "DOCS-1"]
      files).1.exitCode = 0 := by decide +kernel
  have hplace : (labelEnv.databasePath (some "/docs.db")).bind files.databasePlace? =
      some ["docs.db"] := by decide +kernel
  let creating : Invocation := ⟨.issue (.create "second" "proj_00000002-400" none),
    some "/docs.db", none, some "home", false, false, false⟩
  have hcreating : read labelEnv create = .ok creating := by decide +kernel
  have hcreated : ((execute labelEnv ⟨1000, 4⟩ creating files).1.map fun
      | .issueCreated issue => some issue
      | _ => none) = .ok (some second) := by decide +kernel
  let asking : Invocation := ⟨.pipeline (.status "issue_00000003-400"), some "/docs.db", none,
    some "home", false, false, false⟩
  have hasking : read labelEnv (["pipeline", "status"] ++ "issue_00000003-400" :: []) =
      .ok asking := by decide +kernel
  -- From here on only these facts about the files matter.
  clear_value files
  refine ⟨hfresh, hissues, hnamed, ?_, hshown, ?_⟩
  · obtain ⟨answer, hdone, hsecond⟩ := map_eq_ok_iff.1 hcreated
    split at hsecond
    · cases hsecond
      rw [hcreate _ _ _ _ _ _ _ _ _ hcreating hplace rfl hdone, hissues]
      rfl
    · cases hsecond
  · have hmem : { record := first } ∈ (files.rows ["docs.db"]).issues := by simp [hissues]
    have hbefore : awaitsIssue ["pipeline", "status"] = true := by decide +kernel
    refine hsame labelEnv ⟨1000, 4⟩ ⟨false, false⟩ ["pipeline", "status"] [] _ hmem "DOCS-1"
      hbefore rfl fun inv hinv => ?_
    obtain rfl := Except.ok.inj (hinv.symm.trans hasking)
    exact hplace

end ReviewPipeline
