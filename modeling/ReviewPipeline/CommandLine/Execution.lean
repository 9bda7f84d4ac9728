import ReviewPipeline.Change
import ReviewPipeline.CommandLine.Answer
import ReviewPipeline.CommandLine.Reading
import ReviewPipeline.Files.Opening
import ReviewPipeline.Operation
import ReviewPipeline.Suggestion

/-!
# Carrying Out Commands

What a command does to the files and what it answers. A command that works with the database opens
it, works on it in memory, and writes it back if it succeeds; only opening it, which brings it to
the current schema, has an effect even if the command fails afterwards.

Commands stay within the active workspace: a project, or the project of an issue or step, has to
belong to it.
-/

namespace ReviewPipeline.CommandLine

/-- What a command works with. -/
structure Context where
  /-- The environment. -/
  env : Environment
  /-- The files, for the settings. -/
  files : Files
  /-- The workspace named on the command line or by its variable. -/
  workspace : Option String
  /-- The one who acts, with clock and randomness. -/
  author : Author

namespace Context

/-- The active workspace. -/
def activeWorkspace (ctx : Context) : Except Error String :=
  ctx.env.activeWorkspace ctx.files ctx.workspace

/-- A project of the active workspace. -/
def scopedProject (ctx : Context) (db : Database) (id : String) : Except Error Project := do
  let workspace ← ctx.activeWorkspace
  let project ← db.project id
  project.checkWorkspace workspace ("project " ++ project.id)
  return project

/-- How many similar identifiers are suggested. -/
def suggestionCount : Nat := 3

/-- The error about an unknown issue, with the short identifiers it may have meant. -/
def unknownIssue (db : Database) (id : String) : Error :=
  let similar := similarNames id db.shortIds suggestionCount
  if similar.isEmpty then .issueNotFound id else .issueNotFoundSimilar id similar

/-- An issue of the active workspace. -/
def scopedIssue (ctx : Context) (db : Database) (id : String) : Except Error Issue := do
  let workspace ← ctx.activeWorkspace
  match ← db.issue? id with
  | none => throw (unknownIssue db id)
  | some issue =>
    let project ← db.project issue.projectId
    project.checkWorkspace workspace ("issue " ++ issue.label)
    return issue

end Context

/-- The value of a vocabulary that a text names; a text that names none is not acceptable as an
argument. -/
def choose {α : Type} (v : Vocabulary α) (input : String) : Except Error α :=
  match v.normalize input with
  | .ok value => .ok value
  | .error u => .error (.unknownChoice v.label u.input u.suggestion)

/-- The name of a step, or its identifier where there is no such step to be read. -/
def stepName (db : Database) (id : String) : String :=
  match db.step? id with
  | .ok (some step) => step.name
  | _ => id

/-- The prefix of a project to be created: the one that is named, in upper case, or a free one made
from the name of the project. -/
def choosePrefix (db : Database) (p : Project) (named : Option String) :
    Except Error (Option String) :=
  match named with
  | some text =>
    let issuePrefix := Text.upperCase (Text.trim text)
    if issuePrefix.isEmpty || !issuePrefix.toList.all Text.isAsciiAlphanumeric then
      .error (.malformedPrefix issuePrefix)
    else .ok (some issuePrefix)
  | none => .ok (p.issuePrefix.map db.freePrefix)

/-- Carry out a command about projects. -/
def ProjectCommand.execute (ctx : Context) (db : Database) :
    ProjectCommand → Except Error (Answer × Database)
  | create name description issuePrefix => do
    let workspace ← ctx.activeWorkspace
    if Text.isAllBlank name then
      throw .blankProjectName
    let fresh := Project.create ctx.author.stamp (Text.trim name) workspace
    let chosen ← choosePrefix db fresh issuePrefix
    let project := { fresh with description := description, issuePrefix := chosen }
    let ((), db) ← db.createProject ctx.author project
    return (.projectCreated project, db)
  | list limit => do
    let workspace ← ctx.activeWorkspace
    return (.projects workspace (← db.listProjects (some workspace) limit), db)
  | inspect id => do
    let project ← ctx.scopedProject db id
    return (.project project (← db.catalog project.id), db)

/-- Carry out a command about issues. -/
def IssueCommand.execute (ctx : Context) (db : Database) :
    IssueCommand → Except Error (Answer × Database)
  | create title project description => do
    if Text.isAllBlank title then
      throw .blankIssueTitle
    let project ← ctx.scopedProject db project
    let (issue, db) ← db.createIssue ctx.author project.id (Text.trim title) description
    return (.issueCreated issue, db)
  | list project status limit => do
    let project ← ctx.scopedProject db project
    -- The word for the status is looked at after the project, so that an error about that comes
    -- first.
    let status ←
      match status with
      | some word => (choose WorkStatus.vocabulary word).map some
      | none => pure none
    return (.issues (← db.listIssues project.id status limit), db)
  | inspect id => do
    return (.issue (← ctx.scopedIssue db id), db)

/-- Carry out a command about steps. -/
def StepCommand.execute (ctx : Context) (db : Database) :
    StepCommand → Except Error (Answer × Database)
  | add name project stepType agent autoAdvance number => do
    let kind ← choose StepKind.vocabulary stepType
    let project ← ctx.scopedProject db project
    let new : Database.NewStep :=
      { projectId := project.id
        name := name
        kind := kind
        assignee := Text.nonBlank agent
        autoAdvance := autoAdvance
        number := number }
    let (step, db) ← db.addStep ctx.author new
    return (.stepAdded step project, db)
  | list project => do
    let project ← ctx.scopedProject db project
    return (.steps project (← db.catalog project.id), db)
  | restaff id agent => do
    let step ← db.step id
    -- The project is looked up for its workspace only.
    let _ ← ctx.scopedProject db step.projectId
    let (step, db) ← db.restaffStep ctx.author step.id (Text.nonBlank agent)
    return (.stepRestaffed step, db)

/-- Carry out a command about pipelines. -/
def PipelineCommand.execute (ctx : Context) (db : Database) :
    PipelineCommand → Except Error (Answer × Database)
  | advance issue agent notes => do
    let issue ← ctx.scopedIssue db issue
    let (completion, db) ← db.complete ctx.author issue.id agent notes
    let completedName := stepName db completion.completedStepId
    return (.advanced completion completedName (completion.currentStepId.map (stepName db)), db)
  | reject issue reason agent => do
    let issue ← ctx.scopedIssue db issue
    let (rejection, db) ← db.reject ctx.author issue.id agent reason
    let rejectedName := stepName db rejection.completedStepId
    return (.rejected rejection rejectedName (stepName db rejection.currentStepId), db)
  | status issue => do
    let issue ← ctx.scopedIssue db issue
    return (.status (← db.status issue.id ctx.author.stamp.now), db)
  | history issue => do
    let issue ← ctx.scopedIssue db issue
    return (.history issue.id (db.history issue.id) (db.catalog issue.projectId), db)
  | reset issue => do
    let issue ← ctx.scopedIssue db issue
    let ((), db) ← db.resetPipeline ctx.author issue.id
    return (.wasReset issue, db)

/-- Record a signal of the gate. -/
def recordGate (ctx : Context) (db : Database) (issue : String) (status : GateStatus)
    (error : Option String) : Except Error (Answer × Database) := do
  let issue ← ctx.scopedIssue db issue
  let (cursor, db) ← db.recordGate ctx.author issue.id status (Text.nonBlank error)
  return (.gateRecorded issue status cursor, db)

/-! ## The files -/

/-- Open the database that a command works with. There has to be something at its path already. -/
def openExisting (env : Environment) (now : Int) (inv : Invocation) (files : Files) :
    Except Error Opened × Files :=
  match env.databasePath inv.database with
  | none => (.error .notInitialized, files)
  | some path =>
    if files.exists? path then
      match env.loadSettings files with
      | .error e => (.error e, files)
      | .ok settings =>
        files.openDatabase path now (settings.busyTimeoutMs.getD Files.defaultWait)
    else (.error .notInitialized, files)

/-- The actor of a command: the one named for it, else the default one. -/
def actorOf (env : Environment) (inv : Invocation) : String :=
  inv.actor.getD env.defaultActor

/-- Work with the database in its file. -/
def withDatabase (env : Environment) (stamp : Stamp) (inv : Invocation) (files : Files)
    (work : Context → Database → Except Error (Answer × Database)) :
    Except Error Answer × Files :=
  match openExisting env stamp.now inv files with
  | (.error e, files) => (.error e, files)
  | (.ok opened, files) =>
    -- Only a success is written back. What opening has brought up to date stays either way.
    let ctx : Context := ⟨env, files, inv.workspace, ⟨actorOf env inv, stamp⟩⟩
    match work ctx opened.database with
    | .error e => (.error e, files)
    | .ok (answer, db) => (.ok answer, files.save opened db)

/-- Remove a database and the files beside it, so that a new one can be made. -/
def removeDatabase (files : Files) (path : String) (force : Bool) : Except Error Unit × Files :=
  if files.exists? path then
    if force then
      match files.removeAll (path :: Files.sideFiles path) with
      | (.ok (), files) => (.ok (), files)
      | (.error fault, files) => (.error (.io fault.message), files)
    else (.error (.alreadyInitialized path), files)
  else (.ok (), files)

/-- Make a database in a file that is not there yet. -/
def makeDatabase (files : Files) (path : String) (now : Int) : Except Error Answer × Files :=
  match files.makeParents path with
  | (.error fault, files) => (.error (.io fault.message), files)
  | (.ok (), files) =>
    match files.openDatabase path now with
    | (.error e, files) => (.error e, files)
    | (.ok _, files) => (.ok (.initialized path none), files)

/-- Save the default workspace in the settings, next to what stands there. -/
def saveDefaultWorkspace (env : Environment) (files : Files) (workspace : String) :
    Except Error Unit × Files :=
  match env.loadSettings files with
  | .error e => (.error e, files)
  | .ok settings => env.saveSettings files { settings with defaultWorkspace := some workspace }

/-- Make the database, and save the default workspace if one is given. -/
def initDatabase (env : Environment) (stamp : Stamp) (inv : Invocation) (files : Files)
    (force : Bool) (workspace : Option String) : Except Error Answer × Files :=
  match env.databasePath inv.database with
  | none => (.error (.config "Could not determine pipectl database location"), files)
  | some path =>
    match removeDatabase files path force with
    | (.error e, files) => (.error e, files)
    | (.ok (), files) =>
      match makeDatabase files path stamp.now, workspace with
      | (.ok _, files), some workspace =>
        -- The settings are read only now, when the old database is gone already.
        match saveDefaultWorkspace env files workspace with
        | (.error e, files) => (.error e, files)
        | (.ok (), files) => (.ok (.initialized path (some workspace)), files)
      | made, _ => made

/-- The locations that a path passes from a working directory on. -/
def passedBy (workingDirectory : Location) (path : String) : List Location :=
  Path.passed (if Path.isAbsolute path then [] else workingDirectory) (Path.names path)

/-- The locations that opening the database of a name may look at or write to. -/
def databaseLocations (workingDirectory : Location) (name : String) : List Location :=
  match Address.ofName? name with
  | .error _ => []
  | .ok address =>
    let passed := passedBy workingDirectory address.path
    let database := passed.getLastD []
    passed ++ [Companion.journal, .log, .index].map fun companion => companion.location database

/-- The locations that a command may look at or write to: the settings, the database as it is named
and as its name is read, and the files beside it. -/
def locationsOf (env : Environment) (inv : Invocation) (workingDirectory : Location) :
    List Location :=
  let settings := (env.settingsPath.toOption).toList
  let named := (env.databasePath inv.database).toList
  (settings ++ named ++ named.flatMap Files.sideFiles).flatMap (passedBy workingDirectory)
    ++ named.flatMap (databaseLocations workingDirectory)

/-- Carry out a command: what it answers, and the files after it. -/
def execute (env : Environment) (stamp : Stamp) (inv : Invocation) (files : Files) :
    Except Error Answer × Files :=
  match inv.command with
  | .init force workspace => initDatabase env stamp inv files force workspace
  | .version => (.ok .version, files)
  | .completions shell => (.ok (.completions shell), files)
  | .project command => withDatabase env stamp inv files command.execute
  | .issue command => withDatabase env stamp inv files command.execute
  | .step command => withDatabase env stamp inv files command.execute
  | .pipeline command => withDatabase env stamp inv files command.execute
  | .recordGate issue status error =>
    -- The word for the signal is looked at before there is a database.
    match choose GateStatus.vocabulary status with
    | .error e => (.error e, files)
    | .ok status =>
      withDatabase env stamp inv files fun ctx db => recordGate ctx db issue status error

end ReviewPipeline.CommandLine
