import ReviewPipeline.Files
import ReviewPipeline.Settings

/-!
# Configuration

Which database, which workspace and which actor a command works with. Each is looked up in a fixed
order of sources: what the command line says, environment variables, the settings file, and a
default.

Everything that belongs to a user stands in `~/.pipectl`: the database in `data/pipeline.db`, the
database for tests in `test/pipeline.db`, the settings in `config.json`.
-/

namespace ReviewPipeline

/-- What asking git for the name of its user answers. -/
structure GitAnswer where
  /-- What it prints. -/
  output : String
  /-- Its exit code. -/
  exitCode : Int
  deriving DecidableEq, Repr

/-- The environment of a command. -/
structure Environment where
  /-- The home directory. -/
  home : Option String := none
  /-- The name of the user. -/
  user : Option String := none
  /-- The variable that names a database. -/
  database : Option String := none
  /-- The variable that turns the database for tests on. -/
  testDatabase : Option String := none
  /-- The variable that names a workspace. -/
  workspace : Option String := none
  /-- The variable that names an actor. -/
  actor : Option String := none
  /-- What git answers, where there is git. -/
  git : Option GitAnswer := none
  /-- The paths of databases whose bytes are no text. Such a path is stood for by a text of its
  own, by which the files know it. -/
  foreignPaths : List String := []
  deriving DecidableEq, Repr

namespace Environment

/-- The environment in which each variable has the value that `value?` gives. -/
def ofVariables (value? : String → Option String) (git : Option GitAnswer) :
    Environment where
  home := value? "HOME"
  user := value? "USER"
  database := value? "PIPECTL_DB"
  testDatabase := value? "PIPECTL_TEST_DB"
  workspace := value? "PIPECTL_WORKSPACE"
  actor := value? "PIPECTL_ACTOR"
  git := git

/-- Whether the bytes of a path are a text. -/
def isText (env : Environment) (path : String) : Bool :=
  !env.foreignPaths.contains path

/-! ## Places -/

/-- The directory for everything that belongs to the user. -/
def globalDirectory (env : Environment) : Option String :=
  match env.home with
  | some home => if home.isEmpty then none else some (Path.join home ".pipectl")
  | none => none

/-- The settings file. -/
def settingsPath (env : Environment) : Except Error String :=
  match env.globalDirectory with
  | some directory => .ok (Path.join directory "config.json")
  | none => .error (.config "Could not determine home directory")

/-- The database for tests. -/
def testDatabasePath (env : Environment) : Option String :=
  env.globalDirectory.map fun directory => Path.join (Path.join directory "test") "pipeline.db"

/-- The database used unless another is named. -/
def defaultDatabasePath (env : Environment) : Option String :=
  env.globalDirectory.map fun directory => Path.join (Path.join directory "data") "pipeline.db"

/-- Whether the value of a variable turns something on: it is neither empty nor a zero nor the
word false, in upper or lower case. -/
def isTruthy (value : String) : Bool :=
  !value.isEmpty && value != "0" && value.toList.map Text.asciiLower != "false".toList

/-- Whether the database for tests is turned on. -/
def isTestMode (env : Environment) : Bool :=
  env.testDatabase.any isTruthy

/-- The database to use: the one named explicitly, else the one for tests if it is turned on,
else the one named by its variable, else the default one. -/
def databasePath (env : Environment) (explicit : Option String) : Option String :=
  match explicit with
  | some path => some path
  | none =>
    if env.isTestMode then env.testDatabasePath
    else
      match env.database with
      | some path => if Text.isAllBlank path then env.defaultDatabasePath else some path
      | none => env.defaultDatabasePath

/-! ## Settings -/

/-- Load the settings. Without a file they are the default ones. The message about a file that
cannot be parsed leaves out what the parser says and where it stopped. -/
def loadSettings (env : Environment) (files : Files) : Except Error Settings := do
  let path ← env.settingsPath
  if files.exists? path then
    match files.readText path with
    | .error fault => throw (.config ("Failed to read config file: " ++ fault.message))
    | .ok text =>
      match Settings.ofText? text with
      | some settings => return settings
      | none => throw (.config "Failed to parse config file")
  else
    return {}

/-- Save the settings, in a directory that is made if it is missing. -/
def saveSettings (env : Environment) (files : Files) (settings : Settings) :
    Except Error Unit × Files :=
  match env.settingsPath with
  | .error e => (.error e, files)
  | .ok path =>
    match files.makeParents path with
    | (.error fault, files) =>
      (.error (.config ("Failed to create config directory: " ++ fault.message)), files)
    | (.ok (), files) =>
      match files.writeText path settings.toText with
      | .ok files => (.ok (), files)
      | .error fault => (.error (.config ("Failed to write config file: " ++ fault.message)), files)

/-! ## Workspace and actor -/

/-- The active workspace: the one named explicitly, else the one of the variable, both trimmed
and blanks aside, else the one of the settings if that is not blank. -/
def activeWorkspace (env : Environment) (files : Files) (explicit : Option String) :
    Except Error String :=
  match (Text.nonBlank explicit).or (Text.nonBlank env.workspace) with
  | some workspace => .ok workspace
  | none =>
    -- The settings are not read unless both are missing or blank.
    match env.loadSettings files with
    | .error e => .error e
    | .ok settings =>
      match settings.defaultWorkspace with
      | some workspace => if Text.isAllBlank workspace then .error .noWorkspace else .ok workspace
      | none => .error .noWorkspace

/-- The name that git gives, trimmed, if asking for it succeeds with one that is not blank. -/
def gitName (env : Environment) : Option String :=
  match env.git with
  | some answer => if answer.exitCode = 0 then Text.nonBlank (some answer.output) else none
  | none => none

/-- The actor when the command line names none: the one of the variable if that is not empty,
else the name that git gives, else the user, else nobody known. -/
def defaultActor (env : Environment) : String :=
  match env.actor.filter (!·.isEmpty) with
  | some actor => actor
  | none => (env.gitName.or env.user).getD "unknown"

end Environment

/-- Check that a project belongs to the active workspace. -/
def Project.checkWorkspace (p : Project) (workspace resource : String) : Except Error Unit :=
  if p.workspaceId = workspace then .ok ()
  else .error (.forbidden resource p.workspaceId workspace)

end ReviewPipeline
