import ReviewPipeline.Fault
import ReviewPipeline.Text.Occurs

/-!
# Errors

Every failure of the pipeline, with its machine-readable code, its coarse kind, the exit code of a
command that ends with it, its message, and a hint on how to recover. Causes that the pipeline
itself detects are named constructors or named values of `Error`; their wording stands here once.
-/

namespace ReviewPipeline

/-- Machine-readable codes, in groups that share an exit code. -/
inductive ErrorCode where
  | notInitialized | alreadyInitialized | databaseError
  | issueNotFound | projectNotFound | stepNotFound
  | validationFailed | invalidArgument
  | pipelineConflict
  | forbidden | noWorkspace
  | configError
  | ioError | jsonError
  | internalError
  deriving DecidableEq, Repr

namespace ErrorCode

/-- The word of a code. -/
def word : ErrorCode → String
  | notInitialized => "NOT_INITIALIZED"
  | alreadyInitialized => "ALREADY_INITIALIZED"
  | databaseError => "DATABASE_ERROR"
  | issueNotFound => "ISSUE_NOT_FOUND"
  | projectNotFound => "PROJECT_NOT_FOUND"
  | stepNotFound => "STEP_NOT_FOUND"
  | validationFailed => "VALIDATION_FAILED"
  | invalidArgument => "INVALID_ARGUMENT"
  | pipelineConflict => "PIPELINE_CONFLICT"
  | forbidden => "FORBIDDEN"
  | noWorkspace => "NO_WORKSPACE"
  | configError => "CONFIG_ERROR"
  | ioError => "IO_ERROR"
  | jsonError => "JSON_ERROR"
  | internalError => "INTERNAL_ERROR"

/-- The exit code of a command that fails with this code. -/
def exitCode : ErrorCode → Nat
  | internalError => 1
  | notInitialized | alreadyInitialized | databaseError => 2
  | issueNotFound | projectNotFound | stepNotFound => 3
  | validationFailed | invalidArgument => 4
  | pipelineConflict => 5
  | forbidden | noWorkspace => 6
  | configError => 7
  | ioError | jsonError => 8

/-- Whether trying again, with other input or after a fresh look, can help. -/
def isRetryable : ErrorCode → Bool
  | validationFailed | invalidArgument | pipelineConflict | databaseError => true
  | _ => false

end ErrorCode

/-- The coarse kinds of failures that callers tell apart. -/
inductive ErrorKind where
  | validation | conflict | notFound | forbidden | noWorkspace | storage | internal
  deriving DecidableEq, Repr

/-- The word of a kind. -/
def ErrorKind.word : ErrorKind → String
  | validation => "Validation"
  | conflict => "Conflict"
  | notFound => "NotFound"
  | forbidden => "Forbidden"
  | noWorkspace => "NoWorkspace"
  | storage => "Storage"
  | internal => "Internal"

/-- Why the program breaks off in the middle of a command: a check that nothing handles. -/
inductive Crash where
  /-- The number after the greatest one of 64 bits was asked for, in a build that checks for it. -/
  | numberOverflow
  /-- The wait for a locked database is longer than can be counted in 32 bits. -/
  | waitTooLong
  deriving DecidableEq, Repr

namespace Crash

/-- The text with which the program breaks off. What is printed around it, the place in the program
for one, is left out. -/
def message : Crash → String
  | numberOverflow => "attempt to add with overflow"
  | waitTooLong => "too big"

/-- The exit code of a program that breaks off. -/
def exitCode : Nat := 101

end Crash

/-- A failure. -/
inductive Error where
  /-- There is no database yet. -/
  | notInitialized
  /-- There already is a database. -/
  | alreadyInitialized (path : String)
  /-- No issue has this identifier. -/
  | issueNotFound (id : String)
  /-- No issue has this identifier, but some have a similar one. -/
  | issueNotFoundSimilar (id : String) (similar : List String)
  /-- No project has this identifier. -/
  | projectNotFound (id : String)
  /-- No step has this identifier. -/
  | stepNotFound (id : String)
  /-- The request makes no sense for the data as it is. -/
  | validation (message : String)
  /-- The pipeline is in a state that does not allow the request. -/
  | conflict (message : String)
  /-- The resource belongs to another workspace. -/
  | forbidden (resource owner workspace : String)
  /-- No workspace is selected. -/
  | noWorkspace
  /-- The database refused. -/
  | database (fault : Fault)
  /-- The file system refused. -/
  | io (message : String)
  /-- A text is not the JSON that was expected. -/
  | json (message : String)
  /-- An argument of a command is not acceptable. -/
  | invalidArgument (message : String)
  /-- The settings cannot be found, read or written. -/
  | config (message : String)
  /-- Anything else. -/
  | other (message : String)
  /-- The program breaks off. Other than every other failure, this is not reported as an error. -/
  | crashed (cause : Crash)
  deriving DecidableEq, Repr

namespace Error

/-! ## Causes with a wording of their own -/

/-- The project has no steps to go through. -/
def noPipelineSteps (projectId : String) : Error :=
  .validation ("project " ++ projectId ++ " has no pipeline steps")

/-- The issue is at no step that could be rejected. -/
def noCurrentStep (issueId : String) : Error :=
  .validation ("issue " ++ issueId ++ " has no current step to reject")

/-- A rejection was given without a reason. -/
def blankReason : Error :=
  .validation "rejection reason must not be empty"

/-- The pointer names a step outside the catalog. -/
def stalePointer (stepId : String) : Error :=
  .conflict ("current step " ++ stepId ++ " is not in the project's step catalog")

/-- The last step of the issue's pipeline is already completed. -/
def alreadyCompleted (issueId : String) : Error :=
  .conflict ("pipeline for issue " ++ issueId ++ " is already completed")

/-- There is nothing before the first step. -/
def firstStepRejected (stepId : String) : Error :=
  .conflict ("cannot reject the first step (" ++ stepId ++ ")")

/-- All steps before this one wait for a person. -/
def noActionableStep (stepId : String) : Error :=
  .conflict ("no previous actionable step before " ++ stepId)

/-- A path whose bytes are no text was to be told in JSON. -/
def pathNoText : Error :=
  .json "path contains invalid UTF-8 characters"

/-- Several issues share the short identifier. -/
def ambiguousShortId (shortId : String) : Error :=
  .validation
    ("short ID " ++ shortId ++ " matches more than one issue; use the full issue ID")

/-- Another project numbers its issues under this prefix. -/
def prefixTaken (issuePrefix owner : String) : Error :=
  .validation ("issue prefix '" ++ issuePrefix ++ "' is already used by project " ++ owner)

/-- A step was given a blank name. -/
def blankStepName : Error :=
  .validation "step name must not be empty"

/-- A step was given a number below one. -/
def stepNumberNotPositive (number : Int) : Error :=
  .validation ("step number must be positive, got " ++ Text.showInt number)

/-- Another step of the project has this number. -/
def stepNumberTaken (number : Int) (projectId : String) : Error :=
  .validation
    ("step number " ++ Text.showInt number ++ " already exists in project " ++ projectId)

/-- A project was given a blank name. -/
def blankProjectName : Error :=
  .invalidArgument "project name cannot be empty"

/-- An issue was given a blank title. -/
def blankIssueTitle : Error :=
  .invalidArgument "issue title cannot be empty"

/-- An issue prefix holds something else than letters and digits. -/
def malformedPrefix (issuePrefix : String) : Error :=
  .invalidArgument ("issue prefix must be alphanumeric, got '" ++ issuePrefix ++ "'")

/-- A text names no value of a vocabulary. -/
def unknownChoice (label input : String) (suggestion : Option String) : Error :=
  let aside :=
    match suggestion with
    | some word => " (did you mean '" ++ word ++ "'?)"
    | none => ""
  .invalidArgument ("unknown " ++ label ++ " '" ++ input ++ "'" ++ aside)

/-! ## What an error shows -/

/-- The code of an error. -/
def code : Error → ErrorCode
  | notInitialized => .notInitialized
  | alreadyInitialized _ => .alreadyInitialized
  | issueNotFound _ | issueNotFoundSimilar _ _ => .issueNotFound
  | projectNotFound _ => .projectNotFound
  | stepNotFound _ => .stepNotFound
  | validation _ => .validationFailed
  | conflict _ => .pipelineConflict
  | forbidden _ _ _ => .forbidden
  | noWorkspace => .noWorkspace
  | database _ => .databaseError
  | io _ => .ioError
  | json _ => .jsonError
  | invalidArgument _ => .invalidArgument
  | config _ => .configError
  | other _ | crashed _ => .internalError

/-- The kind of an error. -/
def kind : Error → ErrorKind
  | validation _ | invalidArgument _ => .validation
  | conflict _ => .conflict
  | issueNotFound _ | issueNotFoundSimilar _ _ | projectNotFound _ | stepNotFound _ => .notFound
  | forbidden _ _ _ => .forbidden
  | noWorkspace => .noWorkspace
  | notInitialized | alreadyInitialized _ | database _ => .storage
  | io _ | json _ | config _ | other _ | crashed _ => .internal

/-- The exit code of a command that fails with this error. -/
def exitCode : Error → Nat
  | crashed _ => Crash.exitCode
  | e => e.code.exitCode

/-- The text of an error. -/
def message : Error → String
  | notInitialized => "Not initialized: run `pipectl init` first"
  | alreadyInitialized path => "Already initialized at " ++ path
  | issueNotFound id => "Issue not found: " ++ id
  | issueNotFoundSimilar id similar =>
    "Issue not found: " ++ id ++ " (did you mean: " ++ ", ".intercalate similar ++ "?)"
  | projectNotFound id => "Project not found: " ++ id
  | stepNotFound id => "Pipeline step not found: " ++ id
  | validation text => "Validation failed: " ++ text
  | conflict text => "Pipeline conflict: " ++ text
  | forbidden resource owner workspace =>
    "Forbidden: " ++ resource ++ " belongs to workspace '" ++ owner ++ "', not '" ++ workspace
      ++ "'"
  | noWorkspace => "No workspace selected"
  | database fault => "Database error: " ++ fault.message
  | io text => "IO error: " ++ text
  | json text => "JSON error: " ++ text
  | invalidArgument text => "Invalid argument: " ++ text
  | config text => "Configuration error: " ++ text
  | other text => text
  | crashed cause => cause.message

/-! ## Recovery hints -/

/-- The hint for a conflict: where a rejection can land, what to do about a changed catalog, or
to look again. -/
def conflictHint (text : String) : String :=
  if Text.occursIn "first step" text || Text.occursIn "actionable" text then
    "Rejection needs an earlier non-human-review step to land on."
  else if Text.occursIn "catalog" text then
    "The step catalog changed under this issue. "
      ++ "Inspect with `pipectl pipeline status <issue>` or reset it."
  else "Re-read `pipectl pipeline status <issue>` and retry."

/-- The hint for a failed validation, if there is one. -/
def validationHint (text : String) : Option String :=
  if Text.occursIn "no pipeline steps" text then
    some "Add steps first: pipectl step add <name> --project <project> --type agent_work"
  else if Text.occursIn "no current step" text then
    some "Advance the issue before rejecting it."
  else none

/-- The hint for an unacceptable argument, if there is one: the words to choose from. -/
def argumentHint (text : String) : Option String :=
  if Text.occursIn "step type" text then
    some ("Valid step types: agent_work, agent_review, human_review. "
      ++ "Synonyms: work→agent_work, review→agent_review, approval→human_review")
  else if Text.occursIn "gate status" text then
    some "Valid gate statuses: succeeded, failed, bypassed"
  else if Text.occursIn "work status" text then
    some "Valid work statuses: todo, in_progress, review, done, blocked"
  else none

/-- How to recover from an error, if there is something to say. -/
def hint : Error → Option String
  | notInitialized => some "Run `pipectl init` to initialize the database"
  | alreadyInitialized path =>
    some ("Database already exists at " ++ path ++ ". Use `--force` to reinitialize.")
  | issueNotFound id =>
    some ("No issue with ID '" ++ id
      ++ "'. Use `pipectl issue list --project <project>` to see available issues.")
  | issueNotFoundSimilar _ similar => some ("Did you mean: " ++ ", ".intercalate similar ++ "?")
  | projectNotFound id =>
    some ("No project with ID '" ++ id
      ++ "'. Use `pipectl project list` to see available projects.")
  | stepNotFound id =>
    some ("No pipeline step with ID '" ++ id
      ++ "'. Use `pipectl step list --project <project>` to see the catalog.")
  | validation text => validationHint text
  | conflict text => some (conflictHint text)
  | forbidden _ owner _ =>
    some ("Switch to workspace '" ++ owner ++ "' to act on this resource.")
  | noWorkspace =>
    some ("Pass --workspace, set PIPECTL_WORKSPACE, or set default_workspace in "
      ++ "~/.pipectl/config.json")
  | invalidArgument text => argumentHint text
  | database _ | io _ | json _ | config _ | other _ | crashed _ => none

end Error

end ReviewPipeline
