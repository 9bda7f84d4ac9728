import ReviewPipeline.Database.Query
import ReviewPipeline.Database.Write

/-!
# Changes

An operation reads the database, writes rows, and notes events on the way. Its change is committed
as a whole: the events are appended to the audit log last, and if that fails, or anything before
it, the database stays as it was.
-/

namespace ReviewPipeline

/-- Who makes a change, and with what clock and randomness. -/
structure Author where
  /-- The actor that the audit log names. -/
  actor : String
  /-- The clock and the random number. -/
  stamp : Stamp
  deriving DecidableEq, Repr

/-- What an operation has done so far. -/
structure Change (α : Type) where
  /-- What the operation answers. -/
  result : α
  /-- The events it noted, in order. -/
  events : List EventDraft
  /-- The database with its writes. -/
  db : Database

/-- Append the noted events and finish the change. -/
def Change.commit {α : Type} (change : Change α) (author : Author) :
    Except Error (α × Database) :=
  (change.db.appendEvents author.actor author.stamp.now change.events).map fun db =>
    (change.result, db)

namespace Database

/-- Create a project. Its prefix, if it has one, must be its own. -/
def createProject (db : Database) (author : Author) (p : Project) :
    Except Error (Unit × Database) := do
  -- Asked here, and not left to the table, so that the error can tell the owner.
  if let some issuePrefix := p.issuePrefix then
    if let some owner := db.prefixOwner? issuePrefix then
      throw (.prefixTaken issuePrefix owner)
  let db ← db.insertProject p
  let created : EventDraft :=
    { entityType := "project", entityId := p.id, kind := .projectCreated }
  Change.commit ⟨(), [created], db⟩ author

/-- Create an issue under the next number of its project. -/
def createIssue (db : Database) (author : Author) (projectId title : String)
    (description : Option String) : Except Error (Issue × Database) := do
  let p ← db.project projectId
  let issue := Issue.create author.stamp p.id p.nextShortId title description
  let db ← db.insertIssue issue
  let db ← db.countIssue p.id author.stamp.now
  let created : EventDraft := { entityType := "issue", entityId := issue.id, kind := .issueCreated }
  Change.commit ⟨issue, [created], db⟩ author

/-- A step to be added to a catalog. -/
structure NewStep where
  /-- The project. -/
  projectId : String
  /-- The name, to be trimmed. -/
  name : String
  /-- The kind of work. -/
  kind : StepKind
  /-- The agent that acts when the caller names none. -/
  assignee : Option String
  /-- Whether completing the step moves straight on. -/
  autoAdvance : Bool
  /-- The number of the step; if it is absent, one past the last. -/
  number : Option Int
  deriving DecidableEq, Repr

/-- The greatest number of a project's steps, or zero. -/
def lastStepNumber (db : Database) (projectId : String) : Int :=
  ((db.steps.filter fun row => row.record.projectId == projectId).map (·.record.number)).max?.getD 0

/-- Whether a project has a step with this number. -/
def hasStepNumber (db : Database) (projectId : String) (number : Int) : Bool :=
  db.steps.any fun row => row.record.projectId == projectId && row.record.number == number

/-- The number after the last one of a project's steps, unless there is none in 64 bits. -/
def nextStepNumber (db : Database) (projectId : String) : Except Error Int :=
  let next := db.lastStepNumber projectId + 1
  if fitsInt64 next then .ok next else .error (.crashed .numberOverflow)

/-- The number for a step: the one that is asked for, or else the one after the last. -/
def stepNumber (db : Database) (projectId : String) (number : Option Int) : Except Error Int :=
  match number with
  | some number => .ok number
  | none => db.nextStepNumber projectId

/-- Add a step to the catalog of a project. -/
def addStep (db : Database) (author : Author) (new : NewStep) :
    Except Error (Step × Database) := do
  if Text.isAllBlank new.name then
    throw .blankStepName
  -- The project has to be there, but nothing of it is needed.
  let _ ← db.project new.projectId
  let number ← db.stepNumber new.projectId new.number
  if number ≤ 0 then
    throw (.stepNumberNotPositive number)
  if db.hasStepNumber new.projectId number then
    throw (.stepNumberTaken number new.projectId)
  let step : Step :=
    { id := author.stamp.identifier "step"
      projectId := new.projectId
      number := number
      name := Text.trim new.name
      kind := new.kind
      assignee := new.assignee
      autoAdvance := new.autoAdvance
      createdAt := author.stamp.now
      updatedAt := author.stamp.now }
  let db ← db.insertStep step
  let added : EventDraft :=
    { entityType := "project"
      entityId := step.projectId
      kind := .stepAdded
      newValue := some step.id }
  Change.commit ⟨step, [added], db⟩ author

/-- Assign a step to another agent, or to none. -/
def restaffStep (db : Database) (author : Author) (stepId : String) (agent : Option String) :
    Except Error (Step × Database) := do
  let step ← db.step stepId
  let db ← db.assignStep step.id agent author.stamp.now
  let restaffed : EventDraft :=
    { entityType := "step"
      entityId := step.id
      kind := .stepRestaffed
      oldValue := step.assignee
      newValue := agent }
  Change.commit
    ⟨{ step with assignee := agent, updatedAt := author.stamp.now }, [restaffed], db⟩ author

/-- Record what the context gate reported about an issue. This never starts the pipeline. -/
def recordGate (db : Database) (author : Author) (issueId : String) (status : GateStatus)
    (error : Option String) : Except Error (Cursor × Database) := do
  let now := author.stamp.now
  let issue ← db.issue issueId
  let gate : GateSnapshot := { status := some status, error := error, checkedAt := some now }
  let db ← db.putGate issue.id issue.projectId gate now
  let recorded : EventDraft :=
    { entityType := "issue"
      entityId := issue.id
      kind := .gateRecorded
      newValue := some status.word }
  match ← db.cursor? issue.id with
  | some cursor => Change.commit ⟨cursor, [recorded], db⟩ author
  | none => throw (.other ("pipeline state for " ++ issue.id ++ " vanished after write"))

/-- Clear an issue's place in its pipeline. The ledger and the gate's signal stay. -/
def resetPipeline (db : Database) (author : Author) (issueId : String) :
    Except Error (Unit × Database) := do
  let issue ← db.issue issueId
  let db ← db.clearCursor issue.id author.stamp.now
  let cleared : EventDraft :=
    { entityType := "issue", entityId := issue.id, kind := .pipelineReset }
  Change.commit ⟨(), [cleared], db⟩ author

/-! ## Batches of single writes -/

/-- One write of a batch. -/
inductive SingleWrite where
  /-- Move the cursor of an issue. -/
  | moveCursor (issueId projectId : String) (update : CursorUpdate)
  /-- Append an entry to the ledger. -/
  | appendEntry (draft : LedgerDraft)
  /-- Give an issue a work status. -/
  | setWorkStatus (issueId : String) (status : WorkStatus)
  /-- Note an event. -/
  | note (event : EventDraft)
  deriving DecidableEq, Repr

/-- Carry out one write. The answer is the ledger entry, if one was appended. -/
def singleWrite (db : Database) (now : Int) (write : SingleWrite) :
    Except Error (Change (Option LedgerEntry)) := do
  match write with
  | .moveCursor issueId projectId update =>
    return ⟨none, [], ← db.moveCursor issueId projectId update now⟩
  | .appendEntry draft =>
    let (entry, db) ← db.appendEntry draft
    return ⟨some entry, [], db⟩
  | .setWorkStatus issueId status =>
    return ⟨none, [], ← db.setWorkStatus issueId status now⟩
  | .note event => return ⟨none, [event], db⟩

/-- Carry out writes in order. -/
def writeAll (db : Database) (now : Int) :
    List SingleWrite → Except Error (Change (List (Option LedgerEntry)))
  | [] => .ok ⟨[], [], db⟩
  | write :: writes => do
    let first ← db.singleWrite now write
    let rest ← first.db.writeAll now writes
    return ⟨first.result :: rest.result, first.events ++ rest.events, rest.db⟩

/-- Carry out a batch of writes as one change, and give it up at the end if `failure` says so. -/
def batch (db : Database) (author : Author) (writes : List SingleWrite)
    (failure : Option String) : Except Error (List (Option LedgerEntry) × Database) := do
  let change ← db.writeAll author.stamp.now writes
  -- The writes are carried out first, so an error of theirs hides this one.
  if let some text := failure then
    throw (.conflict text)
  change.commit author

end Database

end ReviewPipeline
