import ReviewPipeline.Database.Basic

/-!
# Writing Rows

The single-row writes of which every operation is composed, each with the constraints of its
table: unique columns, references to other tables, checks, and the block on its kind of write.
-/

namespace ReviewPipeline.Database

/-- Whether there is a project with this identifier. -/
def hasProject (db : Database) (id : String) : Bool :=
  db.projects.any fun p => p.id == id

/-- Whether there is an issue with this full identifier. -/
def hasIssue (db : Database) (id : String) : Bool :=
  db.issues.any fun row => row.record.id == id

/-- Insert a project. -/
def insertProject (db : Database) (p : Project) : Except Error Database := do
  db.permit .projectInsert
  -- Of two clashes the one of the prefix is told, as with the short identifier of an issue.
  require (!db.projects.any fun q => p.issuePrefix.isSome && q.issuePrefix == p.issuePrefix)
    (.notUnique "projects.issue_prefix")
  require (!db.hasProject p.id) (.notUnique "projects.id")
  return { db with projects := db.projects ++ [p] }

/-- Count up the number of a project's next issue. -/
def countIssue (db : Database) (projectId : String) (now : Int) : Except Error Database := do
  -- Changing projects can be blocked only where there is one to be changed.
  if db.hasProject projectId then
    db.permit .projectUpdate
  let bump (p : Project) : Project :=
    if p.id == projectId then
      { p with nextIssueNumber := p.nextIssueNumber + 1, updatedAt := now }
    else p
  return { db with projects := db.projects.map bump }

/-- Insert an issue. -/
def insertIssue (db : Database) (issue : Issue) : Except Error Database := do
  db.permit .issueInsert
  let isTaken :=
    db.uniqueShortIds
      && db.issues.any fun row =>
        issue.shortId.isSome && row.record.shortId == issue.shortId
  require (!isTaken) (.notUnique "issues.short_id")
  require (!db.hasIssue issue.id) (.notUnique "issues.id")
  require (db.hasProject issue.projectId) .missingReference
  return { db with issues := db.issues ++ [{ record := issue }] }

/-- Give an issue a work status. -/
def setWorkStatus (db : Database) (issueId : String) (status : WorkStatus) (now : Int) :
    Except Error Database := do
  if db.hasIssue issueId then
    db.permit .issueUpdate
    let write (row : Row Issue) : Row Issue :=
      if row.record.id == issueId then
        { record := { row.record with workStatus := status, updatedAt := now } }
      else row
    return { db with issues := db.issues.map write }
  else
    throw (.issueNotFound issueId)

/-- Insert a step. -/
def insertStep (db : Database) (step : Step) : Except Error Database := do
  db.permit .stepInsert
  require (decide (0 < step.number)) (.checkFailed "step_number > 0")
  let isTaken :=
    db.steps.any fun row =>
      row.record.projectId == step.projectId && row.record.number == step.number
  require (!isTaken) (.notUnique "pipeline_steps.project_id, pipeline_steps.step_number")
  require (!db.steps.any fun row => row.record.id == step.id) (.notUnique "pipeline_steps.id")
  require (db.hasProject step.projectId) .missingReference
  return { db with steps := db.steps ++ [{ record := step }] }

/-- The database in which a step is assigned to another agent, or to none. -/
def withAssignee (db : Database) (stepId : String) (agent : Option String) (now : Int) :
    Database :=
  let write (row : Row Step) : Row Step :=
    if row.record.id == stepId then
      row.modify fun step => { step with assignee := agent, updatedAt := now }
    else row
  { db with steps := db.steps.map write }

/-- Assign a step to another agent, or to none. -/
def assignStep (db : Database) (stepId : String) (agent : Option String) (now : Int) :
    Except Error Database := do
  db.permit .stepUpdate
  return db.withAssignee stepId agent now

/-- Write over the cursor of an issue with `update`, or insert `fresh` if the issue has none. -/
def putCursor (db : Database) (fresh : Cursor) (update : Row Cursor → Row Cursor) :
    Except Error Database := do
  db.permit .cursorPut
  if db.cursors.any fun row => row.record.issueId == fresh.issueId then
    let write (row : Row Cursor) : Row Cursor :=
      if row.record.issueId == fresh.issueId then update row else row
    return { db with cursors := db.cursors.map write }
  else
    require (db.hasIssue fresh.issueId) .missingReference
    return { db with cursors := db.cursors ++ [{ record := fresh }] }

/-- Move the cursor of an issue. Times that are set stay, and so does the gate's signal. -/
def moveCursor (db : Database) (issueId projectId : String) (update : CursorUpdate)
    (now : Int) : Except Error Database :=
  db.putCursor ((Cursor.notStarted issueId projectId now).apply update now) fun row =>
    row.modify fun cursor => cursor.apply update now

/-- Record a signal of the gate. The pointer and the times stay. -/
def putGate (db : Database) (issueId projectId : String) (gate : GateSnapshot) (now : Int) :
    Except Error Database :=
  db.putCursor { Cursor.notStarted issueId projectId now with gate := gate } fun row =>
    { record := { row.record with gate := gate, updatedAt := now } }

/-- The database in which the pointer and the times of an issue's cursor are cleared, if it has one.
The gate's signal stays. -/
def withoutPlace (db : Database) (issueId : String) (now : Int) : Database :=
  let clear (cursor : Cursor) : Cursor :=
    { cursor with stepId := none, startedAt := none, completedAt := none, updatedAt := now }
  let write (row : Row Cursor) : Row Cursor :=
    if row.record.issueId == issueId then row.modify clear else row
  { db with cursors := db.cursors.map write }

/-- Clear the place of an issue in its pipeline, if it has one. -/
def clearCursor (db : Database) (issueId : String) (now : Int) : Except Error Database := do
  db.permit .cursorClear
  return db.withoutPlace issueId now

/-- Append an entry to the ledger; it gets the next number. -/
def appendEntry (db : Database) (draft : LedgerDraft) : Except Error (LedgerEntry × Database) := do
  db.permit .ledgerInsert
  require (!db.ledger.any fun entry => entry.id == draft.id)
    (.notUnique "issue_pipeline_history.id")
  require (db.hasIssue draft.issueId) .missingReference
  -- Numbers are given out once, so the next one is not read off the entries that are left.
  let entry := draft.entry (db.lastSeq + 1)
  return (entry, { db with ledger := db.ledger ++ [entry], lastSeq := db.lastSeq + 1 })

/-- Append an event to the audit log; it gets the next number. -/
def appendEvent (db : Database) (actor : String) (now : Int) (draft : EventDraft) :
    Except Error Database := do
  db.permit .eventInsert
  let event := draft.event (db.lastEventId + 1) actor now
  return { db with events := db.events ++ [{ record := event }], lastEventId := db.lastEventId + 1 }

/-- Append several events, in order. -/
def appendEvents (db : Database) (actor : String) (now : Int) (drafts : List EventDraft) :
    Except Error Database :=
  drafts.foldlM (fun db draft => db.appendEvent actor now draft) db

end ReviewPipeline.Database
