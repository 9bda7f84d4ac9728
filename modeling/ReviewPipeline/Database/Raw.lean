import ReviewPipeline.Database.Write

/-!
# Writes Outside the Operations

Direct changes to the tables that no operation of this library makes: removing rows, changing
single columns, lifting the uniqueness of short identifiers, blocking a kind of write. The
constraints of the tables still hold: removing a project or an issue takes along what belongs to
it, but nothing that the ledger refers to can be removed, and the ledger itself is append-only.
-/

namespace ReviewPipeline

/-- The columns with a closed vocabulary that can be written directly. -/
inductive ClosedColumn where
  /-- The work status of an issue. -/
  | workStatus
  /-- The kind of a step. -/
  | stepKind
  /-- The gate status of an issue's cursor. -/
  | gateStatus
  deriving DecidableEq, Repr

/-- The check on a closed column. -/
def ClosedColumn.rule : ClosedColumn → String
  | workStatus => "work_status IN ('todo', 'in_progress', 'review', 'done', 'blocked')"
  | stepKind => "step_type IN ('agent_work', 'agent_review', 'human_review')"
  | gateStatus => "gate_status IS NULL OR gate_status IN ('succeeded', 'failed', 'bypassed')"

/-- A direct change to a table. -/
inductive RawWrite where
  /-- Remove a project with its issues, steps and cursors. -/
  | deleteProject (id : String)
  /-- Remove an issue with its cursor. -/
  | deleteIssue (id : String)
  /-- Remove a step. -/
  | deleteStep (id : String)
  /-- Remove the ledger entries of an issue. -/
  | deleteHistory (issueId : String)
  /-- Change the notes of the ledger entries of an issue. -/
  | updateHistory (issueId : String)
  /-- Take away the short identifier of an issue. -/
  | clearShortId (issueId : String)
  /-- Let short identifiers repeat, and give an issue this one. -/
  | forceShortId (issueId shortId : String)
  /-- Write a word into the kind of an audit event. -/
  | setEventKind (eventId : Int) (word : String)
  /-- Write a word into a closed column, with or without its check. -/
  | setClosed (column : ClosedColumn) (id word : String) (isChecked : Bool)
  /-- Let one kind of write fail from now on. -/
  | block (kind : WriteKind)
  /-- End the block. -/
  | unblock
  deriving DecidableEq, Repr

namespace Database

/-- Whether the ledger holds an entry of this issue. -/
def hasHistory (db : Database) (issueId : String) : Bool :=
  db.ledger.any fun entry => entry.issueId == issueId

/-- Remove the issues that satisfy `p`, with their cursors. An issue with history stays put. -/
def removeIssues (db : Database) (p : Issue → Bool) : Except Error Database := do
  -- Entries of the ledger refer to their issue, and none of them may be left without it.
  let gone := (db.issues.filter fun row => p row.record).map (·.record.id)
  require (!gone.any db.hasHistory) .missingReference
  let issues := db.issues.filter fun row => !p row.record
  let cursors := db.cursors.filter fun row => !gone.contains row.record.issueId
  return { db with issues := issues, cursors := cursors }

/-- Change the rows that satisfy `p`; the answer tells how many they are. -/
def updateRows {α : Type} (rows : List α) (p : α → Bool) (f : α → α) : Nat × List α :=
  (rows.countP p, rows.map fun row => if p row then f row else row)

/-- Write a word into the closed column of a row: a known one into the record, with `put`, and
any other as a foreign word. -/
def putWord {α β : Type} (vocabulary : Vocabulary β) (word : String) (put : α → β → α)
    (row : Row α) : Row α :=
  match vocabulary.ofWord? word with
  | some value => { record := put row.record value }
  | none => { row with foreign := some word }

/-- Change issues directly, as far as changes of issues are not blocked. -/
def updateIssues (db : Database) (issueId : String) (f : Row Issue → Row Issue) :
    Except Error (Nat × Database) := do
  let (count, issues) := updateRows db.issues (fun row => row.record.id == issueId) f
  if 0 < count then
    db.permit .issueUpdate
  return (count, { db with issues := issues })

/-- Change steps directly, as far as changes of steps are not blocked. -/
def updateSteps (db : Database) (stepId : String) (f : Row Step → Row Step) :
    Except Error (Nat × Database) := do
  let (count, steps) := updateRows db.steps (fun row => row.record.id == stepId) f
  if 0 < count then
    db.permit .stepUpdate
  return (count, { db with steps := steps })

/-- Write a word into a closed column. -/
def setClosed (db : Database) (column : ClosedColumn) (id word : String) (isChecked : Bool) :
    Except Error (Nat × Database) := do
  -- A word is checked only where it is written into some row.
  let check (count : Nat) (isKnown : Bool) : Except Error Unit :=
    require (!isChecked || isKnown || count == 0) (.checkFailed column.rule)
  match column with
  | .workStatus =>
    let written ← db.updateIssues id
      (putWord WorkStatus.vocabulary word fun issue status => { issue with workStatus := status })
    check written.1 (WorkStatus.vocabulary.ofWord? word).isSome
    return written
  | .stepKind =>
    let written ← db.updateSteps id
      (putWord StepKind.vocabulary word fun step kind => { step with kind := kind })
    check written.1 (StepKind.vocabulary.ofWord? word).isSome
    return written
  | .gateStatus =>
    let (count, cursors) := updateRows db.cursors (fun row => row.record.issueId == id)
      (putWord GateStatus.vocabulary word fun cursor status =>
        { cursor with gate := { cursor.gate with status := some status } })
    check count (GateStatus.vocabulary.ofWord? word).isSome
    return (count, { db with cursors := cursors })

/-- Change the ledger entries of an issue, which is refused as soon as there is one. -/
def touchHistory (db : Database) (issueId : String) : Except Error (Nat × Database) := do
  require (!db.hasHistory issueId) .appendOnly
  return (0, db)

/-- Carry out a direct change. The number tells how many rows it changed or removed, those that
went along with others aside. -/
def rawWrite (db : Database) : RawWrite → Except Error (Nat × Database)
  | .deleteProject id => do
    let count := db.projects.countP fun p => p.id == id
    let db ← db.removeIssues fun issue => decide (0 < count) && issue.projectId == id
    let projects := db.projects.filter fun p => p.id != id
    let steps := db.steps.filter fun row => row.record.projectId != id
    return (count, { db with projects := projects, steps := steps })
  | .deleteIssue id => do
    let count := db.issues.countP fun row => row.record.id == id
    let db ← db.removeIssues fun issue => issue.id == id
    return (count, db)
  | .deleteStep id =>
    .ok
      (db.steps.countP fun row => row.record.id == id,
        { db with steps := db.steps.filter fun row => row.record.id != id })
  | .deleteHistory issueId => db.touchHistory issueId
  | .updateHistory issueId => db.touchHistory issueId
  | .clearShortId issueId =>
    db.updateIssues issueId fun row => row.modify fun issue => { issue with shortId := none }
  | .forceShortId issueId shortId =>
    { db with uniqueShortIds := false }.updateIssues issueId fun row =>
      row.modify fun issue => { issue with shortId := some shortId }
  | .setEventKind eventId word =>
    let (count, events) := updateRows db.events (fun row => row.record.id == eventId)
      (putWord EventKind.vocabulary word fun event kind => { event with kind := kind })
    .ok (count, { db with events := events })
  | .setClosed column id word isChecked => db.setClosed column id word isChecked
  | .block kind => .ok (0, { db with blocked := some kind })
  | .unblock => .ok (0, { db with blocked := none })

end Database

end ReviewPipeline
